import TutorApp.ConfigPatches
import TutorApp.System
import TutorApp.Texts

set_option autoImplicit false

namespace TutorApp

/-- A host of small letters, its labels kept apart by single dots. -/
def plainHost (host : String) : Bool :=
  (host.toList.all fun c => c == '.' || ('a' ≤ c && c ≤ 'z')) &&
    (Js.split '.' host).all fun label => label != ""

/-- A path that a URL takes as it stands. -/
def plainPath (path : String) : Bool :=
  path.toList.all fun c => c.isAlphanum || c == '-' || c == '_'

/-- What is known of the parser: it takes an address of plain parts apart, and the host of an
https address comes out in lower case. -/
structure Platform.ParsesUrls (platform : Platform) : Prop where
  plain : ∀ host path, plainHost host = true → plainPath path = true →
    platform.parseUrl ("https://" ++ host ++ "/" ++ path) = some ⟨"https:", "", "", host⟩
  lowered : ∀ address parsed, platform.parseUrl address = some parsed →
    parsed.protocol = "https:" → platform.toLowerCase parsed.hostname = parsed.hostname

/-- An address that opens over https and gives nobody's name away. -/
def Platform.Opens (platform : Platform) (address : String) : Prop :=
  Js.trim address ≠ "" ∧ ∃ parsed, platform.parseUrl address = some parsed ∧
    parsed.protocol = "https:" ∧ parsed.username = "" ∧ parsed.password = ""

/-- An address on one of a provider's hosts, or on a host below one. -/
def Platform.LeadsTo (platform : Platform) (provider : MeetingProvider) (address : String) : Prop :=
  ∃ hosts parsed, meetingProviders provider = .personalRoom hosts ∧
    platform.parseUrl address = some parsed ∧
      ∃ allowed ∈ hosts, parsed.hostname = allowed ∨ parsed.hostname.endsWith ("." ++ allowed) = true

/-- A lesson without a link, or with one a pupil can open; the tutor's own room is where the
provider says it is. -/
def Lesson.Joinable (platform : Platform) (own : Option String) (lesson : Lesson) : Prop :=
  (lesson.meetingUrl = none ∧ lesson.meetingProvider = none) ∨
    ∃ provider address, lesson.meetingProvider = some provider ∧ lesson.meetingUrl = some address ∧
      platform.Opens address ∧ (own = some address → platform.LeadsTo provider address)

section

variable {platform : Platform} {provider : MeetingProvider} {address random : String}

/-- A room that is accepted opens and is on the provider's hosts, unless it is blank. -/
theorem meetingRoomProblem_none (parses : platform.ParsesUrls)
    (accepted : meetingRoomProblem platform provider (some address) = none)
    (worded : Js.trim address ≠ "") :
    platform.Opens address ∧ platform.LeadsTo provider address := by
  unfold meetingRoomProblem at accepted
  split at accepted
  · rename_i absent
    cases absent
  · cases accepted
  · rename_i absent
    cases absent
  · rename_i hosts _ kind same
    obtain rfl := Option.some.inj same
    rw [if_neg worded] at accepted
    split at accepted
    · cases accepted
    · split at accepted
      · cases accepted
      · rename_i parsed read
        split at accepted
        · cases accepted
        · rename_i https
          split at accepted
          · cases accepted
          · rename_i anonymous
            split at accepted
            · cases accepted
            · rename_i hosted
              rw [not_not] at https
              rw [not_or, not_not, not_not] at anonymous
              refine ⟨⟨worded, parsed, read, https, anonymous⟩, hosts, parsed, kind, read, ?_⟩
              rw [Bool.not_eq_true, Bool.not_eq_false', isHostOf, parses.lowered _ _ read https,
                List.any_eq_true] at hosted
              obtain ⟨allowed, listed, on⟩ := hosted
              rw [Bool.or_eq_true, beq_iff_eq] at on
              exact ⟨allowed, listed, on⟩

theorem meetingRoomProblem_generated {roomUrl : Option String}
    (kind : meetingProviders provider = .generated)
    (accepted : meetingRoomProblem platform provider roomUrl = none) : roomUrl = none := by
  unfold meetingRoomProblem at accepted
  split at accepted <;> simp_all

theorem jitsiRoom_opens (parses : platform.ParsesUrls) (plain : plainPath random = true) :
    platform.Opens (jitsiRoom random) := by
  have path : plainPath ("foxacademy-" ++ random) = true := by
    unfold plainPath at plain ⊢
    rw [String.toList_append, List.all_append, plain]
    decide
  have read := parses.plain "meet.jit.si" ("foxacademy-" ++ random) (by decide) path
  have whole : "https://" ++ "meet.jit.si" ++ "/" ++ ("foxacademy-" ++ random) =
      jitsiRoom random := by
    rw [← String.append_assoc]
    rfl
  rw [whole] at read
  refine ⟨fun blank => ?_, _, read, rfl, rfl, rfl⟩
  have head : 'h' ∈ "https://meet.jit.si/foxacademy-".toList := by decide +kernel
  have first : 'h' ∈ (jitsiRoom random).toList := by
    unfold jitsiRoom
    rewrite [String.toList_append]
    exact List.mem_append_left _ head
  exact absurd (Js.trim_eq_empty.mp blank 'h' first) (by decide)

end

namespace MeetingAccountsService

variable {platform : Platform} {user : User} {draw : Draw} {endpoints : Endpoints}
  {provider : MeetingProvider} {request : RoomRequest} {db : Db} {url : String}

/-- What a provider answers to a request for a room, if it answers with one. -/
def roomAnswer (endpoints : Endpoints) (provider : MeetingProvider) (accessToken : String)
    (request : RoomRequest) : Option String :=
  (endpoints (.room provider accessToken request)).okJson.bind fun body =>
    stringField body (roomField provider)

/-- A connected account, a token for it and an answer with an address: the provider makes a
room. -/
structure Makes (platform : Platform) (user : User) (draw : Draw) (endpoints : Endpoints)
    (provider : MeetingProvider) (request : RoomRequest) (db : Db) (url : String) : Prop where
  connectable : isConnectable provider = true
  dated : canAskForRoom provider request = true
  answered : ∃ account accessToken, accountOf db user.id provider = some account ∧
    (accessTokenFor platform draw endpoints account db).result = .ok (some accessToken) ∧
      roomAnswer endpoints provider accessToken request = some url

theorem createRoom_some :
    (createRoom platform user draw endpoints provider request db).result = .ok (some url) ↔
      Makes platform user draw endpoints provider request db url := by
  unfold createRoom
  constructor
  · intro made
    split at made
    · cases made
    · rename_i connectable
      rw [Bool.not_eq_true, Bool.not_eq_false'] at connectable
      split at made
      · cases made
      · rename_i account held
        dsimp only at made
        split at made
        · rename_i accessToken granted
          split at made
          · rename_i dated
            exact ⟨connectable, dated, account, accessToken, held, granted, Except.ok.inj made⟩
          · cases made
        · rename_i none
          exact absurd made (none url)
  · rintro ⟨connectable, dated, account, accessToken, held, granted, answered⟩
    rw [roomAnswer] at answered
    simp only [connectable, held, granted, dated, answered, Bool.not_true, Bool.false_eq_true,
      ↓reduceIte]

end MeetingAccountsService

/-- An address that gives nobody's name away. -/
def Platform.Anonymous (platform : Platform) (address : String) : Prop :=
  ∀ parsed, platform.parseUrl address = some parsed → parsed.username = "" ∧ parsed.password = ""

namespace LessonsService

variable {platform : Platform} {user : User} {draw : Draw} {endpoints : Endpoints}
  {dto : CreateLessonDto} {db : Db} {view : LessonView}

/-- The room the tutor's settings name. -/
def ownRoom (platform : Platform) (user : User) : Option String :=
  (parseUserConfig platform user.config).meeting.bind MeetingSettings.roomUrl

/-- What a provider is asked for when a lesson is booked. -/
def roomRequest (platform : Platform) (user : User) (subjectId : Option Id) (dto : CreateLessonDto)
    (db : Db) : RoomRequest :=
  ⟨topicFor user subjectId db, platform.parseDate dto.startsAt, dto.durationMinutes⟩

/-- A lesson that was created carries the link its room was settled with. -/
theorem create_link (success : (create platform user draw endpoints dto db).result = .ok view) :
    ∃ subjectId link, checkBooking user dto db = .ok subjectId ∧
      (meetingFor platform user draw endpoints subjectId (platform.parseDate dto.startsAt)
        dto.durationMinutes db).result = .ok link ∧
      view.lesson.meetingUrl = link.map Prod.snd ∧
        view.lesson.meetingProvider = link.map Prod.fst := by
  unfold create at success
  split at success
  · cases success
  · rename_i subjectId checked
    dsimp only at success
    split at success
    · cases success
    · rename_i link settled
      split at success
      · cases success
      · rename_i stored
        obtain rfl := Except.ok.inj success
        obtain ⟨_, -, _, -, _, rfl, -, rfl⟩ := storeLesson_ok.mp stored
        exact ⟨subjectId, link, checked, settled, rfl, rfl⟩

/-- Where the settings name a provider, the link is the room it makes, or else their own. -/
theorem meetingFor_some {settings : MeetingSettings} {subjectId : Option Id}
    {link : Option (MeetingProvider × String)}
    (chosen : (parseUserConfig platform user.config).meeting = some settings)
    (settled : (meetingFor platform user draw endpoints subjectId (platform.parseDate dto.startsAt)
      dto.durationMinutes db).result = .ok link) :
    (∃ url, MeetingAccountsService.Makes platform user draw endpoints settings.provider
        (roomRequest platform user subjectId dto db) db url ∧ link = some (settings.provider, url)) ∨
      (¬ ∃ url, MeetingAccountsService.Makes platform user draw endpoints settings.provider
        (roomRequest platform user subjectId dto db) db url) ∧
        link = meetingLinkFor platform (some settings) draw.random := by
  rw [meetingFor, chosen] at settled
  dsimp only at settled
  simp only [← MeetingAccountsService.createRoom_some, roomRequest]
  cases made : (MeetingAccountsService.createRoom platform user draw endpoints settings.provider
      ⟨topicFor user subjectId db, platform.parseDate dto.startsAt, dto.durationMinutes⟩ db).result with
  | error reason =>
      rw [made] at settled
      cases settled
  | ok url =>
      rw [made] at settled
      cases url with
      | none =>
          refine .inr ⟨?_, (Except.ok.inj settled).symm⟩
          rintro ⟨url, same⟩
          cases same
      | some url => exact .inl ⟨url, rfl, (Except.ok.inj settled).symm⟩

theorem meetingFor_none {subjectId : Option Id} {link : Option (MeetingProvider × String)}
    (teaches : (parseUserConfig platform user.config).meeting = none)
    (settled : (meetingFor platform user draw endpoints subjectId (platform.parseDate dto.startsAt)
      dto.durationMinutes db).result = .ok link) : link = none := by
  rw [meetingFor, teaches] at settled
  exact (Except.ok.inj settled).symm

/-- The own room of a tutor is one that was accepted. -/
theorem ownRoom_accepted {settings : MeetingSettings}
    (chosen : (parseUserConfig platform user.config).meeting = some settings) :
    ownRoom platform user = settings.roomUrl ∧
      meetingRoomProblem platform settings.provider settings.roomUrl = none := by
  refine ⟨?_, ?_⟩
  · rw [ownRoom, chosen]
    rfl
  · exact ((parseUserConfig_valid user.config).room settings chosen).2

/-- A link is joinable when it opens and, if it is the tutor's own room, was accepted as one. -/
theorem joinable_iff {settings : MeetingSettings} {lesson : Lesson} {address : String}
    (parses : platform.ParsesUrls)
    (chosen : (parseUserConfig platform user.config).meeting = some settings)
    (url : lesson.meetingUrl = some address)
    (provider : lesson.meetingProvider = some settings.provider) :
    lesson.Joinable platform (ownRoom platform user) ↔ platform.Opens address := by
  obtain ⟨own, accepted⟩ := ownRoom_accepted chosen
  unfold Lesson.Joinable
  rw [url, provider]
  constructor
  · rintro (⟨none, -⟩ | ⟨_, _, -, same, opens, -⟩)
    · cases none
    · rw [Option.some.inj same]
      exact opens
  · refine fun opens => .inr ⟨_, address, rfl, rfl, opens, fun named => ?_⟩
    rw [← own, named] at accepted
    exact (meetingRoomProblem_none parses accepted opens.1).2

/-- The link of the settings alone: a generated room, or the own room, which is only wrong when
it is blank. -/
theorem meetingLinkFor_opens {settings : MeetingSettings} {random : String}
    (parses : platform.ParsesUrls) (drawn : plainPath random = true)
    (accepted : meetingRoomProblem platform settings.provider settings.roomUrl = none) :
    (meetingLinkFor platform (some settings) random = none ∧ settings.roomUrl = none) ∨
      ∃ address, meetingLinkFor platform (some settings) random = some (settings.provider, address) ∧
        (platform.Opens address ↔ ∀ own, settings.roomUrl = some own → Js.trim own ≠ "") := by
  obtain ⟨provider, roomUrl⟩ := settings
  dsimp only at accepted ⊢
  cases kind : meetingProviders provider with
  | generated =>
      have roomless := meetingRoomProblem_generated kind accepted
      refine .inr ⟨jitsiRoom random, ?_, fun _ own same => ?_, fun _ => jitsiRoom_opens parses drawn⟩
      · rw [meetingLinkFor]
        simp only [kind]
      · rw [roomless] at same
        cases same
  | personalRoom hosts =>
      cases roomUrl with
      | none =>
          refine .inl ⟨?_, rfl⟩
          rw [meetingLinkFor]
          simp only [kind]
      | some address =>
          refine .inr ⟨address, ?_, fun opens own same => ?_, fun worded => ?_⟩
          · rw [meetingLinkFor]
            simp only [kind, accepted, ↓reduceIte]
          · obtain rfl := Option.some.inj same
            exact opens.1
          · exact (meetingRoomProblem_none parses accepted (worded address rfl)).1

/-- A room that a provider makes gives nobody's name away, and for an own room that is blank it
makes one. -/
structure Arranges (platform : Platform) (user : User) (draw : Draw) (endpoints : Endpoints)
    (settings : MeetingSettings) (request : RoomRequest) (db : Db) : Prop where
  anonymous : ∀ url, MeetingAccountsService.Makes platform user draw endpoints settings.provider
    request db url → platform.Anonymous url
  blank : ∀ own, settings.roomUrl = some own → Js.trim own = "" → ∃ url,
    MeetingAccountsService.Makes platform user draw endpoints settings.provider request db url

theorem arranges_made {settings : MeetingSettings} {request : RoomRequest} {room : String}
    (made : MeetingAccountsService.Makes platform user draw endpoints settings.provider request db
      room) :
    Arranges platform user draw endpoints settings request db ↔ platform.Anonymous room := by
  constructor
  · exact fun arranges => arranges.anonymous room made
  · refine fun anonymous => ⟨fun also making => ?_, fun _ _ _ => ⟨room, made⟩⟩
    rw [← MeetingAccountsService.createRoom_some] at making made
    obtain rfl := Option.some.inj (Except.ok.inj (making.symm.trans made))
    exact anonymous

theorem arranges_unmade {settings : MeetingSettings} {request : RoomRequest}
    (unmade : ¬ ∃ url, MeetingAccountsService.Makes platform user draw endpoints settings.provider
      request db url) :
    Arranges platform user draw endpoints settings request db ↔
      ∀ own, settings.roomUrl = some own → Js.trim own ≠ "" := by
  constructor
  · exact fun arranges own same blank => unmade (arranges.blank own same blank)
  · exact fun worded => ⟨fun url made => absurd ⟨url, made⟩ unmade,
      fun own same blank => absurd blank (worded own same)⟩

/-- The lesson a booking creates can be joined, if it has a link at all, exactly when its room
was arranged so. -/
theorem created_link_joinable_iff (parses : platform.ParsesUrls)
    (drawn : plainPath draw.random = true)
    (provided : ∀ provider accessToken request url,
      MeetingAccountsService.roomAnswer endpoints provider accessToken request = some url →
        Js.trim url ≠ "" ∧ ∃ parsed, platform.parseUrl url = some parsed ∧ parsed.protocol = "https:")
    (success : (create platform user draw endpoints dto db).result = .ok view) :
    view.lesson.Joinable platform (ownRoom platform user) ↔
      ∀ subjectId settings, checkBooking user dto db = .ok subjectId →
        (parseUserConfig platform user.config).meeting = some settings →
          Arranges platform user draw endpoints settings
            (roomRequest platform user subjectId dto db) db := by
  obtain ⟨subjectId, link, checked, settled, url, provider⟩ := create_link success
  rw [checked]
  cases chosen : (parseUserConfig platform user.config).meeting with
  | none =>
      rw [meetingFor_none chosen settled] at url provider
      exact ⟨nofun, fun _ => .inl ⟨url, provider⟩⟩
  | some settings =>
      have condition : (∀ given chosen', Except.ok subjectId = (Except.ok given : Service _) →
          some settings = some chosen' → Arranges platform user draw endpoints chosen'
            (roomRequest platform user given dto db) db) ↔
          Arranges platform user draw endpoints settings
            (roomRequest platform user subjectId dto db) db := by
        refine ⟨fun holds => holds _ _ rfl rfl, fun arranges => ?_⟩
        rintro _ _ ⟨⟩ ⟨⟩
        exact arranges
      rw [condition]
      rcases meetingFor_some chosen settled with ⟨room, made, rfl⟩ | ⟨unmade, rfl⟩
      · rw [joinable_iff parses chosen url provider, arranges_made made]
        obtain ⟨-, -, _, _, -, -, answered⟩ := made
        obtain ⟨worded, parsed, read, https⟩ := provided _ _ _ _ answered
        constructor
        · rintro ⟨-, other, same, -, username, password⟩ again reads
          rw [Option.some.inj (reads.symm.trans same)]
          exact ⟨username, password⟩
        · exact fun anonymous => ⟨worded, parsed, read, https, anonymous parsed read⟩
      · rw [arranges_unmade unmade]
        rcases meetingLinkFor_opens parses drawn (ownRoom_accepted chosen).2 with
          ⟨none, roomless⟩ | ⟨address, linked, opens⟩
        · rw [none] at url provider
          rw [roomless]
          exact ⟨fun _ => nofun, fun _ => .inl ⟨url, provider⟩⟩
        · rw [linked] at url provider
          rw [joinable_iff parses chosen url provider]
          exact opens

end LessonsService

def plainUrl (address : String) : Option Url :=
  if "https://".toList.isPrefixOf address.toList then
    let rest := address.toList.drop 8
    let host := String.ofList (rest.takeWhile fun c => c != '/')
    let path := String.ofList ((rest.dropWhile fun c => c != '/').drop 1)
    if plainHost host && plainPath path then some ⟨"https:", "", "", host⟩ else none
  else none

theorem plainHost_letters {host : String} (plain : plainHost host = true) :
    ∀ c ∈ host.toList, c = '.' ∨ ('a' ≤ c ∧ c ≤ 'z') := by
  intro c member
  rw [plainHost, Bool.and_eq_true, List.all_eq_true] at plain
  simpa using plain.1 c member

theorem plainUrl_plain {host path : String} (plain : plainHost host = true)
    (reads : plainPath path = true) :
    plainUrl ("https://" ++ host ++ "/" ++ path) = some ⟨"https:", "", "", host⟩ := by
  have slashless : ∀ c ∈ host.toList, (c != '/') = true := by
    intro c member
    rcases plainHost_letters plain c member with rfl | ⟨low, -⟩
    · decide
    · rw [bne_iff_ne]
      rintro rfl
      exact absurd low (by decide)
  have text : ("https://" ++ host ++ "/" ++ path).toList =
      "https://".toList ++ (host.toList ++ '/' :: path.toList) := by
    simp only [String.toList_append, List.append_assoc]
    rfl
  have front : (host.toList ++ '/' :: path.toList).takeWhile (fun c => c != '/') = host.toList := by
    rw [List.takeWhile_append_of_pos slashless, List.takeWhile_cons_of_neg (by decide),
      List.append_nil]
  have back : (host.toList ++ '/' :: path.toList).dropWhile (fun c => c != '/') =
      '/' :: path.toList := by
    rw [List.dropWhile_append_of_pos slashless, List.dropWhile_cons_of_neg (by decide)]
  have scheme : "https://".toList.length = 8 := by decide +kernel
  rw [plainUrl, text, if_pos (List.isPrefixOf_iff_prefix.mpr (List.prefix_append _ _)), ← scheme,
    List.drop_left]
  simp only [front, back, List.drop_one, List.tail_cons, String.ofList_toList, plain, reads,
    Bool.and_self, ↓reduceIte]

theorem toLower_small {c : Char} (small : 'a' ≤ c) : c.toLower = c := by
  unfold Char.toLower
  refine dif_neg fun capital => ?_
  have order : 'a'.val ≤ 'Z'.val := UInt32.le_trans small capital.2
  exact absurd order (by decide)

theorem lowered_plain {text : String} (letters : ∀ c ∈ text.toList, c = '.' ∨ ('a' ≤ c ∧ c ≤ 'z')) :
    Platform.plain.toLowerCase text = text := by
  have same : text.toList.map Char.toLower = text.toList := by
    refine (List.map_congr_left fun c member => ?_).trans (List.map_id _)
    rcases letters c member with rfl | ⟨small, -⟩
    · rfl
    · exact toLower_small small
  change String.ofList (text.toList.map Char.toLower) = text
  rw [same, String.ofList_toList]

def Platform.browsing : Platform := { Platform.plain with parseUrl := plainUrl }

theorem browsing_parses : Platform.browsing.ParsesUrls where
  plain _ _ := plainUrl_plain
  lowered address parsed read _ := by
    change plainUrl address = some parsed at read
    unfold plainUrl at read
    split at read
    · dsimp only at read
      split at read
      · rename_i plain
        obtain rfl := Option.some.inj read
        rw [Bool.and_eq_true] at plain
        exact lowered_plain (plainHost_letters plain.1)
      · cases read
    · cases read

/-- A school whose admin has put an own Zoom room into the settings. -/
def zoomRoom (roomUrl : String) : World :=
  World.empty.after .browsing [foxSchool, enrol "a1" "k1" "Kim",
    (.quiet "x", .command "a1" (.updateConfig ⟨none, none, none,
      some (.obj [("provider", .str "ZOOM"), ("roomUrl", .str roomUrl)])⟩))]

def kimsLesson : CreateLessonDto :=
  ⟨.given "k1", .absent, .absent, "2026-03-01T10:00:00.000Z", 60⟩

/-- Booked by the tutor of that school, while no provider can be reached. -/
def bookedLink (roomUrl : String) : Option (Option String × Option MeetingProvider) :=
  ((zoomRoom roomUrl).db.users.find "a1").bind fun user =>
    (LessonsService.create .browsing user (Outside.quiet "l1").draw (Outside.quiet "l1").endpoints
      kimsLesson (zoomRoom roomUrl).db).result.toOption.map fun view =>
        (view.lesson.meetingUrl, view.lesson.meetingProvider)

theorem bookedLink_some {roomUrl : String} {link : Option String × Option MeetingProvider}
    (booked : bookedLink roomUrl = some link) :
    ∃ user view, (zoomRoom roomUrl).db.users.find "a1" = some user ∧
      (LessonsService.create .browsing user (Outside.quiet "l1").draw (Outside.quiet "l1").endpoints
        kimsLesson (zoomRoom roomUrl).db).result = .ok view ∧
      (view.lesson.meetingUrl, view.lesson.meetingProvider) = link := by
  simp only [bookedLink, Option.bind_eq_some_iff, Option.map_eq_some_iff] at booked
  obtain ⟨user, found, view, created, same⟩ := booked
  refine ⟨user, view, found, ?_, same⟩
  cases result : (LessonsService.create .browsing user (Outside.quiet "l1").draw
      (Outside.quiet "l1").endpoints kimsLesson (zoomRoom roomUrl).db).result with
  | error reason =>
      rw [result] at created
      cases created
  | ok other =>
      rw [result] at created
      rw [Option.some.inj created]

/-- An own room that was accepted is on the lesson. -/
theorem zoom_lesson_joinable : ∃ user view,
    (zoomRoom "https://zoom.us/j-123").db.users.find "a1" = some user ∧
      (LessonsService.create .browsing user (Outside.quiet "l1").draw (Outside.quiet "l1").endpoints
        kimsLesson (zoomRoom "https://zoom.us/j-123").db).result = .ok view ∧
      view.lesson.meetingUrl = some "https://zoom.us/j-123" ∧
      view.lesson.Joinable .browsing (LessonsService.ownRoom .browsing user) := by
  have booked : bookedLink "https://zoom.us/j-123" =
      some (some "https://zoom.us/j-123", some .zoom) := by
    decide +kernel
  obtain ⟨user, view, found, created, link⟩ := bookedLink_some booked
  have chosen : ((zoomRoom "https://zoom.us/j-123").db.users.find "a1").map
      (fun user => (parseUserConfig .browsing user.config).meeting) =
        some (some ⟨.zoom, some "https://zoom.us/j-123"⟩) := by
    decide +kernel
  rw [found, Option.map_some, Option.some.injEq] at chosen
  refine ⟨user, view, found, created, congrArg Prod.fst link, ?_⟩
  refine (LessonsService.created_link_joinable_iff browsing_parses (by decide)
    (fun _ _ _ _ answered => (by cases answered)) created).mpr fun _ settings _ set => ?_
  obtain rfl := Option.some.inj (chosen.symm.trans set)
  constructor
  · rintro url ⟨-, -, _, _, -, -, answered⟩
    cases answered
  · intro own same blank
    rw [← Option.some.inj same] at blank
    exact absurd blank (by decide)

/-- A blank room passes the validators, and is on the lesson as its link. -/
theorem blank_room_linked : Reachable .browsing (zoomRoom "  ") ∧ Platform.browsing.ParsesUrls ∧
    ∃ user view, (zoomRoom "  ").db.users.find "a1" = some user ∧
      (LessonsService.create .browsing user (Outside.quiet "l1").draw (Outside.quiet "l1").endpoints
        kimsLesson (zoomRoom "  ").db).result = .ok view ∧
      ¬ view.lesson.Joinable .browsing (LessonsService.ownRoom .browsing user) := by
  have booked : bookedLink "  " = some (some "  ", some .zoom) := by decide +kernel
  obtain ⟨user, view, found, created, link⟩ := bookedLink_some booked
  refine ⟨Reachable.after .browsing .refl _, browsing_parses, user, view, found, created, ?_⟩
  rw [Prod.mk.injEq] at link
  unfold Lesson.Joinable
  rw [link.1]
  rintro (⟨none, -⟩ | ⟨_, address, -, same, ⟨worded, -⟩, -⟩)
  · cases none
  · rw [← Option.some.inj same] at worded
    exact worded (by decide)

end TutorApp
