import TutorApp.MeetingExchange

set_option autoImplicit false

namespace TutorApp

open Relational
open Js (Instant)

namespace MeetingAccountsService

variable {platform : Platform} {user : User} {draw : Draw} {endpoints : Endpoints}
  {provider : MeetingProvider} {request : RoomRequest} {db : Db} {account : MeetingAccount}

theorem forgetMeetingAccount_ne (held : accountOf db user.id provider = some account) :
    db.forgetMeetingAccount account.id ≠ db := by
  intro same
  have gone : (db.forgetMeetingAccount account.id).meetingAccounts.find account.id = none := by
    rw [find_forgetMeetingAccount, if_pos rfl]
  have there : db.meetingAccounts.find account.id = some account :=
    Table.find_key (accountOf_eq_some held).1
  rw [same, there] at gone
  cases gone

/-- The calls for a room that end before the provider or the stored connection is touched: no
provider to connect, no connection, or a cached token and a start Zoom cannot be told. -/
inductive Unasked (platform : Platform) (user : User) (draw : Draw) (provider : MeetingProvider)
    (startsAt : Option Instant) (db : Db) : Prop where
  | unconnectable (other : isConnectable provider = false) :
      Unasked platform user draw provider startsAt db
  | unconnected (absent : accountOf db user.id provider = none) :
      Unasked platform user draw provider startsAt db
  | undated {account : MeetingAccount} {token : String}
      (held : accountOf db user.id provider = some account)
      (cached : cachedToken platform draw.now account = some token)
      (zoom : provider = .zoom) (undated : startsAt = none) :
      Unasked platform user draw provider startsAt db

theorem canAskForRoom_eq_false :
    canAskForRoom provider request = false ↔ provider = .zoom ∧ request.startsAt = none := by
  simp only [canAskForRoom, Bool.or_eq_false_iff, bne_eq_false_iff_eq, Option.isSome_eq_false_iff,
    Option.isNone_iff_eq_none]

theorem accessTokenFor_cached {token : String}
    (cached : cachedToken platform draw.now account = some token) :
    accessTokenFor platform draw endpoints account db = ⟨.ok (some token), db, []⟩ := by
  simp only [accessTokenFor, cached]

/-- Spending a refresh token deletes the connection, or has asked the token endpoint. -/
theorem accessTokenFor_silent_iff (held : accountOf db user.id provider = some account) :
    ((accessTokenFor platform draw endpoints account db).db = db ∧
        (accessTokenFor platform draw endpoints account db).calls = []) ↔
      ∃ token, cachedToken platform draw.now account = some token := by
  have forgotten := forgetMeetingAccount_ne held
  unfold accessTokenFor
  cases cached : cachedToken platform draw.now account with
  | some token => simp only [and_self, Option.some.injEq, exists_eq']
  | none =>
      simp only [reduceCtorEq, exists_false, iff_false, not_and]
      cases decrypt platform account.refreshToken with
      | none => exact fun same => absurd same forgotten
      | some refreshToken =>
          unfold exchange
          cases requireCredentials platform account.provider with
          | error reason => exact fun same => absurd same forgotten
          | ok credentials =>
              dsimp only
              cases readTokens (endpoints (.token account.provider credentials
                  (.refreshToken refreshToken))) with
              | error reason => exact fun same => absurd same forgotten
              | ok tokens =>
                  dsimp only
                  split <;> exact fun _ => List.cons_ne_nil _ _

theorem createRoom_silent_iff :
    ((createRoom platform user draw endpoints provider request db).db = db ∧
        (createRoom platform user draw endpoints provider request db).calls = []) ↔
      Unasked platform user draw provider request.startsAt db := by
  unfold createRoom
  by_cases connectable : isConnectable provider = true
  case neg =>
    rw [Bool.not_eq_true] at connectable
    simp only [connectable, Bool.not_false, ↓reduceIte, and_self, true_iff]
    exact .unconnectable connectable
  simp only [connectable, Bool.not_true, Bool.false_eq_true, ↓reduceIte]
  cases held : accountOf db user.id provider with
  | none => exact ⟨fun _ => .unconnected held, fun _ => ⟨rfl, rfl⟩⟩
  | some account =>
      have silent := @accessTokenFor_silent_iff platform user draw endpoints provider db account held
      dsimp only
      constructor
      · intro ended
        have quiet : (accessTokenFor platform draw endpoints account db).db = db ∧
            (accessTokenFor platform draw endpoints account db).calls = [] := by
          revert ended
          split
          · split
            · exact fun ended => absurd ended.2 (List.append_ne_nil_of_right_ne_nil _ (by simp))
            · exact id
          · exact id
        obtain ⟨token, cached⟩ := silent.mp quiet
        rw [accessTokenFor_cached cached] at ended
        by_cases asked : canAskForRoom provider request = true
        · simp only [asked, ↓reduceIte, List.nil_append, List.cons_ne_nil, and_false] at ended
        · rw [Bool.not_eq_true, canAskForRoom_eq_false] at asked
          exact .undated held cached asked.1 asked.2
      · intro unasked
        cases unasked with
        | unconnectable other => cases connectable.symm.trans other
        | unconnected absent => cases held.symm.trans absent
        | undated found cached zoom undated =>
            obtain rfl := Option.some.inj (held.symm.trans found)
            have unable : canAskForRoom provider request = false :=
              canAskForRoom_eq_false.mpr ⟨zoom, undated⟩
            rw [accessTokenFor_cached cached]
            simp only [unable, Bool.false_eq_true, ↓reduceIte, and_self]

end MeetingAccountsService

namespace LessonsService

variable {platform : Platform} {user : User} {draw : Draw} {endpoints : Endpoints}
  {dto : CreateLessonDto} {db : Db}

/-- A booking for which no room is asked of anybody: the settings name no provider, or the call
for one ends before it reaches it. -/
def Unarranged (platform : Platform) (user : User) (draw : Draw) (startsAt : Option Instant)
    (db : Db) : Prop :=
  ∀ settings ∈ (parseUserConfig platform user.config).meeting,
    MeetingAccountsService.Unasked platform user draw settings.provider startsAt db

theorem meetingFor_silent_iff {subjectId : Option Id} {startsAt : Option Instant}
    {durationMinutes : Int} :
    ((meetingFor platform user draw endpoints subjectId startsAt durationMinutes db).db = db ∧
        (meetingFor platform user draw endpoints subjectId startsAt durationMinutes db).calls = []) ↔
      Unarranged platform user draw startsAt db := by
  unfold meetingFor Unarranged
  cases (parseUserConfig platform user.config).meeting with
  | none => simp only [and_self, Option.mem_def, reduceCtorEq, false_imp_iff, implies_true]
  | some settings =>
      dsimp only
      rw [MeetingAccountsService.createRoom_silent_iff]
      simp only [Option.mem_def, Option.some.injEq, forall_eq']

/-- A refused booking is without effect exactly when it is refused before a room is arranged, or
there is nothing to arrange: the student and the group are looked at too late for the others. -/
theorem refused_booking_silent_iff {reason : HttpError}
    (refused : (create platform user draw endpoints dto db).result = .error reason) :
    ((create platform user draw endpoints dto db).db = db ∧
        (create platform user draw endpoints dto db).calls = []) ↔
      (checkBooking user dto db).isOk = false ∨
        Unarranged platform user draw (platform.parseDate dto.startsAt) db := by
  unfold create at refused ⊢
  cases checked : checkBooking user dto db with
  | error reason => exact ⟨fun _ => .inl rfl, fun _ => ⟨rfl, rfl⟩⟩
  | ok subjectId =>
      have silent := @meetingFor_silent_iff platform user draw endpoints db subjectId
        (platform.parseDate dto.startsAt) dto.durationMinutes
      rw [checked] at refused
      rw [show (Except.ok subjectId : Service (Option Id)).isOk = true from rfl, ← silent]
      dsimp only at refused ⊢
      cases met : (meetingFor platform user draw endpoints subjectId
          (platform.parseDate dto.startsAt) dto.durationMinutes db).result with
      | error reason => simp only [Bool.true_eq_false, false_or]
      | ok link =>
          rw [met] at refused
          dsimp only at refused ⊢
          split
          · simp only [Bool.true_eq_false, false_or]
          · rename_i view next stored
            rw [stored] at refused
            cases refused

end LessonsService

/-- The connected admin, with Zoom chosen in the settings. -/
def zoomTutor : World := zoomConnected.after .plain [
  (.quiet "", .command "a1" (.updateConfig ⟨none, none, none,
    some (.obj [("provider", .str "ZOOM")])⟩))]

def zoomAdmin : User :=
  { foxAdmin with config := UserConfig.toJson ⟨false, 30, true, some ⟨.zoom, none⟩⟩ }

/-- A lesson for a student there is not. -/
def strayBooking : CreateLessonDto :=
  ⟨.given "nobody", .absent, .absent, "2026-03-01T10:00:00.000Z", 60⟩

/-- The booking is refused after Zoom has made a room for it. -/
theorem stray_booking_makes_room :
    Reachable .plain zoomTutor ∧ zoomTutor.db.users.find "a1" = some zoomAdmin ∧
      let booking := LessonsService.create .plain zoomAdmin (Outside.quiet "").draw
        (fun _ => .response 201 (some (.obj [("join_url", .str "https://zoom.us/j/1")])))
        strayBooking zoomTutor.db
      booking.result = .error (.notFound "Student not found") ∧
        ∃ request, booking.calls = [.room .zoom "access" request] := by
  refine ⟨(Reachable.after .plain .refl _).after .plain _, by decide +kernel, ?_⟩
  intro booking
  exact ⟨by decide +kernel, ⟨"Lesson", some 1772359200000, 60⟩, by decide +kernel⟩

/-- Without a student or a group it is refused before anything is asked. -/
theorem empty_booking_silent :
    let booking := LessonsService.create .plain zoomAdmin (Outside.quiet "").draw
      (fun _ => .networkFailure) { strayBooking with studentId := .absent } zoomTutor.db
    booking.db = zoomTutor.db ∧ booking.calls = [] := by
  intro booking
  have refused : booking.result =
      .error (.badRequest "A lesson is for exactly one student or one group") := by decide +kernel
  exact (LessonsService.refused_booking_silent_iff refused).mpr (.inl rfl)

/-- What a room is asked for with, once the subject is settled. -/
structure RoomPlan where
  subjectId : Option Id
  settings : MeetingSettings
  request : RoomRequest
  deriving Repr, DecidableEq

/-- Where a call of `LessonsService.create` stands, between two of its statements or requests.
It is refused by a check of its own and broken by `createRoom`. -/
inductive BookingPhase where
  | asked
  | naming (subjectId : Option Id) (settings : MeetingSettings)
  | looking (plan : RoomPlan)
  | refreshing (plan : RoomPlan) (account : MeetingAccount) (token : String)
  | writing (plan : RoomPlan) (account : MeetingAccount) (tokens : TokenSet)
  | forgetting (plan : RoomPlan) (account : MeetingAccount)
  | requesting (plan : RoomPlan) (accessToken : String)
  | choosing (subjectId : Option Id) (link : Option (MeetingProvider × String))
  | storing (subjectId : Option Id) (link : Option (MeetingProvider × String))
      (target : Option Id × Option Id)
  | booked (view : LessonView)
  | refused (reason : HttpError)
  | broken (reason : HttpError)
  deriving Repr, DecidableEq

namespace BookingPhase

open MeetingAccountsService LessonsService

section

variable (platform : Platform) (user : User) (dto : CreateLessonDto) (draw : Draw)
  (endpoints : Endpoints) (db : Db)

/-- What the settings offer when no room was made. -/
def fallback (plan : RoomPlan) : BookingPhase :=
  .choosing plan.subjectId (meetingLinkFor platform (some plan.settings) draw.random)

/-- What a booking does with the account it reads. -/
def found (plan : RoomPlan) : Option MeetingAccount → BookingPhase
  | none => fallback platform draw plan
  | some account =>
      match cachedToken platform draw.now account with
      | some cached => .requesting plan cached
      | none =>
          match decrypt platform account.refreshToken with
          | none => .forgetting plan account
          | some token => .refreshing plan account token

/-- The next thing a booking does, and the database after it. -/
def next : BookingPhase → BookingPhase × Db
  | .asked =>
      match checkBooking user dto db with
      | .error reason => (.refused reason, db)
      | .ok subjectId =>
          match (parseUserConfig platform user.config).meeting with
          | none => (.choosing subjectId none, db)
          | some settings => (.naming subjectId settings, db)
  | .naming subjectId settings =>
      (.looking ⟨subjectId, settings,
        ⟨topicFor user subjectId db, platform.parseDate dto.startsAt, dto.durationMinutes⟩⟩, db)
  | .looking plan =>
      if isConnectable plan.settings.provider then
        (found platform draw plan (accountOf db user.id plan.settings.provider), db)
      else (fallback platform draw plan, db)
  | .refreshing plan account token =>
      match (exchange platform endpoints account.provider (.refreshToken token)).1 with
      | .ok tokens => (.writing plan account tokens, db)
      | .error _ => (.forgetting plan account, db)
  | .writing plan account tokens =>
      match writeBack platform draw account tokens db with
      | .ok next => (.requesting plan tokens.accessToken, next)
      | .error reason => (.broken reason, db)
  | .forgetting plan account =>
      (fallback platform draw plan, db.forgetMeetingAccount account.id)
  | .requesting plan accessToken =>
      if canAskForRoom plan.settings.provider plan.request then
        match (endpoints (.room plan.settings.provider accessToken plan.request)).okJson.bind
          fun body => stringField body (roomField plan.settings.provider) with
        | some url => (.choosing plan.subjectId (some (plan.settings.provider, url)), db)
        | none => (fallback platform draw plan, db)
      else (fallback platform draw plan, db)
  | .choosing subjectId link =>
      match bookingTarget user dto db with
      | .error reason => (.refused reason, db)
      | .ok target => (.storing subjectId link target, db)
  | .storing subjectId link target =>
      match insertLesson platform user draw dto subjectId link target db with
      | .error reason => (.refused reason, db)
      | .ok (view, next) => (.booked view, next)
  | ended => (ended, db)

end

/-- How a booking that is over ended. -/
def outcome : BookingPhase → Option (Service LessonView)
  | .booked view => some (.ok view)
  | .refused reason | .broken reason => some (.error reason)
  | _ => none

/-- The steps a booking is at most away from its end. -/
def remaining : BookingPhase → Nat
  | .asked => 8
  | .naming .. => 7
  | .looking _ => 6
  | .refreshing .. => 5
  | .writing .. | .forgetting .. => 4
  | .requesting .. => 3
  | .choosing .. => 2
  | .storing .. => 1
  | .booked _ | .refused _ | .broken _ => 0

section

variable {platform : Platform} {user : User} {dto : CreateLessonDto} {draw : Draw}
  {endpoints : Endpoints} {db : Db}

/-- A booking that is not over after a step was not over before it. -/
theorem outcome_next {phase : BookingPhase}
    (ongoing : (phase.next platform user dto draw endpoints db).1.outcome = none) :
    phase.outcome = none := by
  cases phase with
  | booked view | refused reason | broken reason => cases ongoing
  | _ => rfl

theorem remaining_found (plan : RoomPlan) (account : Option MeetingAccount) :
    (found platform draw plan account).remaining ≤ 5 := by
  unfold found
  split
  · simp only [remaining, fallback, Nat.reduceLeDiff]
  · split
    · simp only [remaining, Nat.reduceLeDiff]
    · split <;> simp only [remaining, Nat.reduceLeDiff]

/-- A booking that is not over comes closer to its end with every step. -/
theorem next_remaining (phase : BookingPhase) (ongoing : phase.outcome = none) :
    (phase.next platform user dto draw endpoints db).1.remaining < phase.remaining := by
  cases phase with
  | asked =>
      simp only [next]
      split
      · simp only [remaining, Nat.reduceLT]
      · split <;> simp only [remaining, Nat.reduceLT]
  | naming subjectId settings => simp only [next, remaining, Nat.reduceLT]
  | looking plan =>
      simp only [next]
      split
      · exact Nat.lt_succ_of_le (remaining_found plan _)
      · simp only [remaining, fallback, Nat.reduceLT]
  | refreshing plan account token =>
      simp only [next]
      split <;> simp only [remaining, Nat.reduceLT]
  | writing plan account tokens =>
      simp only [next]
      split <;> simp only [remaining, Nat.reduceLT]
  | forgetting plan account => simp only [next, remaining, fallback, Nat.reduceLT]
  | requesting plan accessToken =>
      simp only [next]
      split
      · split <;> simp only [remaining, fallback, Nat.reduceLT]
      · simp only [remaining, fallback, Nat.reduceLT]
  | choosing subjectId link =>
      simp only [next]
      split <;> simp only [remaining, Nat.reduceLT]
  | storing subjectId link target =>
      simp only [next]
      split <;> simp only [remaining, Nat.reduceLT]
  | booked view => cases ongoing
  | refused reason => cases ongoing
  | broken reason => cases ongoing

end

end BookingPhase

namespace LessonsService

open MeetingAccountsService

section

variable {platform : Platform} {user : User} {dto : CreateLessonDto} {draw : Draw}
  {endpoints : Endpoints} {db : Db}

/-- Where a booking's steps lead with nobody in between. -/
def Leads (platform : Platform) (user : User) (dto : CreateLessonDto) (draw : Draw)
    (endpoints : Endpoints) : BookingPhase × Db → BookingPhase × Db → Prop :=
  Relation.ReflTransGen fun state after =>
    state.1.next platform user dto draw endpoints state.2 = after

theorem leads_step {phase : BookingPhase} {middle after : BookingPhase × Db}
    (step : phase.next platform user dto draw endpoints db = middle)
    (later : Leads platform user dto draw endpoints middle after) :
    Leads platform user dto draw endpoints (phase, db) after :=
  .head step later

theorem leads_one {phase : BookingPhase} {after : BookingPhase × Db}
    (step : phase.next platform user dto draw endpoints db = after) :
    Leads platform user dto draw endpoints (phase, db) after :=
  .single step

theorem choosing_leads (subjectId : Option Id) (link : Option (MeetingProvider × String)) :
    (∀ reason, storeLesson platform user draw dto subjectId link db = .error reason →
      Leads platform user dto draw endpoints (.choosing subjectId link, db) (.refused reason, db)) ∧
    ∀ view next, storeLesson platform user draw dto subjectId link db = .ok (view, next) →
      Leads platform user dto draw endpoints (.choosing subjectId link, db) (.booked view, next) := by
  rw [storeLesson]
  cases chosen : bookingTarget user dto db with
  | error reason =>
      rw [error_bind]
      constructor
      · intro other same
        rw [← Except.error.inj same]
        exact leads_one (by simp only [BookingPhase.next, chosen])
      · intro view next same
        cases same
  | ok target =>
      rw [ok_bind]
      have first : (BookingPhase.choosing subjectId link).next platform user dto draw endpoints db =
          (.storing subjectId link target, db) := by simp only [BookingPhase.next, chosen]
      constructor
      · intro reason refused
        exact leads_step first (leads_one (by simp only [BookingPhase.next, refused]))
      · intro view next inserted
        exact leads_step first (leads_one (by simp only [BookingPhase.next, inserted]))

/-- The link a booking goes on with once `createRoom` has ended. -/
def linkOf (platform : Platform) (draw : Draw) (settings : MeetingSettings) :
    Option String → Option (MeetingProvider × String)
  | some url => some (settings.provider, url)
  | none => meetingLinkFor platform (some settings) draw.random

theorem requesting_next (plan : RoomPlan) (accessToken : String) :
    (BookingPhase.requesting plan accessToken).next platform user dto draw endpoints db =
      (.choosing plan.subjectId (linkOf platform draw plan.settings
        (if canAskForRoom plan.settings.provider plan.request then
          (endpoints (.room plan.settings.provider accessToken plan.request)).okJson.bind
            fun body => stringField body (roomField plan.settings.provider)
        else none)), db) := by
  simp only [BookingPhase.next]
  by_cases asked : canAskForRoom plan.settings.provider plan.request = true
  · rw [if_pos asked, if_pos asked]
    cases (endpoints (.room plan.settings.provider accessToken plan.request)).okJson.bind
        fun body => stringField body (roomField plan.settings.provider) <;> rfl
  · rw [if_neg asked, if_neg asked]
    rfl

/-- The steps from the account that was read come to what `accessTokenFor` does. -/
theorem found_leads (plan : RoomPlan) {account : MeetingAccount} {access : Attempt (Option String)}
    (ended : accessTokenFor platform draw endpoints account db = access) :
    (∀ reason, access.result = .error reason →
      Leads platform user dto draw endpoints
        (BookingPhase.found platform draw plan (some account), db) (.broken reason, access.db)) ∧
    (access.result = .ok none →
      Leads platform user dto draw endpoints
        (BookingPhase.found platform draw plan (some account), db)
        (BookingPhase.fallback platform draw plan, access.db)) ∧
    ∀ accessToken, access.result = .ok (some accessToken) →
      Leads platform user dto draw endpoints
        (BookingPhase.found platform draw plan (some account), db)
        (.requesting plan accessToken, access.db) := by
  simp only [accessTokenFor, BookingPhase.found] at ended ⊢
  cases cached : cachedToken platform draw.now account with
  | some token =>
      rw [cached] at ended
      subst ended
      refine ⟨fun _ same => ?_, fun same => ?_, fun accessToken same => ?_⟩
      · cases same
      · cases same
      rw [← Option.some.inj (Except.ok.inj same)]
      exact .refl
  | none =>
      rw [cached] at ended
      dsimp only at ended ⊢
      cases readable : decrypt platform account.refreshToken with
      | none =>
          rw [readable] at ended
          subst ended
          refine ⟨fun _ same => ?_, fun _ => leads_one rfl, fun _ same => ?_⟩
          · cases same
          · cases same
      | some token =>
          rw [readable] at ended
          dsimp only at ended ⊢
          rcases answered : exchange platform endpoints account.provider (.refreshToken token) with
            ⟨_ | tokens, calls⟩
          · rw [answered] at ended
            subst ended
            have failed : (BookingPhase.refreshing plan account token).next platform user dto draw
                endpoints db = (.forgetting plan account, db) := by
              simp only [BookingPhase.next, answered]
            refine ⟨fun _ same => ?_, fun _ => leads_step failed (leads_one rfl), fun _ same => ?_⟩
            · cases same
            · cases same
          · rw [answered] at ended
            dsimp only at ended
            have refreshed : (BookingPhase.refreshing plan account token).next platform user dto draw
                endpoints db = (.writing plan account tokens, db) := by
              simp only [BookingPhase.next, answered]
            cases stored : writeBack platform draw account tokens db with
            | error reason =>
                rw [stored] at ended
                subst ended
                refine ⟨fun other same => ?_, fun same => ?_, fun _ same => ?_⟩
                · refine leads_step refreshed (leads_one ?_)
                  rw [← Except.error.inj same]
                  simp only [BookingPhase.next, stored]
                · cases same
                · cases same
            | ok next =>
                rw [stored] at ended
                subst ended
                refine ⟨fun _ same => ?_, fun same => ?_, fun accessToken same => ?_⟩
                · cases same
                · cases same
                · refine leads_step refreshed (leads_one ?_)
                  rw [← Option.some.inj (Except.ok.inj same)]
                  simp only [BookingPhase.next, stored]

/-- The steps of a call for a room come to what `createRoom` does. -/
theorem looking_leads (plan : RoomPlan) {room : Attempt (Option String)}
    (ended : createRoom platform user draw endpoints plan.settings.provider plan.request db = room) :
    (∀ reason, room.result = .error reason →
      Leads platform user dto draw endpoints (.looking plan, db) (.broken reason, room.db)) ∧
    ∀ url, room.result = .ok url →
      Leads platform user dto draw endpoints (.looking plan, db)
        (.choosing plan.subjectId (linkOf platform draw plan.settings url), room.db) := by
  unfold createRoom at ended
  by_cases connectable : isConnectable plan.settings.provider = true
  case neg =>
    rw [Bool.not_eq_true] at connectable
    simp only [connectable, Bool.not_false, ↓reduceIte] at ended
    subst ended
    refine ⟨fun _ same => (by cases same), fun url same => leads_one ?_⟩
    rw [← Except.ok.inj same]
    simp only [BookingPhase.next, connectable, Bool.false_eq_true, ↓reduceIte]
    rfl
  simp only [connectable, Bool.not_true, Bool.false_eq_true, ↓reduceIte] at ended
  have looked : (BookingPhase.looking plan).next platform user dto draw endpoints db =
      (BookingPhase.found platform draw plan (accountOf db user.id plan.settings.provider), db) := by
    simp only [BookingPhase.next, connectable, ↓reduceIte]
  cases held : accountOf db user.id plan.settings.provider with
  | none =>
      rw [held] at looked ended
      subst ended
      refine ⟨fun _ same => (by cases same), fun url same => leads_one (looked.trans ?_)⟩
      rw [← Except.ok.inj same]
      rfl
  | some account =>
      rw [held] at looked ended
      dsimp only at ended
      obtain ⟨broken, without, token⟩ := @found_leads platform user dto draw endpoints db plan
        account _ rfl
      cases reached : (accessTokenFor platform draw endpoints account db).result with
      | error reason =>
          rw [reached] at ended
          subst ended
          refine ⟨fun other same => leads_step looked (broken other same), fun url same => ?_⟩
          rw [reached] at same
          cases same
      | ok accessToken =>
          rw [reached] at ended
          cases accessToken with
          | none =>
              subst ended
              constructor
              · intro other same
                rw [reached] at same
                cases same
              · intro url same
                rw [reached] at same
                rw [← Except.ok.inj same]
                exact leads_step looked (without reached)
          | some accessToken =>
              have requested := leads_step looked (token accessToken reached)
              have asked := requested.tail (requesting_next plan accessToken)
              dsimp only at ended
              split at ended
              · rename_i able
                subst ended
                refine ⟨fun _ same => (by cases same), fun url same => ?_⟩
                rw [if_pos able, Except.ok.inj same] at asked
                exact asked
              · rename_i unable
                subst ended
                refine ⟨fun _ same => (by cases same), fun url same => ?_⟩
                rw [if_neg unable, Except.ok.inj same] at asked
                exact asked

/-- A call that comes to choose its lesson's target ends as the lesson is stored. -/
theorem choosing_ends {subjectId : Option Id} {link : Option (MeetingProvider × String)}
    {before : Db}
    (reached : Leads platform user dto draw endpoints (.asked, db) (.choosing subjectId link, before))
    (calls : List ProviderCall) :
    ∃ phase, phase.outcome = some
        (match storeLesson platform user draw dto subjectId link before with
        | .error reason => (⟨.error reason, before, calls⟩ : Attempt LessonView)
        | .ok (view, next) => ⟨.ok view, next, calls⟩).result ∧
      Leads platform user dto draw endpoints (.asked, db) (phase,
        (match storeLesson platform user draw dto subjectId link before with
        | .error reason => (⟨.error reason, before, calls⟩ : Attempt LessonView)
        | .ok (view, next) => ⟨.ok view, next, calls⟩).db) := by
  obtain ⟨refused, inserted⟩ := @choosing_leads platform user dto draw endpoints before subjectId link
  cases stored : storeLesson platform user draw dto subjectId link before with
  | error reason => exact ⟨.refused reason, rfl, reached.trans (refused reason stored)⟩
  | ok lesson =>
      exact ⟨.booked lesson.1, rfl, reached.trans (inserted lesson.1 lesson.2 stored)⟩

/-- A booking left alone does what `create` does. -/
theorem create_alone :
    ∃ phase, phase.outcome = some (create platform user draw endpoints dto db).result ∧
      Leads platform user dto draw endpoints (.asked, db)
        (phase, (create platform user draw endpoints dto db).db) := by
  unfold create
  cases checks : checkBooking user dto db with
  | error reason =>
      exact ⟨.refused reason, rfl, leads_one (by simp only [BookingPhase.next, checks])⟩
  | ok subjectId =>
      unfold meetingFor
      cases chosen : (parseUserConfig platform user.config).meeting with
      | none =>
          exact choosing_ends (leads_one (by simp only [BookingPhase.next, checks, chosen])) []
      | some settings =>
          have named : (BookingPhase.asked).next platform user dto draw endpoints db =
              (.naming subjectId settings, db) := by simp only [BookingPhase.next, checks, chosen]
          obtain ⟨broken, linked⟩ := @looking_leads platform user dto draw endpoints db
            ⟨subjectId, settings, ⟨topicFor user subjectId db, platform.parseDate dto.startsAt,
              dto.durationMinutes⟩⟩ _ rfl
          dsimp only at broken linked ⊢
          cases made : (createRoom platform user draw endpoints settings.provider
              ⟨topicFor user subjectId db, platform.parseDate dto.startsAt, dto.durationMinutes⟩
              db).result with
          | error reason =>
              exact ⟨.broken reason, rfl, leads_step named (leads_step rfl (broken reason made))⟩
          | ok url =>
              exact choosing_ends (leads_step named (leads_step rfl (linked url made))) _

end

end LessonsService

namespace BookingPhase

open MeetingAccountsService LessonsService

/-- A statement that stores what a provider sent goes through: what it calls a lifetime ends at a date
the column takes, the row the token was read from is still there, and the link is one that a text
column takes. -/
def Lands (draw : Draw) (db : Db) : BookingPhase → Prop
  | .writing _ account tokens =>
      (expiryOf draw.now tokens).isOk = true ∧ (db.meetingAccounts.find account.id).isSome = true
  | .storing _ link _ => ∀ meeting ∈ link, textColumn meeting.2 = true
  | _ => True

instance (draw : Draw) (db : Db) (phase : BookingPhase) : Decidable (phase.Lands draw db) :=
  match phase with
  | .writing .. => inferInstanceAs (Decidable (_ ∧ _))
  | .storing _ none _ => .isTrue fun _ none => by cases none
  | .storing _ (some meeting) _ =>
      decidable_of_iff (textColumn meeting.2 = true) (by simp [Lands])
  | .asked | .naming .. | .looking _ | .refreshing .. | .forgetting .. | .requesting .. |
    .choosing .. | .booked _ | .refused _ | .broken _ => .isTrue trivial

/-- The booking's own check at its next step passes: of what it asks for, of the student or the group,
and of the row it inserts, were it one without a link. -/
def Passes (platform : Platform) (user : User) (dto : CreateLessonDto) (draw : Draw) (db : Db) :
    BookingPhase → Prop
  | .asked => (checkBooking user dto db).isOk = true
  | .choosing _ _ => (bookingTarget user dto db).isOk = true
  | .storing subjectId _ target =>
      (insertLesson platform user draw dto subjectId none target db).isOk = true
  | _ => True

instance (platform : Platform) (user : User) (dto : CreateLessonDto) (draw : Draw) (db : Db)
    (phase : BookingPhase) : Decidable (phase.Passes platform user dto draw db) :=
  match phase with
  | .asked | .choosing .. | .storing .. => inferInstanceAs (Decidable (_ = _))
  | .naming .. | .looking _ | .refreshing .. | .writing .. | .forgetting .. | .requesting .. |
    .booked _ | .refused _ | .broken _ => .isTrue trivial

/-- Whether a booking has ended without its lesson. -/
def hasFailed : BookingPhase → Bool
  | .refused _ | .broken _ => true
  | _ => false

/-- Tokens came from an exchange, and there is none without a cipher. -/
def Sealed (platform : Platform) : BookingPhase → Prop
  | .writing .. => platform.cipher.isSome = true
  | _ => True

section

variable {platform : Platform} {user : User} {dto : CreateLessonDto} {draw : Draw}
  {endpoints : Endpoints} {db : Db}

theorem hasFailed_found (plan : RoomPlan) (account : Option MeetingAccount) :
    (found platform draw plan account).hasFailed = false := by
  unfold found
  split
  · rfl
  · split
    · rfl
    · split <;> rfl

theorem sealed_found (plan : RoomPlan) (account : Option MeetingAccount) :
    (found platform draw plan account).Sealed platform := by
  unfold found
  split
  · trivial
  · split
    · trivial
    · split <;> trivial

theorem writeBack_isOk_iff {account : MeetingAccount} {tokens : TokenSet}
    (sealed_ : platform.cipher.isSome = true) :
    (writeBack platform draw account tokens db).isOk = true ↔
      (expiryOf draw.now tokens).isOk = true ∧ (db.meetingAccounts.find account.id).isSome = true := by
  obtain ⟨cipher, present⟩ := Option.isSome_iff_exists.mp sealed_
  have kept : ∃ refreshToken, refreshedToken platform draw account tokens = .ok refreshToken := by
    unfold refreshedToken
    split
    · exact ⟨_, rfl⟩
    · simp only [encrypt, present, Except.ok.injEq, exists_eq']
  obtain ⟨refreshToken, refreshed⟩ := kept
  simp only [writeBack, refreshed, ok_bind, encrypt, present]
  cases expiryOf draw.now tokens with
  | error reason => simp only [error_bind, Except.isOk, Except.toBool, Bool.false_eq_true, false_and]
  | ok expiresAt =>
      cases found : db.meetingAccounts.find account.id <;>
        simp [Db.updateMeetingAccount, updateRow, found, require, pure, Except.pure, Except.isOk,
          Except.toBool]

theorem next_sealed (phase : BookingPhase) :
    (phase.next platform user dto draw endpoints db).1.Sealed platform := by
  cases phase with
  | asked =>
      simp only [next]
      split
      · trivial
      · split <;> trivial
  | looking plan =>
      simp only [next]
      split
      · exact sealed_found plan _
      · trivial
  | refreshing plan account token =>
      simp only [next]
      split
      · rename_i tokens answered
        obtain ⟨credentials, configured, -⟩ := exchange_ok.mp answered
        show platform.cipher.isSome = true
        unfold requireCredentials at configured
        split at configured
        · rename_i present
          rw [present, Option.isSome_some]
        · cases configured
      · trivial
  | writing plan account tokens =>
      simp only [next]
      split <;> trivial
  | requesting plan accessToken =>
      simp only [next]
      split
      · split <;> trivial
      · trivial
  | choosing subjectId link =>
      simp only [next]
      split <;> trivial
  | storing subjectId link target =>
      simp only [next]
      split <;> trivial
  | _ => trivial

/-- The insert of a lesson without a link goes through with one that a text column takes. -/
theorem insertLesson_isOk {subjectId : Option Id} {link : Option (MeetingProvider × String)}
    {target : Option Id × Option Id} :
    (insertLesson platform user draw dto subjectId link target db).isOk = true ↔
      (insertLesson platform user draw dto subjectId none target db).isOk = true ∧
        ∀ meeting ∈ link, textColumn meeting.2 = true := by
  simp only [insertLesson]
  cases timestampColumn (platform.parseDate dto.startsAt) with
  | error reason => simp only [error_bind, Except.isOk, Except.toBool, Bool.false_eq_true, false_and]
  | ok startsAt =>
      simp only [ok_bind, isOk_bind_pure, Db.createLesson_isOk, Option.map_none, Option.all_none,
        true_and, Db.refersLesson]
      cases link with
      | none => simp only [Option.map_none, Option.all_none, Option.mem_def, reduceCtorEq,
          false_imp_iff, implies_true, true_and, and_true]
      | some meeting =>
          simp only [Option.map_some, Option.all_some, Option.mem_def, Option.some.injEq,
            forall_eq']
          constructor
          · rintro ⟨refers, plain, free⟩
            exact ⟨⟨refers, free⟩, plain⟩
          · rintro ⟨⟨refers, free⟩, plain⟩
            exact ⟨refers, plain, free⟩

/-- A booking whose own check passes fails at its next step exactly when that step has to store
something of the provider's that does not land. -/
theorem next_failed_iff (phase : BookingPhase) (sealed_ : phase.Sealed platform)
    (ongoing : phase.hasFailed = false) (passes : phase.Passes platform user dto draw db) :
    (phase.next platform user dto draw endpoints db).1.hasFailed = true ↔ ¬ phase.Lands draw db := by
  cases phase with
  | writing plan account tokens =>
      have lands := @writeBack_isOk_iff platform draw db account tokens sealed_
      simp only [next, Lands, ← lands]
      cases writeBack platform draw account tokens db <;>
        simp [hasFailed, Except.isOk, Except.toBool]
  | storing subjectId link target =>
      have lands : (insertLesson platform user draw dto subjectId link target db).isOk = true ↔
          ∀ meeting ∈ link, textColumn meeting.2 = true :=
        insertLesson_isOk.trans (and_iff_right passes)
      simp only [next, Lands, ← lands]
      cases insertLesson platform user draw dto subjectId link target db <;>
        simp [hasFailed, Except.isOk, Except.toBool]
  | asked =>
      obtain ⟨subjectId, checked⟩ := exists_of_isOk passes
      simp only [next, checked, Lands, not_true, iff_false]
      split <;> exact Bool.false_ne_true
  | looking plan =>
      simp only [next, Lands, not_true, iff_false]
      split
      · rw [hasFailed_found]
        exact Bool.false_ne_true
      · exact Bool.false_ne_true
  | refreshing plan account token =>
      simp only [next, Lands, not_true, iff_false]
      split <;> exact Bool.false_ne_true
  | requesting plan accessToken =>
      simp only [next, Lands, not_true, iff_false]
      split
      · split <;> exact Bool.false_ne_true
      · exact Bool.false_ne_true
  | choosing subjectId link =>
      obtain ⟨target, chosen⟩ := exists_of_isOk passes
      simp only [next, chosen, Lands, not_true, iff_false]
      exact Bool.false_ne_true
  | naming subjectId settings =>
      simp only [next, Lands, not_true, iff_false]
      exact Bool.false_ne_true
  | forgetting plan account =>
      simp only [next, Lands, not_true, iff_false]
      exact Bool.false_ne_true
  | booked view =>
      simp only [next, Lands, not_true, iff_false]
      exact Bool.false_ne_true
  | refused reason => cases ongoing
  | broken reason => cases ongoing

end

end BookingPhase

/-- What outlives a request, and where every booking under way stands. -/
structure Bookings (τ : Type) where
  world : World
  calls : τ → BookingPhase

section

variable {τ : Type} [DecidableEq τ] (platform : Platform) (caller : τ → User)
  (payload : τ → CreateLessonDto)

/-- One booking takes its next step. -/
def Bookings.book (state : Bookings τ) (t : τ) (draw : Draw) (endpoints : Endpoints) : Bookings τ :=
  let (phase, db) := (state.calls t).next platform (caller t) (payload t) draw endpoints
    state.world.db
  { world := { state.world with db }, calls := Function.update state.calls t phase }

/-- Another request is served, a disconnection or a reconnection among them. -/
def Bookings.meanwhile (state : Bookings τ) (outside : Outside) (request : Request) : Bookings τ :=
  { state with world := (request.serve platform outside state.world).world }

/-- An interleaving in which one booking takes a number of steps, as far as they are allowed, among
those of other bookings and whatever else is served. -/
inductive BookingsRun (t : τ) (allowed : Draw → Db → BookingPhase → Prop) (state : Bookings τ) :
    Nat → Bookings τ → Prop where
  | start : BookingsRun t allowed state 0 state
  | own {taken : Nat} {next : Bookings τ} (run : BookingsRun t allowed state taken next) (draw : Draw)
      (endpoints : Endpoints) (permitted : allowed draw next.world.db (next.calls t)) :
      BookingsRun t allowed state (taken + 1)
        (next.book platform caller payload t draw endpoints)
  | other {taken : Nat} {next : Bookings τ} (run : BookingsRun t allowed state taken next) {u : τ}
      (different : u ≠ t) (draw : Draw) (endpoints : Endpoints) :
      BookingsRun t allowed state taken (next.book platform caller payload u draw endpoints)
  | meanwhile {taken : Nat} {next : Bookings τ} (run : BookingsRun t allowed state taken next)
      (outside : Outside) (request : Request) :
      BookingsRun t allowed state taken (next.meanwhile platform outside request)

/-- A step at which the booking's own check passes, and what it stores of the provider's lands. -/
def Kept (t : τ) (draw : Draw) (db : Db) (phase : BookingPhase) : Prop :=
  phase.Passes platform (caller t) (payload t) draw db ∧ phase.Lands draw db

end

section

variable {τ : Type} [DecidableEq τ] {platform : Platform} {caller : τ → User}
  {payload : τ → CreateLessonDto} {allowed : Draw → Db → BookingPhase → Prop} {t : τ} {taken : Nat}
  {state next : Bookings τ}

theorem Bookings.book_self (draw : Draw) (endpoints : Endpoints) :
    (state.book platform caller payload t draw endpoints).calls t =
      ((state.calls t).next platform (caller t) (payload t) draw endpoints state.world.db).1 :=
  Function.update_self ..

theorem Bookings.book_other {u : τ} (different : u ≠ t) (draw : Draw) (endpoints : Endpoints) :
    (state.book platform caller payload u draw endpoints).calls t = state.calls t :=
  Function.update_of_ne different.symm ..

theorem BookingsRun.sealed (run : BookingsRun platform caller payload t allowed state taken next)
    (fresh : state.calls t = .asked) : (next.calls t).Sealed platform := by
  induction run with
  | start =>
      rw [fresh]
      trivial
  | own _ draw endpoints _ _ =>
      rw [Bookings.book_self]
      exact BookingPhase.next_sealed _
  | other _ different draw endpoints ih =>
      rw [Bookings.book_other different]
      exact ih
  | meanwhile _ outside request ih => exact ih

/-- A kept booking does not fail, and every step brings it closer to its end. -/
theorem BookingsRun.kept
    (run : BookingsRun platform caller payload t (Kept platform caller payload t) state taken next)
    (fresh : state.calls t = .asked) : (next.calls t).hasFailed = false ∧
      ((next.calls t).outcome = none → (next.calls t).remaining + taken ≤ 8) := by
  induction run with
  | start =>
      rw [fresh]
      exact ⟨rfl, fun _ => le_rfl⟩
  | @own taken next before draw endpoints permitted ih =>
      rw [Bookings.book_self]
      constructor
      · rw [← Bool.not_eq_true, BookingPhase.next_failed_iff _ (before.sealed fresh) ih.1 permitted.1,
          not_not]
        exact permitted.2
      · intro ongoing
        have under : (next.calls t).outcome = none := BookingPhase.outcome_next ongoing
        have closer := @BookingPhase.next_remaining platform (caller t) (payload t) draw endpoints
          next.world.db (next.calls t) under
        have bounded := ih.2 under
        omega
  | other _ different draw endpoints ih =>
      rw [Bookings.book_other different]
      exact ih
  | meanwhile _ outside request ih => exact ih

end

def zoomSchool : World := zoomTutor.after .plain [enrol "a1" "k1" "Kim"]

def kimBooking : CreateLessonDto :=
  ⟨.given "k1", .absent, .absent, "2026-03-01T10:00:00.000Z", 60⟩

/-- One call for it, after the cached token has run out. -/
def kimBookings (endpoints : Endpoints) : Nat → Bookings Unit
  | 0 => ⟨zoomSchool, fun _ => .asked⟩
  | steps + 1 => (kimBookings endpoints steps).book .plain (fun _ => zoomAdmin)
      (fun _ => kimBooking) () afterExpiry endpoints

theorem kimBookings_run {allowed : Draw → Db → BookingPhase → Prop} {endpoints : Endpoints}
    {steps : Nat} (permitted : ∀ n < steps, allowed afterExpiry (kimBookings endpoints n).world.db
      ((kimBookings endpoints n).calls ())) :
    BookingsRun .plain (fun _ => zoomAdmin) (fun _ => kimBooking) () allowed
      (kimBookings endpoints 0) steps (kimBookings endpoints steps) := by
  induction steps with
  | zero => exact .start
  | succ steps ih =>
      refine (ih fun n before => permitted n (Nat.lt_succ_of_lt before)).own afterExpiry endpoints ?_
      exact permitted steps (Nat.lt_succ_self steps)

instance (draw : Draw) (db : Db) (phase : BookingPhase) :
    Decidable (Kept .plain (fun _ : Unit => zoomAdmin) (fun _ => kimBooking) () draw db phase) :=
  inferInstanceAs (Decidable (_ ∧ _))

/-- A token endpoint that grants a lifetime no date can hold. -/
def endlessGrant : Endpoints := fun _ => .response 200 (some
  (.obj [("access_token", .str "access"), ("expires_in", .num (10 ^ 300))]))

/-- A room whose address no text column takes breaks one, too. -/
example : (LessonsService.create .plain zoomAdmin (Outside.quiet "").draw
    (fun _ => .response 201 (some (.obj [("join_url", .str "https://zoom.us/j/\x00")])))
    kimBooking zoomSchool.db).result = .error .internal := by decide +kernel

/-- So does a disconnection between the refresh and its write-back. -/
example :
    ∃ taken after, BookingsRun .plain (fun _ => zoomAdmin) (fun _ => kimBooking) ()
        (fun _ _ _ => True) (kimBookings
          (Outside.granting "" 200 (tokenBody "access" "fresh")).endpoints 0) taken after ∧
      after.calls () = .broken recordNotFound := by
  let endpoints := (Outside.granting "" 200 (tokenBody "access" "fresh")).endpoints
  have written : BookingsRun .plain (fun _ => zoomAdmin) (fun _ => kimBooking) ()
      (fun _ _ _ => True) (kimBookings endpoints 0) 4 (kimBookings endpoints 4) :=
    kimBookings_run fun _ _ => trivial
  refine ⟨_, _, (written.meanwhile (.quiet "") (.command "a1" (.disconnect .zoom))).own afterExpiry
    endpoints trivial, ?_⟩
  decide +kernel

end TutorApp
