import TutorApp.Base64Url
import TutorApp.Footprints

set_option autoImplicit false

namespace TutorApp

open Relational
open Js (Instant)

namespace InvitePageController

def tokenCharacter (c : Char) : Bool :=
  ('A' ≤ c ∧ c ≤ 'Z') ∨ ('a' ≤ c ∧ c ≤ 'z') ∨ ('0' ≤ c ∧ c ≤ '9') ∨ c = '_' ∨ c = '-'

/-- `/^[A-Za-z0-9_-]{16,128}$/`. -/
def isToken (token : String) : Bool :=
  16 ≤ token.length ∧ token.length ≤ 128 ∧ token.toList.all tokenCharacter

def beforeLink : String := String.join
  ["<!doctype html>",
    "<html lang=\"en\"><head>",
    "<meta charset=\"utf-8\">",
    "<meta name=\"viewport\" content=\"width=device-width, initial-scale=1\">",
    "<title>Join on Fox Academy</title>",
    "<style>",
    "body\x7bfont-family:system-ui,sans-serif;margin:0;min-height:100vh;display:flex;",
    "align-items:center;justify-content:center;background:#faf7f4;color:#2b2118\x7d",
    "main\x7bmax-width:22rem;padding:2rem;text-align:center\x7d",
    "h1\x7bfont-size:1.35rem;margin:0 0 .5rem\x7d",
    "p\x7bmargin:0 0 1.5rem;line-height:1.5;color:#6b5c4e\x7d",
    "a.open\x7bdisplay:block;padding:.9rem 1rem;border-radius:.75rem;",
    "background:#c2410c;color:#fff;text-decoration:none;font-weight:600\x7d",
    "small\x7bdisplay:block;margin-top:1.25rem;color:#8a7a6b\x7d",
    "@media(prefers-color-scheme:dark)\x7bbody\x7bbackground:#1b1614;color:#f2ece7\x7d",
    "p\x7bcolor:#b8a99b\x7d\x7d",
    "</style>",
    "</head><body><main>",
    "<h1>You have been invited</h1>",
    "<p>Open this on the phone with Fox Academy installed to finish signing up.</p>",
    "<a class=\"open\" href=\""]

def afterLink : String := String.join
  ["\">Open Fox Academy</a>",
    "<small>Nothing happens? Install Fox Academy first, then tap again.</small>",
    "</main></body></html>"]

/-- The page that hands a token over to the app, without looking it up. -/
def page (appSchemeUrlBase token : String) : Service String :=
  if isToken token then .ok (beforeLink ++ (appSchemeUrlBase ++ "/" ++ token) ++ afterLink)
  else .error (.notFound "Not Found")

/-- The characters that a document is built with. -/
def markup (html : String) : List Char :=
  html.toList.filter fun c => "<>\"'&".toList.contains c

end InvitePageController

/-- What `randomBytes(32).toString('base64url')` makes. -/
def Minted (token : String) : Prop :=
  ∃ bytes : List UInt8, bytes.length = 32 ∧ token = Base64Url.encode bytes

/-- No two invitations share a token or an address, and every token was minted. -/
structure LinksApart (invitations : Table Invitation) : Prop where
  tokens : ∀ left ∈ invitations.rows, ∀ right ∈ invitations.rows,
    left.token = right.token → left = right
  addresses : ∀ left ∈ invitations.rows, ∀ right ∈ invitations.rows,
    left.schoolId = right.schoolId → left.email = right.email → left = right
  minted : ∀ row ∈ invitations.rows, Minted row.token

/-- A row is where it was, under the id it had. -/
structure Invitation.Stays (old row : Invitation) : Prop where
  id : row.id = old.id
  schoolId : row.schoolId = old.schoolId
  email : row.email = old.email

open InvitePageController

theorem tokenCharacter_digit : ∀ n < 64, tokenCharacter (Base64Url.digit n) = true := by decide

theorem tokenCharacter_markup : ("<>\"'&".toList.all fun c => !tokenCharacter c) = true := by decide

/-- The page takes every token the service mints. -/
theorem Minted.isToken {token : String} (minted : Minted token) : isToken token = true := by
  obtain ⟨bytes, size, rfl⟩ := minted
  have long : (Base64Url.encode bytes).length = 43 := by
    rw [Base64Url.encode, String.length_ofList, List.length_map, Base64Url.length_sextets, size]
  have spelt : (Base64Url.encode bytes).toList.all tokenCharacter = true := by
    rw [Base64Url.encode, String.toList_ofList, List.all_map, List.all_eq_true]
    exact fun n listed => tokenCharacter_digit n (Base64Url.sextets_lt bytes n listed)
  rw [InvitePageController.isToken, long, spelt]
  rfl

/-- A token brings no markup of its own. -/
theorem markup_token {token : String} (taken : isToken token = true) : markup token = [] := by
  simp only [isToken, decide_eq_true_eq] at taken
  rw [markup, List.filter_eq_nil_iff]
  intro c member builds
  have plain := List.all_eq_true.mp tokenCharacter_markup c (List.contains_iff_mem.mp builds)
  rw [List.all_eq_true.mp taken.2.2 c member] at plain
  cases plain

theorem markup_append (left right : String) : markup (left ++ right) = markup left ++ markup right := by
  rw [markup, String.toList_append, List.filter_append]
  rfl

/-- Whatever the token, it is the same document around its link. -/
theorem page_markup {base token html : String} (shown : page base token = .ok html) :
    markup html = markup beforeLink ++ markup (base ++ "/") ++ markup afterLink := by
  unfold page at shown
  split at shown
  · rename_i taken
    cases shown
    simp only [markup_append, markup_token taken, List.append_nil, List.append_assoc]
  · cases shown

section

variable {platform : Platform} {outside : Outside} {world : World} {db next : Db}
  {table later : Table Invitation} {row : Invitation}

/-- Where rows stay, they are apart by their addresses. -/
theorem LinksApart.addressed (apart : LinksApart table)
    (stays : ∀ row ∈ later.rows, ∃ old ∈ table.rows, old.Stays row) :
    ∀ left ∈ later.rows, ∀ right ∈ later.rows,
      left.schoolId = right.schoolId → left.email = right.email → left = right := by
  intro left first right second school email
  obtain ⟨before, listed, was⟩ := stays left first
  obtain ⟨other, there, were⟩ := stays right second
  have same : before = other := apart.addresses before listed other there
    (was.schoolId.symm.trans (school.trans were.schoolId))
    (was.email.symm.trans (email.trans were.email))
  refine Table.key_injective first second ?_
  show left.id = right.id
  rw [was.id, were.id, same]

/-- A table whose rows keep their tokens stays apart. -/
theorem LinksApart.keep (apart : LinksApart table)
    (stays : ∀ row ∈ later.rows, ∃ old ∈ table.rows, old.Stays row ∧ row.token = old.token) :
    LinksApart later := by
  have stay : ∀ row ∈ later.rows, ∃ old ∈ table.rows, old.Stays row := by
    intro row member
    obtain ⟨old, listed, was, -⟩ := stays row member
    exact ⟨old, listed, was⟩
  refine ⟨fun left first right second same => ?_, apart.addressed stay, fun row member => ?_⟩
  · obtain ⟨before, listed, was, token⟩ := stays left first
    obtain ⟨other, there, were, token'⟩ := stays right second
    have one := apart.tokens before listed other there (token.symm.trans (same.trans token'))
    refine Table.key_injective first second ?_
    show left.id = right.id
    rw [was.id, were.id, one]
  · obtain ⟨old, listed, -, token⟩ := stays row member
    exact token ▸ apart.minted old listed

/-- A new token for whoever had the address before. -/
theorem LinksApart.renew (apart : LinksApart table) (minted : Minted row.token)
    (free : ∀ other ∈ table.rows,
      (other.schoolId = row.schoolId ∧ other.email = row.email) ∨ other.token ≠ row.token)
    (stays : ∀ renewed ∈ later.rows, ∃ old ∈ table.rows, old.Stays renewed ∧
      (renewed.token = row.token ∧ old.schoolId = row.schoolId ∧ old.email = row.email ∨
        renewed.token = old.token ∧ ¬ (old.schoolId = row.schoolId ∧ old.email = row.email))) :
    LinksApart later := by
  have stay : ∀ row ∈ later.rows, ∃ old ∈ table.rows, old.Stays row := by
    intro row member
    obtain ⟨old, listed, was, -⟩ := stays row member
    exact ⟨old, listed, was⟩
  refine ⟨fun left first right second same => ?tokens, apart.addressed stay,
    fun renewed member => ?minted⟩
  case tokens =>
    obtain ⟨before, listed, was, hit⟩ := stays left first
    obtain ⟨other, there, were, hit'⟩ := stays right second
    have one : before = other := by
      rcases hit with ⟨token, school, email⟩ | ⟨token, foreign⟩ <;>
        rcases hit' with ⟨token', school', email'⟩ | ⟨token', foreign'⟩
      · exact apart.addresses before listed other there (school.trans school'.symm)
          (email.trans email'.symm)
      · have taken : other.token = row.token := token'.symm.trans (same.symm.trans token)
        exact absurd taken ((free other there).resolve_left foreign')
      · have taken : before.token = row.token := token.symm.trans (same.trans token')
        exact absurd taken ((free before listed).resolve_left foreign)
      · exact apart.tokens before listed other there (token.symm.trans (same.trans token'))
    refine Table.key_injective first second ?_
    show left.id = right.id
    rw [was.id, were.id, one]
  case minted =>
    obtain ⟨old, listed, -, ⟨token, -⟩ | ⟨token, -⟩⟩ := stays renewed member
    · exact token ▸ minted
    · exact token ▸ apart.minted old listed

/-- An address nobody was invited under, with a token nobody has. -/
theorem LinksApart.insert (apart : LinksApart table) (minted : Minted row.token)
    (free : ∀ other ∈ table.rows, other.token ≠ row.token ∧
      ¬ (other.schoolId = row.schoolId ∧ other.email = row.email))
    (inserted : table.insert? row = some later) : LinksApart later := by
  have either := fun other => @Table.mem_insert _ _ _ _ table later row other inserted
  constructor
  case tokens =>
    intro left first right second same
    rcases (either left).mp first with old | rfl <;> rcases (either right).mp second with old' | rfl
    · exact apart.tokens left old right old' same
    · exact absurd same (free left old).1
    · exact absurd same.symm (free right old').1
    · rfl
  case addresses =>
    intro left first right second school email
    rcases (either left).mp first with old | rfl <;> rcases (either right).mp second with old' | rfl
    · exact apart.addresses left old right old' school email
    · exact absurd ⟨school, email⟩ (free left old).2
    · exact absurd ⟨school.symm, email.symm⟩ (free right old').2
    · rfl
  case minted =>
    intro other member
    rcases (either other).mp member with old | rfl
    · exact apart.minted other old
    · exact minted

theorem LinksApart.upsert (apart : LinksApart db.invitations) (minted : Minted row.token)
    (done : db.upsertInvitation row = .ok next) : LinksApart next.invitations := by
  obtain ⟨-, untaken, stored⟩ := Db.upsertInvitation_ok.mp done
  have free : ∀ other ∈ db.invitations.rows,
      (other.schoolId = row.schoolId ∧ other.email = row.email) ∨ other.token ≠ row.token := by
    intro other listed
    simpa only [Bool.or_eq_true, Bool.and_eq_true, beq_iff_eq, bne_iff_ne] using
      List.all_eq_true.mp untaken other listed
  split at stored
  · obtain rfl := stored
    refine apart.renew minted free fun renewed member => ?_
    obtain ⟨old, listed, rfl⟩ := List.mem_map.mp member
    refine ⟨old, listed, ?_⟩
    split
    · rename_i hit
      rw [Bool.and_eq_true, beq_iff_eq, beq_iff_eq] at hit
      exact ⟨⟨rfl, rfl, rfl⟩, .inl ⟨rfl, hit⟩⟩
    · rename_i missed
      rw [Bool.and_eq_true, beq_iff_eq, beq_iff_eq] at missed
      exact ⟨⟨rfl, rfl, rfl⟩, .inr ⟨rfl, missed⟩⟩
  · rename_i unknown
    obtain ⟨invitations, inserted, rfl⟩ := stored
    refine apart.insert minted (fun other listed => ?_) inserted
    have foreign : ¬ (other.schoolId = row.schoolId ∧ other.email = row.email) := by
      rintro ⟨school, email⟩
      refine unknown (List.any_eq_true.mpr ⟨other, listed, ?_⟩)
      rw [school, email, beq_self_eq_true, beq_self_eq_true]
      rfl
    exact ⟨(free other listed).resolve_left foreign, foreign⟩

/-- All that a request can do to the invitations: it leaves each of them under the address and the
token it had, or it stores one under the token it draws. -/
theorem Request.serve_invitations (request : Request) :
    (∀ row ∈ (request.serve platform outside world).world.db.invitations.rows,
      ∃ old ∈ world.db.invitations.rows, old.Stays row ∧ row.token = old.token) ∨
    ∃ userId email row next, request = .command userId (.invite email) ∧
      row.token = outside.draw.random ∧ world.db.upsertInvitation row = .ok next ∧
        (request.serve platform outside world).world.db.invitations = next.invitations := by
  have still : ∀ {next : Db}, next.invitations = world.db.invitations →
      ∀ row ∈ next.invitations.rows, ∃ old ∈ world.db.invitations.rows,
        old.Stays row ∧ row.token = old.token :=
    fun same row member => ⟨row, same ▸ member, ⟨rfl, rfl, rfl⟩, rfl⟩
  cases request with
  | query userId asked =>
      refine .inl (still ?_)
      unfold serve
      dsimp only
      split <;> rfl
  | command userId asked =>
      unfold serve
      dsimp only
      split
      · exact .inl (still rfl)
      · rename_i admin found
        cases asked with
        | invite email =>
            dsimp only [Command.run]
            cases done : InvitationsService.invite platform admin outside.draw email world.db with
            | error reason => exact .inl (still rfl)
            | ok answer =>
                obtain ⟨-, _, -, stored, -⟩ := InvitationsService.invite_ok.mp done
                exact .inr ⟨userId, email, _, _, rfl, rfl, stored, rfl⟩
        | revokeInvitation id =>
            refine .inl (World.commitUnit_keeps (fun db => ∀ row ∈ db.invitations.rows,
              ∃ old ∈ world.db.invitations.rows, old.Stays row ∧ row.token = old.token) (still rfl)
              fun _ done => ?_)
            obtain ⟨-, rfl⟩ := InvitationsService.revoke_ok.mp done
            exact fun row member => ⟨row, List.mem_of_mem_filter member, ⟨rfl, rfl, rfl⟩, rfl⟩
        | _ =>
            refine .inl (still (Command.run_only _ .invitations ?_))
            simp [Command.footprint, studentCascade, groupCascade]
  | anonymous call =>
      refine .inl ?_
      cases call with
      | acceptInvitation token name =>
          refine World.commit_keeps (fun db => ∀ row ∈ db.invitations.rows,
            ∃ old ∈ world.db.invitations.rows, old.Stays row ∧ row.token = old.token) (still rfl)
            fun _ _ done => ?_
          obtain ⟨invitation, -, -, stored, created, -, rfl⟩ := InvitationsService.accept_ok.mp done
          obtain ⟨-, -, users, -, rfl⟩ := Db.createUser_ok.mp created
          intro row member
          obtain ⟨old, listed, rfl⟩ := List.mem_map.mp member
          refine ⟨old, listed, ?_⟩
          split <;> exact ⟨⟨rfl, rfl, rfl⟩, rfl⟩
      | _ =>
          refine still (PublicCall.run_only _ .invitations ?_)
          simp [PublicCall.footprint]

/-- One request keeps the links apart, if it mints the token of an invitation it sends. -/
theorem Request.serve_links (request : Request)
    (minted : ∀ userId email, request = .command userId (.invite email) → Minted outside.draw.random)
    (apart : LinksApart world.db.invitations) :
    LinksApart (request.serve platform outside world).world.db.invitations := by
  rcases request.serve_invitations with stays | ⟨userId, email, row, next, sends, drawn, stored, same⟩
  · exact apart.keep stays
  · rw [same]
    exact apart.upsert (drawn ▸ minted userId email sends) stored

theorem World.after_links (requests : List (Outside × Request))
    (minted : ∀ asked ∈ requests, ∀ userId email,
      asked.2 = .command userId (.invite email) → Minted asked.1.draw.random)
    (apart : LinksApart world.db.invitations) :
    LinksApart (world.after platform requests).db.invitations := by
  induction requests generalizing world with
  | nil => exact apart
  | cons asked rest ih =>
      exact ih (fun other member => minted other (List.mem_cons_of_mem _ member))
        (asked.2.serve_links (minted asked List.mem_cons_self) apart)

open InvitationsService

/-- A pending invitation is described under its token, until it runs out. -/
theorem LinksApart.describes (apart : LinksApart db.invitations) (listed : row ∈ db.invitations.rows)
    (unaccepted : row.acceptedAt = none) {later : Draw} (early : later.now ≤ row.expiresAt) :
    describe later row.token db = .ok ⟨row.email, (db.schools.find row.schoolId).map School.name,
      (db.users.find row.invitedById).map User.name, row.expiresAt⟩ := by
  have found : db.invitations.rows.find? (fun other => other.token == row.token) = some row := by
    cases first : db.invitations.rows.find? fun other => other.token == row.token with
    | none =>
        have other := List.find?_eq_none.mp first row listed
        exact absurd (beq_self_eq_true row.token) other
    | some other =>
        have named := List.find?_some first
        have same : other.token = row.token := beq_iff_eq.mp named
        rw [apart.tokens other (List.mem_of_find?_eq_some first) row listed same]
  have usable : findUsable later.now row.token db = .ok row := by
    unfold findUsable
    rw [found, orNotFound_ok, Option.filter_eq_some_iff]
    exact ⟨rfl, by simp [unaccepted, early]⟩
  rw [describe, usable]
  rfl

/-- Whatever requests came before: the link of an invitation that its sender is shown leads to a page
that hands its token over to the app, in the same document for every token; and until it runs out the
token describes that very invitation, whose link no other invitation has. -/
theorem shared_links_lead_to_their_invitation (base : String) (requests : List (Outside × Request))
    (minted : ∀ asked ∈ requests, ∀ userId email,
      asked.2 = .command userId (.invite email) → Minted asked.1.draw.random)
    {admin : User} {draw : Draw} {view : InvitationView} {link : String}
    (shown : view ∈ InvitationsService.list platform admin draw
      (World.empty.after platform requests).db)
    (shared : view.acceptUrl = some link) :
    let db := (World.empty.after platform requests).db
    ∃ token, link = linkFor platform token ∧
      page base token = .ok (beforeLink ++ (base ++ "/" ++ token) ++ afterLink) ∧
      (∀ other html another, page base token = .ok html → page base other = .ok another →
        markup html = markup another) ∧
      (∀ later : Draw, later.now ≤ view.expiresAt → ∃ description,
        describe later token db = .ok description ∧ description.email = view.email ∧
          description.expiresAt = view.expiresAt ∧
          description.schoolName = (db.schools.find admin.schoolId).map School.name) ∧
      ∀ sender now other, other ∈ InvitationsService.list platform sender now db →
        other.acceptUrl = some link → other.id = view.id := by
  intro db
  have apart : LinksApart db.invitations := World.after_links requests minted
    ⟨fun _ first => absurd first List.not_mem_nil, fun _ first => absurd first List.not_mem_nil,
      fun _ first => absurd first List.not_mem_nil⟩
  -- What a listed link says of the row behind it.
  have behind : ∀ {sender : User} {now : Draw} {other : InvitationView},
      other ∈ InvitationsService.list platform sender now db → other.acceptUrl = some link →
        ∃ row ∈ db.invitations.rows, row.schoolId = sender.schoolId ∧ row.acceptedAt = none ∧
          link = linkFor platform row.token ∧ row.id = other.id ∧ row.email = other.email ∧
            row.expiresAt = other.expiresAt := by
    intro sender now other listed linked
    obtain ⟨row, member, rfl⟩ := List.mem_map.mp listed
    obtain ⟨present, home⟩ := Table.mem_select.mp (mem_sortByTimeDesc.mp member)
    dsimp only [toPublic] at linked
    split at linked
    · rename_i pending
      refine ⟨row, present, beq_iff_eq.mp home, ?_, (Option.some.inj linked).symm, rfl, rfl, rfl⟩
      cases accepted : row.acceptedAt with
      | none => rfl
      | some time => simp [statusOf, accepted] at pending
    · cases linked
  obtain ⟨row, listed, home, unaccepted, leads, id, email, expires⟩ := behind shown shared
  refine ⟨row.token, leads, ?page, fun other html another here there => ?document,
    fun later early => ?describes, fun sender now other there linked => ?once⟩
  case page => rw [page, if_pos (apart.minted row listed).isToken]
  case document => rw [page_markup here, page_markup there]
  case describes =>
    refine ⟨_, apart.describes listed unaccepted (expires ▸ early), email, expires, ?_⟩
    rw [home]
  case once =>
    obtain ⟨row', listed', -, -, leads', id', -⟩ := behind there linked
    have same : row.token = row'.token :=
      (String.append_right_inj _).mp (leads.symm.trans leads')
    rw [← id, ← id', apart.tokens row listed row' listed' same]

end

/-- An invitation for which thirty-two times the same byte is drawn. -/
def invitesWith (id : Id) (byte : UInt8) (email : String) : Outside × Request :=
  ({ Outside.quiet id with
      draw := { (Outside.quiet id).draw with random := Base64Url.encode (List.replicate 32 byte) } },
    .command "a1" (.invite email))

def bothInvited : List (Outside × Request) :=
  [foxSchool, invitesWith "i1" 7 "cyd@x.io", invitesWith "i2" 8 "eve@x.io"]

theorem bothInvited_minted : ∀ asked ∈ bothInvited, ∀ userId email,
    asked.2 = .command userId (.invite email) → Minted asked.1.draw.random := by
  intro asked member userId email sends
  obtain rfl | rfl | rfl : asked = foxSchool ∨ asked = invitesWith "i1" 7 "cyd@x.io" ∨
      asked = invitesWith "i2" 8 "eve@x.io" := by simpa [bothInvited] using member
  · cases sends
  · exact ⟨List.replicate 32 7, rfl, rfl⟩
  · exact ⟨List.replicate 32 8, rfl, rfl⟩

def cydToken : String := "BwcHBwcHBwcHBwcHBwcHBwcHBwcHBwcHBwcHBwcHBwc"

/-- Of the two links Ann is shown, Cyd opens the one passed on, and the app describes Cyd's
invitation. -/
theorem cyd_is_handed_over :
    let shown := InvitationsService.list .plain foxAdmin (Outside.quiet "x1").draw
      (World.empty.after .plain bothInvited).db
    shown.map InvitationView.acceptUrl =
      [some ("foxacademy://register/" ++ cydToken),
        some "foxacademy://register/CAgICAgICAgICAgICAgICAgICAgICAgICAgICAgICAg"] ∧
    page "foxacademy://invite" cydToken =
      .ok (beforeLink ++ ("foxacademy://invite" ++ "/" ++ cydToken) ++ afterLink) ∧
    (∃ description, InvitationsService.describe (Outside.quiet "x1").draw cydToken
        (World.empty.after .plain bothInvited).db = .ok description ∧
      description.email = "cyd@x.io") ∧
    ∀ view ∈ shown, view.acceptUrl = some ("foxacademy://register/" ++ cydToken) →
      view.id = "i1" := by
  intro shown
  obtain ⟨view, listed, shared, id, email, early⟩ : ∃ view ∈ shown,
      view.acceptUrl = some (InvitationsService.linkFor .plain cydToken) ∧ view.id = "i1" ∧
        view.email = "cyd@x.io" ∧ (Outside.quiet "x1").draw.now ≤ view.expiresAt := by
    decide
  obtain ⟨token, leads, handed, -, described, once⟩ := shared_links_lead_to_their_invitation
    "foxacademy://invite" bothInvited bothInvited_minted listed shared
  obtain rfl : cydToken = token := (String.append_right_inj _).mp leads
  obtain ⟨description, found, same, -⟩ := described _ early
  exact ⟨by decide, handed, ⟨description, found, same.trans email⟩,
    fun other there linked => (once _ _ other there linked).trans id⟩

end TutorApp
