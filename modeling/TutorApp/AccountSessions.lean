import TutorApp.System
import TutorApp.ReadCommitted

set_option autoImplicit false

namespace TutorApp

open Relational
open ReadCommitted (Turn Rules Path)
open Js (Instant)

/-- What a caller sends to accept an invitation, and what the call draws. Its claim comes later than
its lookup. -/
structure AcceptCall where
  draw : Draw
  claimedAt : Instant
  token : String
  name : String
  deriving Repr, DecidableEq

structure InviteCall where
  admin : User
  draw : Draw
  email : String
  deriving DecidableEq

/-- For the record: an account made by accepting, the token it was made with, and its invitation
as it was when it was claimed. -/
structure Admission where
  token : String
  claimed : Invitation
  account : User
  deriving DecidableEq

structure Registry where
  db : Db
  admissions : List Admission

/-- What these calls write. -/
inductive RegistryWrite where
  | claim (id : Id) (claimedAt : Instant)
  | deleteInvitation (id schoolId : Id)
  | renewInvitation (id : Id) (row : Invitation)
  | insertInvitation (row : Invitation)
  | insertSchool (row : School)
  | insertUser (row : User) (admission : Option Admission)
  deriving DecidableEq

/-- The rows and the entries of unique indexes that these writes lock. -/
inductive RegistryKey where
  | invitation (id : Id)
  | token (token : String)
  | address (schoolId : Id) (email : String)
  | school (id : Id)
  | slug (slug : String)
  | user (id : Id)
  | email (email : String)
  deriving Repr, DecidableEq

namespace Db

/-- A resend gets a fresh token and clock, and clears any earlier acceptance. -/
def renewed (row other : Invitation) : Invitation :=
  { other with
    token := row.token, expiresAt := row.expiresAt, acceptedAt := none,
    invitedById := row.invitedById }

theorem key_renewed (row other : Invitation) : key (renewed row other) = key other := rfl

/-- The update an upsert runs when it has found the row. -/
def renewInvitation (id : Id) (row : Invitation) (db : Db) : Service Db := do
  require (db.hasUser row.invitedById) .internal
  require (db.invitations.rows.all fun other => other.id == id || other.token != row.token)
    uniqueViolation
  let invitations ← updateRow db.invitations id (renewed row) (key_renewed row)
  return { db with invitations }

/-- The insert an upsert runs when it has found none. -/
def insertInvitation (row : Invitation) (db : Db) : Service Db := do
  require (db.hasSchool row.schoolId && db.hasUser row.invitedById) .internal
  require (db.invitations.rows.all fun other => other.token != row.token &&
    !(other.schoolId == row.schoolId && other.email == row.email)) uniqueViolation
  let invitations ← createRow db.invitations row
  return { db with invitations }

end Db

namespace RegistryWrite

/-- What a write does to the database once its statement has gone through. -/
def change : RegistryWrite → Db → Db
  | claim id claimedAt, db => (db.claimInvitation id claimedAt).2
  | deleteInvitation id schoolId, db => (db.deleteInvitations id schoolId).2
  | renewInvitation id row, db =>
      let invitations := db.invitations.update (fun other => decide (key other = id))
        (Db.renewed row) (Db.key_renewed row)
      { db with invitations }
  | insertInvitation row, db =>
      { db with invitations := (db.invitations.insert? row).getD db.invitations }
  | insertSchool row, db => { db with schools := (db.schools.insert? row).getD db.schools }
  | insertUser row _, db => { db with users := (db.users.insert? row).getD db.users }

def admits : RegistryWrite → Option Admission
  | insertUser _ admission => admission
  | _ => none

def apply (write : RegistryWrite) (reg : Registry) : Registry where
  db := write.change reg.db
  admissions := reg.admissions ++ write.admits.toList

def locks : RegistryWrite → List RegistryKey
  | claim id _ | deleteInvitation id _ => [.invitation id]
  | renewInvitation id row => [.invitation id, .token row.token]
  | insertInvitation row => [.invitation row.id, .token row.token, .address row.schoolId row.email]
  | insertSchool row => [.school row.id, .slug row.slug]
  | insertUser row _ => [.user row.id, .email row.email]

/-- The invitation whose link a write hands out. -/
def issues : RegistryWrite → Option Id
  | renewInvitation id _ => some id
  | insertInvitation row => some row.id
  | _ => none

end RegistryWrite

/-- Where a call stands: `InvitationsService.accept`, `invite` and `revoke`, and the two that
make accounts without an invitation, each between two of its statements. -/
inductive Errand where
  | presenting (call : AcceptCall)
  | hashing (call : AcceptCall) (invitation : Invitation)
  | claiming (call : AcceptCall) (invitation : Invitation)
  | enrolling (call : AcceptCall) (invitation claimed : Invitation)
  | admitted (admission : Admission)
  | addressing (call : InviteCall)
  | finding (call : InviteCall)
  | issuing (call : InviteCall) (existing : Option Id)
  | issued
  | revoking (admin : User) (id : Id)
  | revoked
  | registering (draw : Draw) (dto : RegisterSchoolDto)
  | slugging (draw : Draw) (dto : RegisterSchoolDto)
  | founding (school : School) (account : User)
  | hiring (caller : User) (draw : Draw) (dto : CreateTutorDto)
  | joining (account : User)
  | joined

/-- A statement that fails ends the transaction. -/
def onceDone {α : Type} (result : Service α) (writes : List RegistryWrite) (next : α → Errand) :
    Turn RegistryWrite Errand :=
  match result with
  | .error _ => .fail
  | .ok value => .write writes (next value)

namespace SchoolsService

variable (platform : Platform)

/-- The school a registration creates, and its first admin. -/
def newSchool (draw : Draw) (dto : RegisterSchoolDto) : School :=
  ⟨draw.id, Js.trim dto.schoolName, dto.slug.getD (slugify platform draw dto.schoolName),
    dto.timezone.getD "UTC", defaultGradeScaleMax⟩

def newAdmin (draw : Draw) (dto : RegisterSchoolDto) : User :=
  ⟨draw.secondId, normalizeEmail platform dto.adminEmail, draw.passwordHash,
    Js.trim dto.adminName, .admin, draw.id, .obj []⟩

def newTutor (caller : User) (draw : Draw) (dto : CreateTutorDto) : User :=
  ⟨draw.id, normalizeEmail platform dto.email, draw.passwordHash, Js.trim dto.name, .tutor,
    caller.schoolId, .obj []⟩

end SchoolsService

namespace InvitationsService

/-- The row an invitation is stored as, if the date it runs until is one. -/
def newInvitation (platform : Platform) (call : InviteCall) : Service Invitation := do
  let expiresAt ← timestampColumn
    (Js.dateOfMs ((call.draw.now + platform.inviteTtlHours * hourMs : Int) : ℚ))
  return ⟨call.draw.id, SchoolsService.normalizeEmail platform call.email, call.draw.random, .tutor,
    expiresAt, none, call.draw.now, call.admin.schoolId, call.admin.id⟩

/-- The row a claim hits: one that is there and has not been accepted. -/
def claimable (id : Id) (db : Db) : Option Invitation :=
  (db.invitations.find id).filter fun row => row.acceptedAt.isNone

/-- The row an upsert finds for its address. -/
def addressed (platform : Platform) (call : InviteCall) (db : Db) : Option Id :=
  (db.invitations.rows.find? fun row => row.schoolId == call.admin.schoolId &&
    row.email == SchoolsService.normalizeEmail platform call.email).map Invitation.id

end InvitationsService

/-- A check that must not fail before a call goes on. -/
def stopIf (stopped : Bool) (next : Errand) : Turn RegistryWrite Errand :=
  if stopped then .fail else .write [] next

namespace InvitationsService

/-- The conditional `updateMany` of `accept`: one that hits no row ends the transaction. -/
def claimTurn (call : AcceptCall) (invitation : Invitation) (db : Db) : Turn RegistryWrite Errand :=
  match claimable invitation.id db with
  | none => .fail
  | some claimed => .write [.claim invitation.id call.claimedAt] (.enrolling call invitation claimed)

/-- The account of `accept`, from what its lookup found. -/
def enrolTurn (call : AcceptCall) (invitation claimed : Invitation) (db : Db) :
    Turn RegistryWrite Errand :=
  let admission : Admission := ⟨call.token, claimed, newcomer call.draw call.name invitation⟩
  onceDone (db.createUser admission.account) [.insertUser admission.account (some admission)]
    fun _ => .admitted admission

/-- The write of an upsert, by what it found. -/
def issueTurn (row : Invitation) (existing : Option Id) (db : Db) : Turn RegistryWrite Errand :=
  match existing with
  | some id => onceDone (db.renewInvitation id row) [.renewInvitation id row] fun _ => .issued
  | none => onceDone (db.insertInvitation row) [.insertInvitation row] fun _ => .issued

def revokeTurn (admin : User) (id : Id) (db : Db) : Turn RegistryWrite Errand :=
  if (db.deleteInvitations id admin.schoolId).1 = 0 then .fail
  else .write [.deleteInvitation id admin.schoolId] .revoked

end InvitationsService

open InvitationsService SchoolsService in
/-- The next statement of a call. The hash takes its time between the lookup and the
transaction, which claims the invitation and then makes the account. -/
def Errand.turn (platform : Platform) : Errand → Registry → Turn RegistryWrite Errand
  | presenting call, reg => onceDone (findUsable call.draw.now call.token reg.db) [] (hashing call)
  | hashing call invitation, _ => .write [] (claiming call invitation)
  | claiming call invitation, reg => claimTurn call invitation reg.db
  | enrolling call invitation claimed, reg => enrolTurn call invitation claimed reg.db
  | addressing call, reg =>
      stopIf (reg.db.emailTaken (normalizeEmail platform call.email)) (finding call)
  | finding call, reg => .write [] (issuing call (addressed platform call reg.db))
  | issuing call existing, reg =>
      match newInvitation platform call with
      | .error _ => .fail
      | .ok row => issueTurn row existing reg.db
  | revoking admin id, reg => revokeTurn admin id reg.db
  | registering draw dto, reg =>
      stopIf (reg.db.emailTaken (newAdmin platform draw dto).email) (slugging draw dto)
  | slugging draw dto, reg =>
      stopIf (reg.db.schools.rows.any fun row => row.slug == (newSchool platform draw dto).slug)
        (founding (newSchool platform draw dto) (newAdmin platform draw dto))
  | founding school account, reg =>
      onceDone (reg.db.createSchool school) [.insertSchool school] fun _ => joining account
  | hiring caller draw dto, reg =>
      stopIf (reg.db.emailTaken (newTutor platform caller draw dto).email)
        (joining (newTutor platform caller draw dto))
  | joining account, reg =>
      onceDone (reg.db.createUser account) [.insertUser account none] fun _ => joined
  | admitted _, _ | issued, _ | revoked, _ | joined, _ => .commit

abbrev RegistryState (τ : Type) := ReadCommitted.State Registry RegistryWrite τ Errand

def registry (platform : Platform) : Rules Registry RegistryWrite RegistryKey Errand where
  apply := RegistryWrite.apply
  locks := RegistryWrite.locks
  turn := Errand.turn platform

section

variable {platform : Platform} {db next : Db} {admissions : List Admission}

/-- Every statement of a call under no condition. -/
abbrev RegistryPath (platform : Platform) : Errand → Registry → Errand → Registry → Prop :=
  Path (registry platform) fun _ _ => True

theorem Errand.turn_issuing (call : InviteCall) (existing : Option Id) (reg : Registry) :
    Errand.turn platform (.issuing call existing) reg =
      match InvitationsService.newInvitation platform call with
      | .error _ => .fail
      | .ok row => InvitationsService.issueTurn row existing reg.db := (rfl)

theorem onceDone_write {α : Type} {result : Service α} {writes written : List RegistryWrite}
    {next : α → Errand} {there : Errand} :
    onceDone result writes next = .write written there ↔
      ∃ value, result = .ok value ∧ writes = written ∧ next value = there := by
  cases result with
  | error reason =>
      constructor
      · intro turn
        cases turn
      · rintro ⟨_, ok, _⟩
        cases ok
  | ok value => simp [onceDone]

theorem claimable_of_count {id : Id} {claimedAt : Instant}
    (counted : (db.claimInvitation id claimedAt).1 ≠ 0) :
    ∃ claimed, InvitationsService.claimable id db = some claimed := by
  obtain ⟨row, listed⟩ := List.exists_mem_of_length_pos (Nat.pos_of_ne_zero counted)
  obtain ⟨member, hit⟩ := Table.mem_select.mp listed
  rw [Bool.and_eq_true, beq_iff_eq] at hit
  have found : db.invitations.find id = some row := Table.find_eq_some.mpr ⟨member, hit.1⟩
  exact ⟨row, by rw [InvitationsService.claimable, found, Option.filter_some, if_pos hit.2]⟩

theorem createUser_change {row : User} {admission : Option Admission}
    (done : db.createUser row = .ok next) :
    (RegistryWrite.insertUser row admission).change db = next := by
  obtain ⟨-, -, users, inserted, rfl⟩ := Db.createUser_ok.mp done
  rw [RegistryWrite.change, inserted]
  rfl

/-- A call of `accept` that nobody comes between commits the account the service makes; the
notifications come after it. -/
theorem accept_path {draw : Draw} {token name : String} {account : User}
    (done : InvitationsService.accept draw token name db = .ok (account, next)) :
    ∃ claimed stored, RegistryPath platform (.presenting ⟨draw, draw.now, token, name⟩)
        ⟨db, admissions⟩ (.admitted ⟨token, claimed, account⟩)
        ⟨stored, admissions ++ [⟨token, claimed, account⟩]⟩ ∧
      next = NotificationsService.tutorJoined draw account stored := by
  obtain ⟨invitation, usable, counted, stored, created, rfl, rfl⟩ :=
    InvitationsService.accept_ok.mp done
  obtain ⟨claimed, found⟩ := claimable_of_count counted
  let call : AcceptCall := ⟨draw, draw.now, token, name⟩
  have claims : InvitationsService.claimTurn call invitation db =
      .write [.claim invitation.id draw.now] (.enrolling call invitation claimed) := by
    rw [InvitationsService.claimTurn, found]
  let admission : Admission := ⟨token, claimed, InvitationsService.newcomer draw name invitation⟩
  have written : (registry platform).applyAll [.claim invitation.id draw.now] ⟨db, admissions⟩ =
      ⟨(db.claimInvitation invitation.id draw.now).2, admissions⟩ :=
    congrArg (Registry.mk _) (List.append_nil admissions)
  have enrols : Errand.turn platform (.enrolling call invitation claimed)
      ⟨(db.claimInvitation invitation.id draw.now).2, admissions⟩ =
        .write [.insertUser admission.account (some admission)] (.admitted admission) :=
    onceDone_write.mpr ⟨stored, created, rfl, rfl⟩
  have enrolled : (registry platform).applyAll [.insertUser admission.account (some admission)]
      ⟨(db.claimInvitation invitation.id draw.now).2, admissions⟩ =
        ⟨stored, admissions ++ [admission]⟩ :=
    congrArg (Registry.mk · _) (createUser_change created)
  refine ⟨claimed, stored, ?_, rfl⟩
  have enrolling : RegistryPath platform (.enrolling call invitation claimed)
      ⟨(db.claimInvitation invitation.id draw.now).2, admissions⟩ (.admitted admission)
      ⟨stored, admissions ++ [admission]⟩ := by
    refine .issue enrols trivial ?_
    rw [enrolled]
    exact .stay _ _
  have claiming : RegistryPath platform (.claiming call invitation) ⟨db, admissions⟩
      (.admitted admission) ⟨stored, admissions ++ [admission]⟩ := by
    refine .issue claims trivial ?_
    rw [written]
    exact enrolling
  exact .issue (onceDone_write.mpr ⟨invitation, usable, rfl, rfl⟩) trivial
    (.issue rfl trivial claiming)

theorem stopIf_false {next : Errand} {stopped : Bool} (free : stopped = false) :
    stopIf stopped next = .write [] next := by
  rw [stopIf, free]
  rfl

/-- What a write that admits nobody makes of the registry. -/
theorem apply_database {write : RegistryWrite} (silent : write.admits = none) :
    (registry platform).applyAll [write] ⟨db, admissions⟩ = ⟨write.change db, admissions⟩ := by
  show Registry.mk (write.change db) (admissions ++ write.admits.toList) = _
  rw [silent, Option.toList_none, List.append_nil]

theorem revoke_path {admin : User} {id : Id}
    (done : InvitationsService.revoke admin id db = .ok next) :
    RegistryPath platform (.revoking admin id) ⟨db, admissions⟩ .revoked ⟨next, admissions⟩ := by
  simp only [InvitationsService.revoke] at done
  split at done
  · cases done
  · rename_i hit
    obtain rfl := Except.ok.inj done
    refine .issue (if_neg hit) trivial ?_
    rw [apply_database rfl]
    exact .stay _ _

theorem joining_path {account : User} (done : db.createUser account = .ok next) :
    RegistryPath platform (.joining account) ⟨db, admissions⟩ .joined ⟨next, admissions⟩ := by
  refine .issue (onceDone_write.mpr ⟨next, done, rfl, rfl⟩) trivial ?_
  rw [apply_database rfl, createUser_change done]
  exact .stay _ _

theorem createTutor_path {caller : User} {draw : Draw} {dto : CreateTutorDto} {tutor : TutorFields}
    (done : SchoolsService.createTutor platform caller draw dto db = .ok (tutor, next)) :
    RegistryPath platform (.hiring caller draw dto) ⟨db, admissions⟩ .joined
      ⟨next, admissions⟩ := by
  obtain ⟨free, created, -⟩ := SchoolsService.createTutor_ok.mp done
  exact .issue (stopIf_false free) trivial (joining_path created)

theorem register_path {draw : Draw} {dto : RegisterSchoolDto} {admin : User}
    (done : SchoolsService.register platform draw dto db = .ok (admin, next)) :
    RegistryPath platform (.registering draw dto) ⟨db, admissions⟩ .joined
      ⟨next, admissions⟩ := by
  obtain ⟨free, unslugged, founded, created, enrolled, -⟩ := SchoolsService.register_ok.mp done
  have slug : (db.schools.rows.any fun row =>
      row.slug == (SchoolsService.newSchool platform draw dto).slug) = false := by
    rw [List.any_eq_false]
    intro row member
    have other := List.all_eq_true.mp unslugged row member
    rwa [bne_iff_ne, ← beq_eq_false_iff_ne, ← Bool.not_eq_true] at other
  have change : (RegistryWrite.insertSchool (SchoolsService.newSchool platform draw dto)).change db =
      founded := by
    obtain ⟨-, schools, inserted, rfl⟩ := Db.createSchool_ok.mp created
    rw [RegistryWrite.change, SchoolsService.newSchool, inserted]
    rfl
  refine .issue (stopIf_false free) trivial (.issue (stopIf_false slug) trivial ?_)
  refine .issue (onceDone_write.mpr ⟨founded, created, rfl, rfl⟩) trivial ?_
  show RegistryPath platform _ ((registry platform).applyAll [.insertSchool _] ⟨db, admissions⟩) _ _
  rw [apply_database rfl, change]
  exact joining_path enrolled

/-- Where an address has one invitation at most, finding it and then writing is the upsert. -/
theorem issueTurn_of_upsert {row : Invitation}
    (single : ∀ left ∈ db.invitations.rows, ∀ right ∈ db.invitations.rows,
      left.schoolId = right.schoolId → left.email = right.email → left = right)
    (done : db.upsertInvitation row = .ok next) :
    ∃ write : RegistryWrite, write.admits = none ∧ write.change db = next ∧
      InvitationsService.issueTurn row ((db.invitations.rows.find? fun other =>
        other.schoolId == row.schoolId && other.email == row.email).map Invitation.id) db =
          .write [write] .issued := by
  obtain ⟨refers, untaken, stored⟩ := Db.upsertInvitation_ok.mp done
  have refersUser : db.hasUser row.invitedById = true := (Bool.and_eq_true_iff.mp refers).2
  cases found : db.invitations.rows.find? fun other =>
      other.schoolId == row.schoolId && other.email == row.email with
  | some other =>
      have listed := List.mem_of_find?_eq_some found
      have hit := List.find?_some found
      have only : ∀ third ∈ db.invitations.rows,
          (third.schoolId == row.schoolId && third.email == row.email) =
            decide (key third = other.id) := by
        intro third member
        rw [Bool.eq_iff_iff, decide_eq_true_eq]
        rw [Bool.and_eq_true, beq_iff_eq, beq_iff_eq] at hit ⊢
        constructor
        · intro same
          rw [single third member other listed (same.1.trans hit.1.symm)
            (same.2.trans hit.2.symm)]
          rfl
        · intro same
          rw [Table.key_injective member listed same]
          exact hit
      rw [if_pos (List.any_eq_true.mpr ⟨other, listed, hit⟩)] at stored
      obtain rfl := stored
      have there : db.invitations.find other.id = some other :=
        Table.find_eq_some.mpr ⟨listed, rfl⟩
      have present : (db.invitations.find other.id).isSome = true := by
        rw [there, Option.isSome_some]
      have others : (db.invitations.rows.all fun third =>
          third.id == other.id || third.token != row.token) = true := by
        rw [List.all_eq_true] at untaken ⊢
        intro third member
        have free := untaken third member
        rw [only third member] at free
        exact free
      have renews : db.renewInvitation other.id row =
          .ok ((RegistryWrite.renewInvitation other.id row).change db) := by
        simp only [Db.renewInvitation, bind_ok, require_ok, updateRow_ok, pure_ok]
        exact ⟨(), refersUser, (), others, _, ⟨present, rfl⟩, rfl⟩
      refine ⟨.renewInvitation other.id row, rfl, ?_, onceDone_write.mpr ⟨_, renews, rfl, rfl⟩⟩
      exact congrArg (fun invitations => { db with invitations }) (Table.update_congr only).symm
  | none =>
      have unaddressed := List.find?_eq_none.mp found
      rw [if_neg fun hit => by
        obtain ⟨other, member, same⟩ := List.any_eq_true.mp hit
        exact unaddressed other member same] at stored
      obtain ⟨invitations, inserted, rfl⟩ := stored
      have others : (db.invitations.rows.all fun other => other.token != row.token &&
          !(other.schoolId == row.schoolId && other.email == row.email)) = true := by
        rw [List.all_eq_true] at untaken ⊢
        intro other member
        have free := untaken other member
        rw [Bool.eq_false_iff.mpr (unaddressed other member), Bool.false_or] at free
        rw [free, Bool.eq_false_iff.mpr (unaddressed other member)]
        rfl
      have inserts : db.insertInvitation row = .ok { db with invitations } := by
        simp only [Db.insertInvitation, bind_ok, require_ok, createRow_ok, pure_ok]
        exact ⟨(), refers, (), others, invitations, inserted, rfl⟩
      refine ⟨.insertInvitation row, rfl, ?_, onceDone_write.mpr ⟨_, inserts, rfl, rfl⟩⟩
      rw [RegistryWrite.change, inserted]
      rfl

theorem invite_path {call : InviteCall} {view : InvitationView}
    (single : ∀ left ∈ db.invitations.rows, ∀ right ∈ db.invitations.rows,
      left.schoolId = right.schoolId → left.email = right.email → left = right)
    (done : InvitationsService.invite platform call.admin call.draw call.email db =
      .ok (view, next)) :
    RegistryPath platform (.addressing call) ⟨db, admissions⟩ .issued ⟨next, admissions⟩ := by
  obtain ⟨free, expiresAt, dated, upserted, _, -, -⟩ := InvitationsService.invite_ok.mp done
  let row : Invitation := ⟨call.draw.id, SchoolsService.normalizeEmail platform call.email,
    call.draw.random, .tutor, expiresAt, none, call.draw.now, call.admin.schoolId, call.admin.id⟩
  have new : InvitationsService.newInvitation platform call = .ok row := by
    simp only [InvitationsService.newInvitation, bind_ok, pure_ok]
    exact ⟨expiresAt, dated, rfl⟩
  obtain ⟨write, silent, change, issues⟩ := issueTurn_of_upsert single upserted
  refine .issue (stopIf_false free) trivial (.issue rfl trivial ?_)
  have turn : Errand.turn platform (.issuing call (InvitationsService.addressed platform call db))
      ⟨db, admissions⟩ = .write [write] .issued := by
    rw [Errand.turn_issuing, new]
    exact issues
  refine .issue turn trivial ?_
  show RegistryPath platform _ ((registry platform).applyAll [write] ⟨db, admissions⟩) _ _
  rw [apply_database silent, change]
  exact .stay _ _

end

end TutorApp
