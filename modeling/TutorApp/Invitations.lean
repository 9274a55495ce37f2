import TutorApp.Schools

set_option autoImplicit false

namespace TutorApp

open Relational
open Js (Instant)

inductive InvitationStatus where
  | accepted
  | expired
  | pending
  deriving Repr, DecidableEq

/-- An invitation as its sender sees it; only a pending one carries its link. -/
structure InvitationView where
  id : Id
  email : String
  role : UserRole
  expiresAt : Instant
  acceptedAt : Option Instant
  createdAt : Instant
  status : InvitationStatus
  acceptUrl : Option String
  deriving Repr, DecidableEq

structure InvitationDescription where
  email : String
  schoolName : Option String
  invitedByName : Option String
  expiresAt : Instant
  deriving Repr, DecidableEq

namespace NotificationsService

/-- Everybody of the school but the newcomer is told. -/
def tutorJoined (draw : Draw) (newcomer : User) (db : Db) : Db :=
  let recipients := db.users.select fun row =>
    row.schoolId == newcomer.schoolId && row.id != newcomer.id
  db.createNotifications (recipients.map fun row =>
    ⟨.tutorJoined, newcomer.name, none, row.id, draw.now⟩)

end NotificationsService

namespace InvitationsService

def hourMs : Int := 3600000

def statusOf (now : Instant) (invitation : Invitation) : InvitationStatus :=
  if invitation.acceptedAt.isSome then .accepted
  else if invitation.expiresAt < now then .expired else .pending

def toPublic (now : Instant) (acceptUrl : Option String) (invitation : Invitation) :
    InvitationView where
  id := invitation.id
  email := invitation.email
  role := invitation.role
  expiresAt := invitation.expiresAt
  acceptedAt := invitation.acceptedAt
  createdAt := invitation.createdAt
  status := statusOf now invitation
  acceptUrl := acceptUrl

section

variable (platform : Platform)

def linkFor (token : String) : String := platform.inviteUrlBase ++ "/" ++ token

/-- Inviting an address again replaces its token and clock. -/
def invite (admin : User) (draw : Draw) (email : String) (db : Db) :
    Service (InvitationView × Db) := do
  let email := SchoolsService.normalizeEmail platform email
  require (!db.emailTaken email)
    (.conflict "Someone with that email already has an account" .none)
  let expiresAt ← timestampColumn
    (Js.dateOfMs ((draw.now + platform.inviteTtlHours * hourMs : Int) : ℚ))
  let db ← db.upsertInvitation
    ⟨draw.id, email, draw.random, .tutor, expiresAt, none, draw.now, admin.schoolId, admin.id⟩
  let stored ← orNotFound (db.invitations.rows.find? fun row =>
    row.schoolId == admin.schoolId && row.email == email) "Not found"
  return (toPublic draw.now (some (linkFor platform draw.random)) stored, db)

def list (admin : User) (draw : Draw) (db : Db) : List InvitationView :=
  (sortByTimeDesc Invitation.createdAt (db.invitations.select fun row =>
    row.schoolId == admin.schoolId)).map fun row =>
      let link := if statusOf draw.now row = .pending then some (linkFor platform row.token) else none
      toPublic draw.now link row

end

def revoke (admin : User) (id : Id) (db : Db) : Service Db :=
  let (count, next) := db.deleteInvitations id admin.schoolId
  if count = 0 then .error (.notFound "Invitation not found") else .ok next

/-- One message for missing, expired and used. -/
def findUsable (now : Instant) (token : String) (db : Db) : Service Invitation :=
  let usable := fun row : Invitation => row.acceptedAt.isNone && now ≤ row.expiresAt
  orNotFound ((db.invitations.rows.find? fun row => row.token == token).filter usable)
    "This invitation is no longer valid"

def describe (draw : Draw) (token : String) (db : Db) : Service InvitationDescription := do
  let invitation ← findUsable draw.now token db
  return ⟨invitation.email, (db.schools.find invitation.schoolId).map School.name,
    (db.users.find invitation.invitedById).map User.name, invitation.expiresAt⟩

/-- The account an invitation makes. -/
def newcomer (draw : Draw) (name : String) (invitation : Invitation) : User where
  id := draw.id
  email := invitation.email
  passwordHash := draw.passwordHash
  name := Js.trim name
  role := invitation.role
  schoolId := invitation.schoolId
  config := .obj []

/-- The claim and the account in one transaction, the notifications after it. -/
def accept (draw : Draw) (token name : String) (db : Db) : Service (User × Db) := do
  let invitation ← findUsable draw.now token db
  let (claimed, db) := db.claimInvitation invitation.id draw.now
  require (claimed != 0) (.badRequest "This invitation has already been used")
  let user := newcomer draw name invitation
  let db ← db.createUser user
  return (user, NotificationsService.tutorJoined draw user db)

section

variable {platform : Platform} {admin : User} {draw : Draw} {id : Id} {db next : Db}

theorem invite_ok {email : String} {view : InvitationView} :
    invite platform admin draw email db = .ok (view, next) ↔
      db.emailTaken (SchoolsService.normalizeEmail platform email) = false ∧
        ∃ expiresAt, timestampColumn
            (Js.dateOfMs ((draw.now + platform.inviteTtlHours * hourMs : Int) : ℚ)) =
              .ok expiresAt ∧
          db.upsertInvitation ⟨draw.id, SchoolsService.normalizeEmail platform email, draw.random,
            .tutor, expiresAt, none, draw.now, admin.schoolId, admin.id⟩ = .ok next ∧
          ∃ stored, (next.invitations.rows.find? fun row => row.schoolId == admin.schoolId &&
              row.email == SchoolsService.normalizeEmail platform email) = some stored ∧
            toPublic draw.now (some (linkFor platform draw.random)) stored = view := by
  simp only [invite, bind_ok, exists_const, require_ok, Bool.not_eq_true', orNotFound_ok, pure_ok,
    Prod.mk.injEq]
  refine and_congr_right fun _ => exists_congr fun expiresAt => and_congr_right fun _ => ?_
  constructor
  · rintro ⟨_, upserted, stored, found, rfl, rfl⟩
    exact ⟨upserted, stored, found, rfl⟩
  · rintro ⟨upserted, stored, found, rfl⟩
    exact ⟨next, upserted, stored, found, rfl, rfl⟩

theorem revoke_ok : revoke admin id db = .ok next ↔
    (db.deleteInvitations id admin.schoolId).1 ≠ 0 ∧
      (db.deleteInvitations id admin.schoolId).2 = next := by
  unfold revoke
  obtain ⟨count, after⟩ := db.deleteInvitations id admin.schoolId
  by_cases none : count = 0 <;> simp [none]

theorem accept_ok {token name : String} {account : User} :
    accept draw token name db = .ok (account, next) ↔
      ∃ invitation, findUsable draw.now token db = .ok invitation ∧
        (db.claimInvitation invitation.id draw.now).1 ≠ 0 ∧
          ∃ stored, (db.claimInvitation invitation.id draw.now).2.createUser
              (newcomer draw name invitation) = .ok stored ∧
            newcomer draw name invitation = account ∧
              NotificationsService.tutorJoined draw (newcomer draw name invitation) stored =
                next := by
  simp only [accept, bind_ok, exists_const, require_ok, bne_iff_ne, pure_ok, Prod.mk.injEq]

end

end InvitationsService

end TutorApp
