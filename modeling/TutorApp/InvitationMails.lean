import TutorApp.InvitationRedemption
import TutorApp.InvitePage

set_option autoImplicit false

namespace TutorApp

open Relational
open Js (Instant)
open InvitationsService

/-- What the mail service is given to send; the link opens the app on the registration form. -/
structure InvitationEmail where
  recipient : String
  schoolName : String
  invitedByName : String
  acceptUrl : String
  expiresAt : Instant
  deriving Repr, DecidableEq

/-- A mail beside the admin it was sent for. -/
structure SentInvitation where
  admin : User
  mail : InvitationEmail

/-- What an `invite` that goes through mails, whether or not it arrives. -/
def InvitationsService.mailOf (platform : Platform) (admin : User) (draw : Draw) (email : String)
    (view : InvitationView) (db : Db) : InvitationEmail where
  recipient := SchoolsService.normalizeEmail platform email
  schoolName := ((db.schools.find admin.schoolId).map School.name).getD ""
  invitedByName := admin.name
  acceptUrl := linkFor platform draw.random
  expiresAt := view.expiresAt

/-- The mails of one request. -/
def Request.mails (platform : Platform) (outside : Outside) (world : World) :
    Request → List SentInvitation
  | .command userId (.invite email) =>
      match world.db.users.find userId with
      | none => []
      | some admin =>
          match invite platform admin outside.draw email world.db with
          | .ok (view, db) => [⟨admin, mailOf platform admin outside.draw email view db⟩]
          | .error _ => []
  | _ => []

/-- The mails of a run. -/
def World.mails (platform : Platform) : World → List (Outside × Request) → List SentInvitation
  | _, [] => []
  | world, asked :: rest => asked.2.mails platform asked.1 world ++
      World.mails platform (asked.2.serve platform asked.1 world).world rest

/-- The token that a request draws for an invitation. -/
def drawnToken (asked : Outside × Request) : Option String :=
  match asked.2 with
  | .command _ (.invite _) => some asked.1.draw.random
  | _ => none

/-- Whoever holds a token is invited under one address of one school. -/
def AddressedTo (token email : String) (schoolId : Id) (invitations : Table Invitation) : Prop :=
  ∀ row ∈ invitations.rows, row.token = token → row.email = email ∧ row.schoolId = schoolId

section

variable {platform : Platform} {outside : Outside} {world : World} {db next : Db} {row : Invitation}
  {token email : String} {schoolId : Id} {table later : Table Invitation}

theorem AddressedTo.keep (addressed : AddressedTo token email schoolId table)
    (stays : ∀ row ∈ later.rows, ∃ old ∈ table.rows, old.Stays row ∧ row.token = old.token) :
    AddressedTo token email schoolId later := by
  intro row member named
  obtain ⟨old, listed, was, same⟩ := stays row member
  obtain ⟨address, home⟩ := addressed old listed (same.symm.trans named)
  exact ⟨was.email.trans address, was.schoolId.trans home⟩

/-- After an upsert a row is the one it stored, or it was there before with another token. -/
theorem Db.mem_upsertInvitation (done : db.upsertInvitation row = .ok next) {other : Invitation}
    (member : other ∈ next.invitations.rows) :
    (other.token = row.token ∧ other.email = row.email ∧ other.schoolId = row.schoolId) ∨
      other ∈ db.invitations.rows ∧ other.token ≠ row.token := by
  obtain ⟨-, untaken, stored⟩ := upsertInvitation_ok.mp done
  have kept : ∀ other ∈ db.invitations.rows,
      ¬ ((other.schoolId == row.schoolId && other.email == row.email) = true) →
        other.token ≠ row.token := by
    intro other listed foreign
    have free := List.all_eq_true.mp untaken other listed
    rw [Bool.or_eq_true, bne_iff_ne] at free
    exact free.resolve_left foreign
  split at stored
  · obtain rfl := stored
    obtain ⟨old, listed, rfl⟩ := List.mem_map.mp member
    split
    · rename_i hit
      rw [Bool.and_eq_true, beq_iff_eq, beq_iff_eq] at hit
      exact .inl ⟨rfl, hit.2, hit.1⟩
    · rename_i missed
      exact .inr ⟨listed, kept old listed missed⟩
  · rename_i unknown
    obtain ⟨invitations, inserted, rfl⟩ := stored
    rcases (Table.mem_insert inserted).mp member with listed | rfl
    · exact .inr ⟨listed, kept other listed fun same =>
        unknown (List.any_eq_true.mpr ⟨other, listed, same⟩)⟩
    · exact .inl ⟨rfl, rfl, rfl⟩

/-- An upsert leaves a token to its address, also when it has stored that token itself. -/
theorem AddressedTo.upsert (own : row.token = token → row.email = email ∧ row.schoolId = schoolId)
    (before : row.token = token ∨ AddressedTo token email schoolId db.invitations)
    (done : db.upsertInvitation row = .ok next) :
    AddressedTo token email schoolId next.invitations := by
  intro other member named
  rcases Db.mem_upsertInvitation done member with ⟨same, address, home⟩ | ⟨listed, apart⟩
  · obtain ⟨email, school⟩ := own (same.symm.trans named)
    exact ⟨address.trans email, home.trans school⟩
  · rcases before with same | addressed
    · exact absurd (named.trans same.symm) apart
    · exact addressed other listed named

theorem Request.serve_addressed (request : Request)
    (other : drawnToken (outside, request) ≠ some token)
    (addressed : AddressedTo token email schoolId world.db.invitations) :
    AddressedTo token email schoolId (request.serve platform outside world).world.db.invitations := by
  rcases request.serve_invitations with stays | ⟨userId, asked, row, next, rfl, drawn, stored, same⟩
  · exact addressed.keep stays
  · have apart : row.token ≠ token := by
      rintro rfl
      exact other (congrArg some drawn.symm)
    rw [same]
    exact AddressedTo.upsert (fun named => absurd named apart) (.inr addressed) stored

theorem World.after_addressed (requests : List (Outside × Request))
    (fresh : ∀ asked ∈ requests, drawnToken asked ≠ some token)
    (addressed : AddressedTo token email schoolId world.db.invitations) :
    AddressedTo token email schoolId (world.after platform requests).db.invitations := by
  induction requests generalizing world with
  | nil => exact addressed
  | cons asked rest ih =>
      exact ih (fun other member => fresh other (List.mem_cons_of_mem _ member))
        (asked.2.serve_addressed (fresh asked List.mem_cons_self) addressed)

/-- A mail carries the token its invitation has just been stored under. -/
theorem Request.mails_addressed {request : Request} {sent : SentInvitation}
    (mailed : sent ∈ request.mails platform outside world) :
    drawnToken (outside, request) = some outside.draw.random ∧
      sent.mail.acceptUrl = linkFor platform outside.draw.random ∧
        AddressedTo outside.draw.random sent.mail.recipient sent.admin.schoolId
          (request.serve platform outside world).world.db.invitations := by
  unfold mails at mailed
  split at mailed
  · rename_i userId email
    split at mailed
    · cases mailed
    · rename_i admin found
      split at mailed
      · rename_i view db done
        obtain rfl := List.mem_singleton.mp mailed
        obtain ⟨-, _, -, stored, -⟩ := invite_ok.mp done
        have served : ((Request.command userId (.invite email)).serve platform outside world).world.db =
            db := by
          rw [serve, found]
          dsimp only [Command.run]
          rw [done]
          rfl
        rw [served]
        exact ⟨rfl, rfl, AddressedTo.upsert (fun _ => ⟨rfl, rfl⟩) (.inl rfl) stored⟩
      · cases mailed
  · cases mailed

/-- Where no token is drawn twice, a link that was mailed lets nobody in but under the address it was
mailed to, in the school of the admin it was mailed for, however the run went on. -/
theorem mailed_links_admit_the_addressee (requests : List (Outside × Request))
    (fresh : (requests.filterMap drawnToken).Nodup) {sent : SentInvitation}
    (mailed : sent ∈ world.mails platform requests) :
    let db := (world.after platform requests).db
    ∃ token, sent.mail.acceptUrl = linkFor platform token ∧
      (∀ draw description, describe draw token db = .ok description →
        description.email = sent.mail.recipient) ∧
      ∀ draw name account next, accept draw token name db = .ok (account, next) →
        account.email = sent.mail.recipient ∧ account.schoolId = sent.admin.schoolId := by
  intro db
  have addressed : ∃ token, sent.mail.acceptUrl = linkFor platform token ∧
      AddressedTo token sent.mail.recipient sent.admin.schoolId db.invitations := by
    revert db
    induction requests generalizing world with
    | nil => cases mailed
    | cons asked rest ih =>
        rcases List.mem_append.mp mailed with here | there
        · obtain ⟨drawn, carries, stored⟩ := Request.mails_addressed here
          refine ⟨_, carries, World.after_addressed rest (fun other member again => ?_) stored⟩
          rw [List.filterMap_cons_some drawn, List.nodup_cons] at fresh
          exact fresh.1 (List.mem_filterMap.mpr ⟨other, member, again⟩)
        · refine ih (fresh.sublist ?_) there
          exact (List.sublist_cons_self asked rest).filterMap drawnToken
  obtain ⟨token, carries, addressed⟩ := addressed
  refine ⟨token, carries, fun draw description described => ?_,
    fun draw name account next accepted => ?_⟩
  · obtain ⟨invitation, usable, made⟩ := bind_ok.mp described
    obtain ⟨found, named⟩ := findUsable_ok usable
    cases made
    exact (addressed invitation (Table.find_eq_some.mp found).1 named).1
  · obtain ⟨invitation, usable, -, _, -, rfl, -⟩ := accept_ok.mp accepted
    obtain ⟨found, named⟩ := findUsable_ok usable
    exact addressed invitation (Table.find_eq_some.mp found).1 named

end

/-- Cyd joins by the link that was mailed, and whoever joins by it joins as Cyd, though Eve was
invited as well. -/
theorem cyd_joins_as_invited :
    let db := (World.empty.after .plain bothInvited).db
    (∃ account next,
      accept (Outside.quiet "u1").draw cydToken "Cyd" db = .ok (account, next) ∧
        account.name = "Cyd" ∧ account.email = "cyd@x.io" ∧ account.schoolId = "s1") ∧
      ∀ draw name account next, accept draw cydToken name db = .ok (account, next) →
        account.email = "cyd@x.io" ∧ account.schoolId = "s1" := by
  intro db
  obtain ⟨sent, mailed, recipient, school, link⟩ : ∃ sent ∈ World.empty.mails .plain bothInvited,
      sent.mail.recipient = "cyd@x.io" ∧ sent.admin.schoolId = "s1" ∧
        sent.mail.acceptUrl = linkFor .plain cydToken := by
    decide
  have fresh : (bothInvited.filterMap drawnToken).Nodup := by decide
  obtain ⟨token, carries, -, admits⟩ := mailed_links_admit_the_addressee bothInvited fresh mailed
  obtain rfl : cydToken = token := (String.append_right_inj _).mp (link.symm.trans carries)
  rw [recipient, school] at admits
  have named : (accept (Outside.quiet "u1").draw cydToken "Cyd" db).map
      (fun accepted => accepted.1.name) = .ok "Cyd" := by decide
  obtain ⟨⟨account, next⟩, accepted, name⟩ := map_ok.mp named
  exact ⟨⟨account, next, accepted, name, admits _ _ account next accepted⟩, admits⟩

end TutorApp
