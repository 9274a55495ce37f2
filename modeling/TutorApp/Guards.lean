import TutorApp.Capabilities
import TutorApp.Footprints
import TutorApp.Founders
import TutorApp.Noninterference

set_option autoImplicit false

namespace TutorApp

open Relational
open TenantOwnership

/-- What `@Roles` and `@RequiresAddon` put on a handler. -/
structure Metadata where
  roles : List UserRole
  requiredAddon : Option AddonKey

/-- The guard behind `@Roles`, which is the session library's, as far as the application's own
tests pin it down. -/
structure RolesGuard where
  canActivate : List UserRole → Option User → Service Unit
  unrestricted : ∀ user, canActivate [] (some user) = .ok ()
  restricted : ∀ roles user, roles ≠ [] →
    (canActivate roles (some user) = .ok () ↔ user.role ∈ roles)
  forbids : ∀ roles user reason, canActivate roles user = .error reason →
    ∃ message, reason = .forbidden message

def AddonsService.has (user : User) (addon : AddonKey) (db : Db) : Bool :=
  (resolveFor user db).contains addon

/-- Runs after the JWT guard, which supplies the user. -/
def AddonGuard.canActivate (required : Option AddonKey) (user : Option User) (db : Db) :
    Service Unit :=
  match required with
  | none => .ok ()
  | some required => require (user.any fun user => AddonsService.has user required db)
      (.forbidden "This capability is not enabled for your account")

def Query.metadata : Query → Metadata
  | subjectUsage _ => ⟨[.admin], none⟩
  | listInvitations => ⟨[], some .inviteTutors⟩
  | _ => ⟨[], none⟩

def Command.metadata : Command → Metadata
  | createSubject _ | renameSubject _ _ | hideSubject _ | restoreSubject _ => ⟨[.admin], none⟩
  | createStudent _ | updateStudent _ _ | removeStudent _ => ⟨[], some .manageStudents⟩
  | createGroup _ | updateGroup _ _ | removeGroup _ => ⟨[], some .manageStudents⟩
  | addMember _ _ | removeMember _ _ => ⟨[], some .manageStudents⟩
  | setAddons _ _ | updateSchool _ | createTutor _ => ⟨[.admin], none⟩
  | invite _ | revokeInvitation _ => ⟨[], some .inviteTutors⟩
  | _ => ⟨[], none⟩

def Request.metadata : Request → Metadata
  | .query _ asked => asked.metadata
  | .command _ asked => asked.metadata
  | .anonymous _ => ⟨[], none⟩

/-- Whom the token of a request names. -/
def Request.caller : Request → Option Id
  | .query userId _ => some userId
  | .command userId _ => some userId
  | .anonymous _ => none

section

variable (guard : RolesGuard) (platform : Platform)

/-- The guards that run before a handler, the user being the JWT guard's. -/
def Metadata.activate (metadata : Metadata) (user : User) (db : Db) : Service Unit := do
  guard.canActivate metadata.roles (some user)
  AddonGuard.canActivate metadata.requiredAddon (some user) db

/-- A request from the outside: past its guards it is served, else nothing happens. -/
def Request.handle (outside : Outside) (request : Request) (world : World) : Outcome :=
  match request.caller with
  | none => request.serve platform outside world
  | some userId =>
      match world.db.users.find userId with
      | none => ⟨.error .unauthorized, world, []⟩
      | some user =>
          match request.metadata.activate guard user world.db with
          | .error reason => ⟨.error reason, world, []⟩
          | .ok () => request.serve platform outside world

/-- Requests handled one after the other. -/
def World.handling (requests : List (Outside × Request)) (world : World) : World :=
  requests.foldl (fun world asked => (asked.2.handle guard platform asked.1 world).world) world

end

/-- The guards' demands on a user. -/
structure Metadata.Clears (metadata : Metadata) (user : User) (db : Db) : Prop where
  role : metadata.roles = [] ∨ user.role ∈ metadata.roles
  addon : ∀ addon ∈ metadata.requiredAddon, addon ∈ AddonsService.resolveFor user db

theorem AddonGuard.canActivate_ok {required : Option AddonKey} {user : User} {db : Db} :
    canActivate required (some user) db = .ok () ↔
      ∀ addon ∈ required, addon ∈ AddonsService.resolveFor user db := by
  cases required with
  | none => simp [canActivate]
  | some addon => simp [canActivate, AddonsService.has]

section

variable {guard : RolesGuard} {platform : Platform} {outside : Outside} {world : World}
  {request : Request} {metadata : Metadata} {user : User} {db : Db}

theorem Metadata.activate_ok :
    metadata.activate guard user db = .ok () ↔ metadata.Clears user db := by
  have roles : guard.canActivate metadata.roles (some user) = .ok () ↔
      metadata.roles = [] ∨ user.role ∈ metadata.roles := by
    by_cases none : metadata.roles = []
    · rw [none]
      exact iff_of_true (guard.unrestricted user) (.inl rfl)
    · rw [guard.restricted _ _ none, or_iff_right none]
  rw [activate, bind_ok, exists_unit_ok, roles, AddonGuard.canActivate_ok]
  exact ⟨fun passed => ⟨passed.1, passed.2⟩, fun clears => ⟨clears.role, clears.addon⟩⟩

/-- A request is turned away and changes nothing, or its sender clears the guards and it is
served. -/
theorem Request.handle_cases :
    (∃ reason, request.handle guard platform outside world = ⟨.error reason, world, []⟩) ∨
      request.handle guard platform outside world = request.serve platform outside world ∧
        ∀ userId ∈ request.caller, ∃ user, world.db.users.find userId = some user ∧
          request.metadata.Clears user world.db := by
  unfold handle
  cases sender : request.caller with
  | none => exact .inr ⟨rfl, fun userId names => by cases names⟩
  | some userId =>
      dsimp only
      cases found : world.db.users.find userId with
      | none => exact .inl ⟨_, rfl⟩
      | some user =>
          dsimp only
          cases activated : request.metadata.activate guard user world.db with
          | error reason => exact .inl ⟨reason, rfl⟩
          | ok passed =>
              refine .inr ⟨rfl, fun other names => ⟨user, ?_, Metadata.activate_ok.mp activated⟩⟩
              rw [← Option.some.inj names]
              exact found

/-- Guarded runs lead nowhere the services alone do not. -/
theorem Reachable.handle (reachable : Reachable platform world) :
    Reachable platform (request.handle guard platform outside world).world := by
  rcases @Request.handle_cases guard platform outside world request
    with ⟨reason, refused⟩ | ⟨served, -⟩
  · rw [refused]
    exact reachable
  · rw [served]
    exact reachable.tail ⟨outside, request, rfl⟩

end

/-- An account without the settings its owner keeps. -/
def User.account (user : User) : User := { user with config := .null }

theorem User.of_account {left right : User} (same : left.account = right.account) :
    left.id = right.id ∧ left.email = right.email ∧ left.role = right.role ∧
      left.schoolId = right.schoolId :=
  ⟨(User.mk.inj same).1, (User.mk.inj same).2.1, (User.mk.inj same).2.2.2.2.1,
    (User.mk.inj same).2.2.2.2.2.1⟩

/-- A student without the lessons left, which the register counts. -/
def Student.entry (student : Student) : Student := { student with paidLessonsLeft := 0 }

/-- An invitation, accepted or not. -/
def Invitation.offer (invitation : Invitation) : Invitation := { invitation with acceptedAt := none }

namespace Db

/-- The school, its subjects and its grants are as they were, and whoever joined is a tutor. -/
structure GovernedAlike (schoolId : Id) (db next : Db) : Prop where
  school : (next.restrict schoolId).schools = (db.restrict schoolId).schools
  subjects : (next.restrict schoolId).subjects = (db.restrict schoolId).subjects
  grants : (next.restrict schoolId).addons = (db.restrict schoolId).addons
  accounts : ∃ joined, (next.restrict schoolId).users.rows.map User.account =
      (db.restrict schoolId).users.rows.map User.account ++ joined ∧
    ∀ account ∈ joined, account.role = .tutor

/-- The groups, who is in them and the students are as they were, but for the lessons left. -/
structure RosterAlike (schoolId : Id) (db next : Db) : Prop where
  groups : (next.restrict schoolId).groups = (db.restrict schoolId).groups
  members : (next.restrict schoolId).members = (db.restrict schoolId).members
  students : (next.restrict schoolId).students.rows.map Student.entry =
    (db.restrict schoolId).students.rows.map Student.entry

/-- The invitations are as they were, and whoever joined had one. -/
structure InvitedAlike (schoolId : Id) (db next : Db) : Prop where
  offers : (next.restrict schoolId).invitations.rows.map Invitation.offer =
    (db.restrict schoolId).invitations.rows.map Invitation.offer
  joined : ∀ user ∈ (next.restrict schoolId).users.rows,
    (∃ old ∈ (db.restrict schoolId).users.rows, old.account = user.account) ∨
      ∃ invitation ∈ (db.restrict schoolId).invitations.rows, invitation.email = user.email

variable {db next later : Db} {schoolId : Id}

theorem GovernedAlike.of_part (same : next.restrict schoolId = db.restrict schoolId) :
    db.GovernedAlike schoolId next := by
  refine ⟨by rw [same], by rw [same], by rw [same], [], ?_, fun _ none => absurd none ?_⟩
  · rw [same, List.append_nil]
  · exact List.not_mem_nil

theorem RosterAlike.of_part (same : next.restrict schoolId = db.restrict schoolId) :
    db.RosterAlike schoolId next :=
  ⟨by rw [same], by rw [same], by rw [same]⟩

theorem InvitedAlike.of_part (same : next.restrict schoolId = db.restrict schoolId) :
    db.InvitedAlike schoolId next := by
  refine ⟨by rw [same], fun user member => .inl ⟨user, ?_, rfl⟩⟩
  rw [← same]
  exact member

theorem GovernedAlike.trans (first : db.GovernedAlike schoolId next)
    (second : next.GovernedAlike schoolId later) : db.GovernedAlike schoolId later := by
  obtain ⟨early, added, tutors⟩ := first.accounts
  obtain ⟨late, added', tutors'⟩ := second.accounts
  refine ⟨second.school.trans first.school, second.subjects.trans first.subjects,
    second.grants.trans first.grants, early ++ late, ?_, fun account member => ?_⟩
  · rw [added', added, List.append_assoc]
  · exact (List.mem_append.mp member).elim (tutors account) (tutors' account)

theorem RosterAlike.trans (first : db.RosterAlike schoolId next)
    (second : next.RosterAlike schoolId later) : db.RosterAlike schoolId later :=
  ⟨second.groups.trans first.groups, second.members.trans first.members,
    second.students.trans first.students⟩

theorem InvitedAlike.trans (first : db.InvitedAlike schoolId next)
    (second : next.InvitedAlike schoolId later) : db.InvitedAlike schoolId later := by
  refine ⟨second.offers.trans first.offers, fun user member => ?_⟩
  rcases second.joined user member with ⟨old, there, same⟩ | ⟨invitation, sent, email⟩
  · rcases first.joined old there with ⟨older, here, same'⟩ | ⟨invitation, sent, email⟩
    · exact .inl ⟨older, here, same'.trans same⟩
    · exact .inr ⟨invitation, sent, email.trans (User.of_account same).2.1⟩
  · -- the same invitation was out before
    have listed : invitation.offer ∈ (db.restrict schoolId).invitations.rows.map
        Invitation.offer := first.offers ▸ List.mem_map_of_mem sent
    obtain ⟨old, there, same⟩ := List.mem_map.mp listed
    have address : old.offer.email = invitation.offer.email := congrArg Invitation.email same
    exact .inr ⟨old, there, address.trans email⟩

end Db

namespace Slot

variable {ρ κ : Type} [Keyed ρ κ] [DecidableEq κ] (slot : Slot ρ) {db next : Db} {schoolId : Id}

theorem part_rows (self : ∀ row, Ref.school (slot.column row) ∈ (slot.row row).refs)
    (tenanted : db.Tenanted) : (slot.get (db.restrict schoolId)).rows =
      (slot.get db).rows.filter fun row => slot.column row == schoolId := by
  rw [slot.get_restrict, Table.rows_restrict]
  apply List.filter_congr
  intro row member
  have belongs := Db.Tenanted.belongs_own tenanted _ ((slot.holds_get db row).mpr member) (self row)
  rw [Bool.eq_iff_iff, Db.belongsTo_iff, beq_iff_eq]
  constructor
  · intro other
    exact Ownership.belongs_unique belongs other
  · rintro rfl
    exact belongs

/-- What two states show alike of a whole table they show alike of every school's part. -/
theorem part_alike {β : Type} (shown : ρ → β) (home : β → Id)
    (self : ∀ row, Ref.school (slot.column row) ∈ (slot.row row).refs)
    (column : ∀ row, home (shown row) = slot.column row) (tenanted : db.Tenanted)
    (later : next.Tenanted)
    (alike : (slot.get next).rows.map shown = (slot.get db).rows.map shown) :
    (slot.get (next.restrict schoolId)).rows.map shown =
      (slot.get (db.restrict schoolId)).rows.map shown := by
  have part : ∀ {db : Db}, db.Tenanted → (slot.get (db.restrict schoolId)).rows.map shown =
      ((slot.get db).rows.map shown).filter fun value => home value == schoolId := by
    intro db tenanted
    rw [slot.part_rows self tenanted, List.filter_map]
    simp only [Function.comp_def, column]
  rw [part tenanted, part later, alike]

end Slot

section

variable {platform : Platform} {user : User} {outside : Outside} {world : World} {db next : Db}

theorem GradebookService.writeMarks_entries {lessonId : Id} {marks : List MarkAttendanceDto}
    (done : writeMarks lessonId marks db = .ok next) :
    next.students.rows.map Student.entry = db.students.rows.map Student.entry := by
  induction marks generalizing db with
  | nil => rw [← Except.ok.inj done]
  | cons mark rest ih =>
      obtain ⟨marked, first, others⟩ := writeMarks_cons_ok.mp done
      obtain ⟨settled, settles, upserted⟩ := writeMark_ok.mp first
      obtain ⟨_, rfl⟩ := Db.upsertAttendance_frame upserted
      refine (ih others).trans ?_
      unfold settle settleFrom at settles
      split at settles
      · obtain ⟨-, -, rfl⟩ := Db.addLessons_ok.mp settles
        apply Table.map_rows_update <;> exact fun _ => rfl
      · rw [← Except.ok.inj settles]

/-- Accounts are made by admins alone. -/
theorem Command.run_accounts {command : Command} (unrestricted : command.metadata.roles = []) :
    (command.run platform user outside world).world.db.users.rows.map User.account =
      world.db.users.rows.map User.account := by
  have writes := @run_only platform user outside world command
  cases command with
  | updateConfig input =>
      refine World.commit_keeps (fun db => db.users.rows.map User.account = _) rfl
        fun _ _ success => ?_
      obtain ⟨_, -, updated, -⟩ := UsersService.updateConfig_ok.mp success
      obtain ⟨users, changed, rfl⟩ := Db.updateUserConfig_ok.mp updated
      obtain ⟨-, rfl⟩ := updateRow_ok.mp changed
      apply Table.map_rows_update <;> exact fun _ => rfl
  | createTutor dto => cases unrestricted
  | _ =>
      have users := writes .users (by simp [footprint, studentCascade, groupCascade])
      exact congrArg (fun table : Table User => table.rows.map User.account) users

/-- Students come and go by the roster's own commands alone. -/
theorem Command.run_entries {command : Command}
    (other : command.metadata.requiredAddon ≠ some .manageStudents) :
    (command.run platform user outside world).world.db.students.rows.map Student.entry =
      world.db.students.rows.map Student.entry := by
  have writes := @run_only platform user outside world command
  cases command with
  | writeJournal lessonId dto =>
      refine World.commit_keeps (fun db => db.students.rows.map Student.entry = _) rfl
        fun _ _ success => ?_
      obtain ⟨_, _, -, -, -, -, marked, updated⟩ := GradebookService.writeJournal_accepted success
      obtain ⟨_, -, rfl⟩ := Db.updateLesson_ok.mp updated
      have kept := GradebookService.writeMarks_entries marked
      exact kept
  | createStudent _ | updateStudent _ _ | removeStudent _ => exact absurd rfl other
  | removeGroup _ => exact absurd rfl other
  | _ =>
      have students := writes .students (by simp [footprint])
      exact congrArg (fun table : Table Student => table.rows.map Student.entry) students

end

/-- What a handled request can do to a school that is there: nothing, run a command one of its
members is cleared for, take in a newcomer, or store a meeting connection. -/
inductive Handled (platform : Platform) (outside : Outside) (schoolId : Id) (world : World)
    (request : Request) (next : Db) : Prop where
  | apart (same : next.restrict schoolId = world.db.restrict schoolId)
  | run (user : User) (command : Command) (sender : request.caller = some user.id)
      (found : world.db.users.find user.id = some user) (own : user.schoolId = schoolId)
      (clears : command.metadata.Clears user world.db)
      (ran : next = (command.run platform user outside world).world.db)
  | joined (token name : String) (account : User)
      (accepted : InvitationsService.accept outside.draw token name world.db = .ok (account, next))
  | connected (writes : world.db.WritesOnly [.meetingAccounts] next)

section

variable {guard : RolesGuard} {platform : Platform} {outside : Outside} {world : World}
  {request : Request} {schoolId : Id} {db next : Db} {founders : List (Id × Id)}

theorem Request.handled (tenanted : world.db.Tenanted)
    (founded : (world.db.schools.find schoolId).isSome) :
    Handled platform outside schoolId world request
      (request.handle guard platform outside world).world.db := by
  rcases @handle_cases guard platform outside world request with ⟨_, refused⟩ | ⟨served, cleared⟩
  · rw [refused]
    exact .apart rfl
  rw [served]
  by_cases foreign : request.school platform outside world.db ≠ some schoolId
  · exact .apart (serve_apart tenanted foreign)
  rw [not_not] at foreign
  cases request with
  | query userId asked =>
      simp only [serve]
      split <;> exact .apart rfl
  | command userId asked =>
      obtain ⟨user, found, clears⟩ := cleared userId rfl
      obtain ⟨-, rfl⟩ := Table.find_eq_some.mp found
      refine .run user asked rfl found ?_ clears ?_
      · simp only [school, Db.schoolOfUser, Option.map_eq_some_iff] at foreign
        obtain ⟨_, there, own⟩ := foreign
        rw [found, Option.some.injEq] at there
        rw [there, own]
      · simp only [serve, found]
  | anonymous call =>
      cases call with
      | registerSchool dto =>
          -- the id of a registration is a new one
          rcases @registerSchool_run platform outside world dto with ⟨_, refused⟩ | ⟨_, _, made, -⟩
          · rw [serve, refused]
            exact .apart rfl
          · obtain ⟨-, -, _, created, -⟩ := SchoolsService.register_ok.mp made
            obtain ⟨-, _, inserted, -⟩ := Db.createSchool_ok.mp created
            have free := (Table.insert?_eq_some.mp inserted).1
            simp only [school, Option.some.injEq] at foreign
            rw [← foreign, show world.db.schools.find outside.draw.id = none from free] at founded
            cases founded
      | describeInvitation token => exact .apart rfl
      | acceptInvitation token name =>
          refine World.commit_keeps (Handled platform outside schoolId world _) (.apart rfl)
            fun account _ accepted => .joined token name account accepted
      | completeConnection provider code state =>
          simp only [serve, PublicCall.run]
          split
          · exact .apart rfl
          · exact .connected MeetingAccountsService.completeConnection_only

/-- A newcomer's account, and what becomes of the invitations. -/
theorem InvitationsService.accept_joins {draw : Draw} {token name : String} {account : User}
    (success : accept draw token name db = .ok (account, next)) :
    ∃ invitation ∈ db.invitations.rows, invitation.schoolId = account.schoolId ∧
      account.role = invitation.role ∧ account.email = invitation.email ∧
        next.users.rows = db.users.rows ++ [account] ∧
          next.invitations.rows.map Invitation.offer =
            db.invitations.rows.map Invitation.offer := by
  obtain ⟨invitation, usable, -, _, created, rfl, rfl⟩ := accept_ok.mp success
  obtain ⟨-, -, users, inserted, rfl⟩ := Db.createUser_ok.mp created
  refine ⟨invitation, findUsable_member usable, rfl, rfl, rfl,
    (Table.insert?_eq_some.mp inserted).2, ?_⟩
  apply Table.map_rows_update <;> exact fun _ => rfl

theorem Request.handle_confined (tenanted : world.db.Tenanted) : ∃ tenant,
    Db.Confined tenant world.db (request.handle guard platform outside world).world.db := by
  rcases @handle_cases guard platform outside world request with ⟨_, refused⟩ | ⟨served, cleared⟩
  · rw [refused]
    exact ⟨"", Ownership.Confined.refl _ _⟩
  rw [served]
  cases request with
  | query userId asked =>
      obtain ⟨user, found, -⟩ := cleared userId rfl
      exact ⟨user.schoolId, serve_confined tenanted found (.inl ⟨asked, rfl⟩)⟩
  | command userId asked =>
      obtain ⟨user, found, -⟩ := cleared userId rfl
      exact ⟨user.schoolId, serve_confined tenanted found (.inr ⟨asked, rfl⟩)⟩
  | anonymous call => exact PublicCall.run_confined tenanted call

theorem Command.ungoverned {command : Command} (unrestricted : command.metadata.roles = []) :
    .schools ∉ command.footprint ∧ .subjects ∉ command.footprint ∧ .addons ∉ command.footprint := by
  cases command <;> first
    | (cases unrestricted; done)
    | simp [footprint, studentCascade, groupCascade]

theorem Command.unrestricted {command : Command} {user : User}
    (clears : command.metadata.Clears user db) (other : user.role ≠ .admin) :
    command.metadata.roles = [] := by
  have roles : command.metadata.roles = [] ∨ command.metadata.roles = [.admin] := by
    cases command <;> first | exact .inl rfl | exact .inr rfl
  refine roles.resolve_right fun admins => ?_
  rcases clears.role with none | held
  · rw [admins] at none
    cases none
  · rw [admins, List.mem_singleton] at held
    exact other held

theorem Db.GovernedAlike.of_writes {tenant : Id} {footprint : List TableName}
    (confined : Db.Confined tenant db next) (writes : db.WritesOnly footprint next)
    (ungoverned : .schools ∉ footprint ∧ .subjects ∉ footprint ∧ .addons ∉ footprint)
    (accounts : ∃ joined, (next.restrict schoolId).users.rows.map User.account =
        (db.restrict schoolId).users.rows.map User.account ++ joined ∧
      ∀ account ∈ joined, account.role = .tutor) :
    db.GovernedAlike schoolId next where
  school := Slot.schools.same_part confined (writes .schools ungoverned.1)
  subjects := Slot.subjects.same_part confined (writes .subjects ungoverned.2.1)
  grants := Slot.addons.same_part confined (writes .addons ungoverned.2.2)
  accounts := accounts

theorem Db.users_part (tenanted : db.Tenanted) : (db.restrict schoolId).users.rows =
    db.users.rows.filter fun row => row.schoolId == schoolId :=
  Slot.users.part_rows (fun _ => List.mem_cons_self) tenanted

/-- The accounts of a school, when those of all are shown alike. -/
theorem Db.accounts_alike (tenanted : db.Tenanted) (later : next.Tenanted)
    (alike : next.users.rows.map User.account = db.users.rows.map User.account) :
    (next.restrict schoolId).users.rows.map User.account =
      (db.restrict schoolId).users.rows.map User.account :=
  Slot.users.part_alike User.account User.schoolId (fun _ => List.mem_cons_self) (fun _ => rfl)
    tenanted later alike

theorem Request.handle_governed (tenanted : world.db.Tenanted)
    (administered : world.db.Administered founders)
    (founded : (world.db.schools.find schoolId).isSome)
    (tutors : ∀ user ∈ world.db.users.rows, request.caller = some user.id →
      user.schoolId = schoolId → user.role ≠ .admin) :
    world.db.GovernedAlike schoolId (request.handle guard platform outside world).world.db := by
  obtain ⟨tenant, confined⟩ := @handle_confined guard platform outside world request tenanted
  have later := confined.sound tenanted
  have handled := @handled guard platform outside world request schoolId tenanted founded
  revert later confined handled
  generalize (request.handle guard platform outside world).world.db = next
  intro confined later handled
  cases handled with
  | apart same => exact .of_part same
  | run user command sender found own clears ran =>
      have open_ := Command.unrestricted clears
        (tutors user (Table.find_eq_some.mp found).1 sender own)
      refine .of_writes confined (ran ▸ command.run_only) (Command.ungoverned open_)
        ⟨[], ?_, fun _ none => absurd none List.not_mem_nil⟩
      rw [List.append_nil]
      exact Db.accounts_alike tenanted later (ran ▸ Command.run_accounts open_)
  | joined token name account accepted =>
      refine .of_writes confined (InvitationsService.accept_only accepted) (by decide) ?_
      obtain ⟨invitation, sent, -, role, -, users, -⟩ := InvitationsService.accept_joins accepted
      refine ⟨([account].filter fun row => row.schoolId == schoolId).map User.account, ?_, ?_⟩
      · rw [← List.map_append]
        rw [Db.users_part tenanted, Db.users_part later, users, List.filter_append]
      · intro shown member
        obtain ⟨row, listed, rfl⟩ := List.mem_map.mp member
        rw [List.mem_singleton.mp (List.mem_filter.mp listed).1]
        exact role.trans (administered.invited invitation sent)
  | connected writes =>
      refine .of_writes confined writes (by decide)
        ⟨[], ?_, fun _ none => absurd none List.not_mem_nil⟩
      rw [List.append_nil, show (next.restrict schoolId).users = (world.db.restrict schoolId).users
        from Slot.users.same_part confined (writes .users (by decide))]

theorem Command.off_roster {command : Command}
    (other : command.metadata.requiredAddon ≠ some .manageStudents) :
    .groups ∉ command.footprint ∧ .members ∉ command.footprint := by
  cases command <;> first
    | exact absurd rfl other
    | simp [footprint]

theorem Command.uninviting {command : Command}
    (other : command.metadata.requiredAddon ≠ some .inviteTutors) :
    .invitations ∉ command.footprint := by
  cases command <;> first
    | exact absurd rfl other
    | simp [footprint, studentCascade, groupCascade]

theorem Command.without {command : Command} {user : User} {addon : AddonKey}
    (clears : command.metadata.Clears user db)
    (lacks : addon ∉ AddonsService.resolveFor user db) :
    command.metadata.requiredAddon ≠ some addon :=
  fun required => lacks (clears.addon addon required)

theorem Db.RosterAlike.of_writes {tenant : Id} {footprint : List TableName}
    (confined : Db.Confined tenant db next) (tenanted : db.Tenanted)
    (writes : db.WritesOnly footprint next) (off : .groups ∉ footprint ∧ .members ∉ footprint)
    (entries : next.students.rows.map Student.entry = db.students.rows.map Student.entry) :
    db.RosterAlike schoolId next where
  groups := Slot.groups.same_part confined (writes .groups off.1)
  members := Slot.members.same_part confined (writes .members off.2)
  students := Slot.students.part_alike Student.entry Student.schoolId
    (fun _ => List.mem_cons_self) (fun _ => rfl) tenanted (confined.sound tenanted) entries

theorem Request.handle_roster (tenanted : world.db.Tenanted)
    (founded : (world.db.schools.find schoolId).isSome)
    (lacks : ∀ user ∈ world.db.users.rows, request.caller = some user.id →
      user.schoolId = schoolId → .manageStudents ∉ AddonsService.resolveFor user world.db) :
    world.db.RosterAlike schoolId (request.handle guard platform outside world).world.db := by
  obtain ⟨tenant, confined⟩ := @handle_confined guard platform outside world request tenanted
  have handled := @handled guard platform outside world request schoolId tenanted founded
  revert confined handled
  generalize (request.handle guard platform outside world).world.db = next
  intro confined handled
  cases handled with
  | apart same => exact .of_part same
  | run user command sender found own clears ran =>
      have other := Command.without clears
        (lacks user (Table.find_eq_some.mp found).1 sender own)
      exact .of_writes confined tenanted (ran ▸ command.run_only) (Command.off_roster other)
        (ran ▸ Command.run_entries other)
  | joined token name account accepted =>
      have writes := InvitationsService.accept_only accepted
      refine .of_writes confined tenanted writes (by decide) ?_
      exact congrArg (fun table : Table Student => table.rows.map Student.entry)
        (writes .students (by decide))
  | connected writes =>
      refine .of_writes confined tenanted writes (by decide) ?_
      exact congrArg (fun table : Table Student => table.rows.map Student.entry)
        (writes .students (by decide))

/-- Nobody joined whose account was not there. -/
theorem Db.joined_of_accounts
    (accounts : (next.restrict schoolId).users.rows.map User.account =
      (db.restrict schoolId).users.rows.map User.account) :
    ∀ user ∈ (next.restrict schoolId).users.rows,
      (∃ old ∈ (db.restrict schoolId).users.rows, old.account = user.account) ∨
        ∃ invitation ∈ (db.restrict schoolId).invitations.rows, invitation.email = user.email := by
  intro user member
  have listed : user.account ∈ (db.restrict schoolId).users.rows.map User.account :=
    accounts ▸ List.mem_map_of_mem member
  obtain ⟨old, there, same⟩ := List.mem_map.mp listed
  exact .inl ⟨old, there, same⟩

theorem Request.handle_invited (tenanted : world.db.Tenanted)
    (founded : (world.db.schools.find schoolId).isSome)
    (tutors : ∀ user ∈ world.db.users.rows, request.caller = some user.id →
      user.schoolId = schoolId → user.role ≠ .admin)
    (lacks : ∀ user ∈ world.db.users.rows, request.caller = some user.id →
      user.schoolId = schoolId → .inviteTutors ∉ AddonsService.resolveFor user world.db) :
    world.db.InvitedAlike schoolId (request.handle guard platform outside world).world.db := by
  obtain ⟨tenant, confined⟩ := @handle_confined guard platform outside world request tenanted
  have later := confined.sound tenanted
  have handled := @handled guard platform outside world request schoolId tenanted founded
  revert later confined handled
  generalize (request.handle guard platform outside world).world.db = next
  intro confined later handled
  have same_offers : next.invitations = world.db.invitations →
      (next.restrict schoolId).invitations.rows.map Invitation.offer =
        (world.db.restrict schoolId).invitations.rows.map Invitation.offer := fun same => by
    rw [show (next.restrict schoolId).invitations = (world.db.restrict schoolId).invitations
      from Slot.invitations.same_part confined same]
  cases handled with
  | apart same => exact .of_part same
  | run user command sender found own clears ran =>
      have member := (Table.find_eq_some.mp found).1
      have writes : world.db.WritesOnly command.footprint next := ran ▸ command.run_only
      have other := Command.without clears (lacks user member sender own)
      have open_ := Command.unrestricted clears (tutors user member sender own)
      refine ⟨same_offers (writes .invitations (Command.uninviting other)), ?_⟩
      exact Db.joined_of_accounts
        (Db.accounts_alike tenanted later (ran ▸ Command.run_accounts open_))
  | joined token name account accepted =>
      obtain ⟨invitation, sent, home, -, email, users, offers⟩ :=
        InvitationsService.accept_joins accepted
      refine ⟨Slot.invitations.part_alike Invitation.offer Invitation.schoolId
        (fun _ => List.mem_cons_self) (fun _ => rfl) tenanted later offers, ?_⟩
      intro user member
      rw [Db.users_part later, users, List.filter_append, List.mem_append,
        ← Db.users_part tenanted] at member
      rcases member with old | new
      · exact .inl ⟨user, old, rfl⟩
      · obtain ⟨rfl, own⟩ := List.mem_filter.mp new |>.imp_left List.mem_singleton.mp
        refine .inr ⟨invitation, ?_, email.symm⟩
        rw [show (world.db.restrict schoolId).invitations.rows =
            world.db.invitations.rows.filter fun row => row.schoolId == schoolId
          from Slot.invitations.part_rows (fun _ => List.mem_cons_self) tenanted]
        exact List.mem_filter.mpr ⟨sent, home ▸ own⟩
  | connected writes =>
      refine ⟨same_offers (writes .invitations (by decide)), Db.joined_of_accounts ?_⟩
      exact Db.accounts_alike tenanted later
        (congrArg (fun table : Table User => table.rows.map User.account)
          (writes .users (by decide)))

theorem Db.mem_users_part (tenanted : db.Tenanted) {user : User} :
    user ∈ (db.restrict schoolId).users.rows ↔
      user ∈ db.users.rows ∧ user.schoolId = schoolId := by
  rw [users_part tenanted, List.mem_filter, beq_iff_eq]

/-- Grants to members of a school are among the school's rows. -/
theorem Db.grants_part (tenanted : db.Tenanted) {user : User} {addon : AddonKey}
    (member : user ∈ (db.restrict schoolId).users.rows) : db.grants user.id addon = true ↔
      ∃ row ∈ (db.restrict schoolId).addons.rows, row.userId = user.id ∧ row.addon = addon := by
  obtain ⟨present, rfl⟩ := (mem_users_part tenanted).mp member
  have home : db.home (.user user.id) = some user.schoolId :=
    home_of_find Slot.users (.user user.id) rfl (Table.find_key present)
  rw [grants_iff]
  constructor
  · rintro ⟨row, listed, his, same⟩
    refine ⟨row, Table.mem_restrict.mpr ⟨listed, belongsTo_iff.mpr ?_⟩, his, same⟩
    refine tenanted.belongs_via (.addon row) listed List.mem_cons_self ?_
    rw [his]
    exact home
  · rintro ⟨row, listed, his, same⟩
    exact ⟨row, (Table.mem_restrict.mp listed).1, his, same⟩

/-- A member has the capabilities he had, or is a newcomer with none. -/
theorem Db.GovernedAlike.member (alike : db.GovernedAlike schoolId next) (tenanted : db.Tenanted)
    (later : next.Tenanted) {user : User} (present : user ∈ next.users.rows)
    (own : user.schoolId = schoolId) :
    (∃ old ∈ db.users.rows, old.account = user.account ∧ ∀ addon,
      addon ∈ AddonsService.resolveFor user next ↔ addon ∈ AddonsService.resolveFor old db) ∨
      user.role = .tutor ∧ ∀ addon, addon ∉ AddonsService.resolveFor user next := by
  have member := (mem_users_part later).mpr ⟨present, own⟩
  obtain ⟨joined, accounts, tutors⟩ := alike.accounts
  by_cases known : ∃ old ∈ (db.restrict schoolId).users.rows, old.id = user.id
  · obtain ⟨old, there, id⟩ := known
    have kept : old.account ∈ (next.restrict schoolId).users.rows.map User.account :=
      accounts ▸ List.mem_append_left _ (List.mem_map_of_mem there)
    obtain ⟨again, listed, shown⟩ := List.mem_map.mp kept
    obtain ⟨kept, -, role, -⟩ := User.of_account shown
    obtain rfl : again = user := Table.key_injective listed member (kept.trans id)
    refine .inl ⟨old, ((mem_users_part tenanted).mp there).1, shown.symm, fun addon => ?_⟩
    rw [AddonsService.mem_resolveFor, AddonsService.mem_resolveFor, User.isAdmin, role,
      grants_part later member, grants_part tenanted there, alike.grants, id]
    rfl
  · have added : user.account ∈ joined := by
      have listed : user.account ∈ (next.restrict schoolId).users.rows.map User.account :=
        List.mem_map_of_mem member
      rw [accounts] at listed
      refine (List.mem_append.mp listed).resolve_left fun old => ?_
      obtain ⟨row, there, shown⟩ := List.mem_map.mp old
      exact known ⟨row, there, (User.of_account shown).1⟩
    have tutor : user.account.role = .tutor := tutors _ added
    change user.role = .tutor at tutor
    refine .inr ⟨tutor, fun addon held => ?_⟩
    rw [AddonsService.mem_resolveFor, grants_part later member, alike.grants] at held
    rcases held with admin | ⟨row, listed, his, -⟩
    · rw [User.isAdmin, tutor] at admin
      cases admin
    · -- whoever a grant is to was there when it was made
      refine known ?_
      have belongs := belongsTo_iff.mp (Table.mem_restrict.mp listed).2
      have home := (belongs_addon.mp belongs).1
      obtain ⟨old, found, school⟩ := Option.map_eq_some_iff.mp home
      obtain ⟨there, id⟩ := Table.find_eq_some.mp found
      exact ⟨old, (mem_users_part tenanted).mpr ⟨there, school⟩, id.trans his⟩

/-- A member of the school sends one of the requests. -/
def Db.Sends (db : Db) (schoolId : Id) (requests : List (Outside × Request)) (user : User) : Prop :=
  user ∈ db.users.rows ∧ user.schoolId = schoolId ∧
    ∃ asked ∈ requests, asked.2.caller = some user.id

/-- No sender among the members is an admin, and none has one of the capabilities. -/
structure Db.Powerless (db : Db) (schoolId : Id) (requests : List (Outside × Request))
    (addons : List AddonKey) : Prop where
  tutors : ∀ user, db.Sends schoolId requests user → user.role ≠ .admin
  lacks : ∀ user, db.Sends schoolId requests user → ∀ addon ∈ addons,
    addon ∉ AddonsService.resolveFor user db

variable {addons : List AddonKey} {requests : List (Outside × Request)} {asked : Outside × Request}

theorem Db.Powerless.later (powerless : db.Powerless schoolId (asked :: requests) addons)
    (tenanted : db.Tenanted) (sound : next.Tenanted) (alike : db.GovernedAlike schoolId next) :
    next.Powerless schoolId requests addons := by
  have sender : ∀ {old user : User}, old ∈ db.users.rows → old.account = user.account →
      next.Sends schoolId requests user → db.Sends schoolId (asked :: requests) old := by
    rintro old user there shown ⟨-, own, sent, listed, names⟩
    obtain ⟨id, -, -, home⟩ := User.of_account shown
    exact ⟨there, home.trans own, sent, List.mem_cons_of_mem _ listed, id ▸ names⟩
  constructor
  · intro user sends
    rcases alike.member tenanted sound sends.1 sends.2.1 with ⟨old, there, shown, -⟩ | ⟨tutor, -⟩
    · obtain ⟨-, -, role, -⟩ := User.of_account shown
      exact role ▸ powerless.tutors old (sender there shown sends)
    · rw [tutor]
      decide
  · intro user sends addon listed
    rcases alike.member tenanted sound sends.1 sends.2.1 with ⟨old, there, shown, same⟩ | ⟨-, none⟩
    · rw [same]
      exact powerless.lacks old (sender there shown sends) addon listed
    · exact none addon

theorem Reachable.administered (reachable : Reachable platform world) :
    ∃ founders, world.db.Administered founders := by
  induction reachable with
  | refl => exact ⟨[], Db.administered_empty⟩
  | tail _ step ih =>
      obtain ⟨founders, kept⟩ := ih
      obtain ⟨outside, request, rfl⟩ := step
      exact ⟨_, (Request.serve_administered kept).1⟩

/-- A school that governs itself alike is still there. -/
theorem Db.GovernedAlike.founded (alike : db.GovernedAlike schoolId next)
    (founded : (db.schools.find schoolId).isSome) : (next.schools.find schoolId).isSome := by
  obtain ⟨school, found⟩ := Option.isSome_iff_exists.mp founded
  obtain ⟨listed, id⟩ := Table.find_eq_some.mp found
  have part : school ∈ (db.restrict schoolId).schools.rows := by
    refine Table.mem_restrict.mpr ⟨listed, belongsTo_iff.mpr (belongs_school.mpr ?_)⟩
    exact home_school.mpr ⟨id, by rw [hasSchool, show school.id = schoolId from id, founded]⟩
  rw [← alike.school] at part
  rw [← id, Table.find_key (Table.mem_restrict.mp part).1]
  rfl

theorem Request.handle_powerless (reachable : Reachable platform world)
    (founded : (world.db.schools.find schoolId).isSome)
    (powerless : world.db.Powerless schoolId (asked :: requests) addons) :
    world.db.GovernedAlike schoolId (asked.2.handle guard platform asked.1 world).world.db := by
  obtain ⟨founders, administered⟩ := reachable.administered
  exact handle_governed reachable.tenanted administered founded fun user there sender own =>
    powerless.tutors user ⟨there, own, asked, List.mem_cons_self, sender⟩

theorem Reachable.handling (reachable : Reachable platform world) :
    Reachable platform (world.handling guard platform requests) := by
  induction requests generalizing world with
  | nil => exact reachable
  | cons asked rest ih => exact ih reachable.handle

/-- What every request of powerless senders preserves, a run of them preserves. -/
theorem World.handling_preserves {alike : Db → Db → Prop} (refl : ∀ db, alike db db)
    (trans : ∀ {first second third}, alike first second → alike second third → alike first third)
    (step : ∀ {world : World} {asked : Outside × Request} {requests}, Reachable platform world →
      (world.db.schools.find schoolId).isSome →
      world.db.Powerless schoolId (asked :: requests) addons →
      alike world.db (asked.2.handle guard platform asked.1 world).world.db)
    (reachable : Reachable platform world) (founded : (world.db.schools.find schoolId).isSome)
    (powerless : world.db.Powerless schoolId requests addons) :
    alike world.db (world.handling guard platform requests).db := by
  induction requests generalizing world with
  | nil => exact refl world.db
  | cons asked rest ih =>
      have first : world.db.GovernedAlike schoolId
          (asked.2.handle guard platform asked.1 world).world.db :=
        Request.handle_powerless reachable founded powerless
      have next : Reachable platform (asked.2.handle guard platform asked.1 world).world :=
        reachable.handle
      exact trans (step reachable founded powerless) (ih next (first.founded founded)
        (powerless.later reachable.tenanted next.tenanted first))

/-- Whatever the members of a school who are no admins ask for, and whoever else asks for
anything, the school, its subjects and its capabilities stay: nobody has one he did not have.
Those who may not manage students leave the roster alone, and those who may not invite bring
in nobody who was not invited. -/
theorem privileges_do_not_spread (guard : RolesGuard) (reachable : Reachable platform world)
    (founded : (world.db.schools.find schoolId).isSome) (requests : List (Outside × Request))
    (tutors : ∀ user, world.db.Sends schoolId requests user → user.role ≠ .admin) :
    world.db.GovernedAlike schoolId (world.handling guard platform requests).db ∧
      (∀ member ∈ (world.handling guard platform requests).db.users.rows,
        member.schoolId = schoolId → ∀ addon ∈ AddonsService.resolveFor member
          (world.handling guard platform requests).db,
          ∃ old ∈ world.db.users.rows, old.account = member.account ∧
            addon ∈ AddonsService.resolveFor old world.db) ∧
      ((∀ user, world.db.Sends schoolId requests user →
          .manageStudents ∉ AddonsService.resolveFor user world.db) →
        world.db.RosterAlike schoolId (world.handling guard platform requests).db) ∧
      ((∀ user, world.db.Sends schoolId requests user →
          .inviteTutors ∉ AddonsService.resolveFor user world.db) →
        world.db.InvitedAlike schoolId (world.handling guard platform requests).db) := by
  have governed : world.db.GovernedAlike schoolId (world.handling guard platform requests).db :=
    World.handling_preserves (fun _ => .of_part rfl) .trans Request.handle_powerless reachable
      founded ⟨tutors, fun _ _ _ none => absurd none List.not_mem_nil⟩
  refine ⟨governed, fun member present own addon held => ?_, fun lacks => ?_, fun lacks => ?_⟩
  · have after : Reachable platform (world.handling guard platform requests) := reachable.handling
    rcases governed.member reachable.tenanted after.tenanted present own
      with ⟨old, there, shown, same⟩ | ⟨-, none⟩
    · exact ⟨old, there, shown, (same addon).mp held⟩
    · exact absurd held (none addon)
  · refine World.handling_preserves (fun _ => .of_part rfl) .trans ?_ reachable founded
      ⟨tutors, fun user sends addon listed => List.mem_singleton.mp listed ▸ lacks user sends⟩
    intro world asked requests reachable founded powerless
    exact Request.handle_roster reachable.tenanted founded fun user there sender own =>
      powerless.lacks user ⟨there, own, asked, List.mem_cons_self, sender⟩ _
        (List.mem_singleton_self _)
  · refine World.handling_preserves (fun _ => .of_part rfl) .trans ?_ reachable founded
      ⟨tutors, fun user sends addon listed => List.mem_singleton.mp listed ▸ lacks user sends⟩
    intro world asked requests reachable founded powerless
    have sends : ∀ user ∈ world.db.users.rows, asked.2.caller = some user.id →
        user.schoolId = schoolId → world.db.Sends schoolId (asked :: requests) user :=
      fun user there sender own => ⟨there, own, asked, List.mem_cons_self, sender⟩
    exact Request.handle_invited reachable.tenanted founded
      (fun user there sender own => powerless.tutors user (sends user there sender own))
      fun user there sender own => powerless.lacks user (sends user there sender own) _
        (List.mem_singleton_self _)

end

/-- The library's rule, in its own words. -/
def RolesGuard.plain : RolesGuard where
  canActivate roles user :=
    require (roles.isEmpty || user.any fun user => roles.contains user.role)
      (.forbidden "Forbidden resource")
  unrestricted _ := rfl
  restricted roles user named := by
    cases roles with
    | nil => exact absurd rfl named
    | cons first rest => simp
  forbids roles user reason refused := by
    unfold require at refused
    split at refused
    · cases refused
    · exact ⟨_, (Except.error.inj refused).symm⟩

/-- A tutor asks for every capability, for a student and for a colleague, and gets none. -/
theorem tom_gains_nothing :
    let world := World.empty.after .plain
      [foxSchool, (.quiet "t1", .command "a1" (.createTutor ⟨"Tom", "tom@x.io"⟩))]
    let requests : List (Outside × Request) :=
      [(.quiet "", .command "t1" (.setAddons "t1" AddonKey.values)), enrol "t1" "k1" "Kim",
        (.quiet "i1", .command "t1" (.invite "cyd@x.io"))]
    world.db.GovernedAlike "s1" (world.handling .plain .plain requests).db ∧
      world.db.RosterAlike "s1" (world.handling .plain .plain requests).db ∧
      world.db.InvitedAlike "s1" (world.handling .plain .plain requests).db := by
  intro world requests
  have reached : Reachable .plain world := .after .plain .refl _
  have sender : ∀ user, world.db.Sends "s1" requests user →
      user.role ≠ .admin ∧ AddonsService.resolveFor user world.db = [] := by
    rintro user ⟨present, -, asked, listed, names⟩
    have named : user.id = "t1" := by
      have every : ∀ asked ∈ requests, asked.2.caller = some "t1" := by decide
      exact Option.some.inj (names.symm.trans (every asked listed))
    have all : ∀ user ∈ world.db.users.rows, user.id = "t1" →
        user.role ≠ .admin ∧ AddonsService.resolveFor user world.db = [] := by decide
    exact all user present named
  obtain ⟨governed, -, roster, invited⟩ := privileges_do_not_spread .plain reached (by decide)
    requests fun user sends => (sender user sends).1
  refine ⟨governed, roster fun user sends => ?_, invited fun user sends => ?_⟩
  · rw [(sender user sends).2]
    exact List.not_mem_nil
  · rw [(sender user sends).2]
    exact List.not_mem_nil

end TutorApp
