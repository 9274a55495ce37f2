import TutorApp.Writes
import TutorApp.InvitationRedemption

set_option autoImplicit false

namespace TutorApp

open Relational
open ReadCommitted (Turn Discipline)

/-- Schools and their admins, given which account each registration made for which school. -/
structure Db.Administered (db : Db) (founders : List (Id × Id)) : Prop where
  slugs : ∀ left ∈ db.schools.rows, ∀ right ∈ db.schools.rows, left.slug = right.slug → left = right
  emails : ∀ left ∈ db.users.rows, ∀ right ∈ db.users.rows, left.email = right.email → left = right
  housed : ∀ user ∈ db.users.rows, (db.schools.find user.schoolId).isSome
  founded : ∀ school ∈ db.schools.rows, ∃ account, (school.id, account) ∈ founders
  admins : ∀ user ∈ db.users.rows, user.role = .admin ↔ (user.schoolId, user.id) ∈ founders
  present : ∀ entry ∈ founders, ∃ user ∈ db.users.rows, user.id = entry.2 ∧ user.schoolId = entry.1
  single : ∀ left ∈ founders, ∀ right ∈ founders, left.1 = right.1 → left = right
  invited : ∀ row ∈ db.invitations.rows, row.role = .tutor

/-- Every account is still there, in its role and at its school. -/
def Db.KeepsUsers (db next : Db) : Prop :=
  ∀ user ∈ db.users.rows, ∃ later ∈ next.users.rows,
    later.id = user.id ∧ later.role = user.role ∧ later.schoolId = user.schoolId

namespace Db

variable {db next later : Db} {founders : List (Id × Id)} {school : School} {admin : User}

theorem administered_empty : Db.empty.Administered [] := by
  constructor <;> exact fun _ member => absurd member List.not_mem_nil

theorem KeepsUsers.same (users : next.users = db.users) : db.KeepsUsers next :=
  fun user member => ⟨user, users ▸ member, rfl, rfl, rfl⟩

theorem KeepsUsers.trans (first : db.KeepsUsers next) (second : next.KeepsUsers later) :
    db.KeepsUsers later := by
  intro user member
  obtain ⟨between, listed, id, role, home⟩ := first user member
  obtain ⟨last, kept, id', role', home'⟩ := second between listed
  exact ⟨last, kept, id'.trans id, role'.trans role, home'.trans home⟩

/-- Where schools, accounts and invitations are what they were. -/
theorem Administered.same (kept : db.Administered founders) (schools : next.schools = db.schools)
    (users : next.users = db.users) (invitations : next.invitations = db.invitations) :
    next.Administered founders := by
  obtain ⟨slugs, emails, housed, founded, admins, present, single, invited⟩ := kept
  constructor
  · rwa [schools]
  · rwa [users]
  · rwa [users, schools]
  · rwa [schools]
  · rwa [users]
  · rwa [users]
  · exact single
  · rwa [invitations]

/-- What it needs, and what it leaves. -/
theorem Founds.rows (founds : db.Founds next school admin) :
    ∃ schools users, db.schools.insert? school = some schools ∧
      (∀ other ∈ db.schools.rows, other.slug ≠ school.slug) ∧
      db.users.insert? admin = some users ∧ (∀ other ∈ db.users.rows, other.email ≠ admin.email) ∧
      next = { db with schools, users } := by
  obtain ⟨-, -, founded, created, joined⟩ := founds
  obtain ⟨slugs, schools, inserted, rfl⟩ := createSchool_ok.mp created
  obtain ⟨-, emails, users, enlisted, rfl⟩ := createUser_ok.mp joined
  exact ⟨schools, users, inserted, slugs, enlisted, emails, rfl⟩

theorem Founds.administered (founds : db.Founds next school admin)
    (kept : db.Administered founders) :
    next.Administered (founders ++ [(school.id, admin.id)]) := by
  obtain ⟨schools, users, inserted, slugs, enlisted, emails, rfl⟩ := founds.rows
  have newSchool : db.schools.find school.id = none := (Table.insert?_eq_some.mp inserted).1
  have newAccount : db.users.find admin.id = none := (Table.insert?_eq_some.mp enlisted).1
  -- whoever registered before did so for another school, and as somebody else
  have elsewhere : ∀ entry ∈ founders, entry.1 ≠ school.id ∧ entry.2 ≠ admin.id := by
    intro entry member
    obtain ⟨user, listed, id, home⟩ := kept.present entry member
    refine ⟨fun same => ?_, fun same => ?_⟩
    · have there := kept.housed user listed
      rw [home, same, newSchool] at there
      cases there
    · exact Table.find_eq_none.mp newAccount user listed (id.trans same)
  refine ⟨?_, ?_, ?_, ?_, ?_, ?_, ?_, kept.invited⟩
  · exact Table.insert_unique School.slug inserted slugs kept.slugs
  · exact Table.insert_unique User.email enlisted emails kept.emails
  · intro user member
    rcases (Table.mem_insert enlisted).mp member with old | rfl
    · obtain ⟨home, found⟩ := Option.isSome_iff_exists.mp (kept.housed user old)
      rw [Table.find_after_insert inserted found, Option.isSome_some]
    · have found : schools.find school.id = some school :=
        Table.find_key ((Table.mem_insert inserted).mpr (.inr rfl))
      show (schools.find user.schoolId).isSome
      rw [founds.home, found, Option.isSome_some]
  · intro other member
    rcases (Table.mem_insert inserted).mp member with old | rfl
    · obtain ⟨account, entry⟩ := kept.founded other old
      exact ⟨account, List.mem_append_left _ entry⟩
    · exact ⟨admin.id, List.mem_append_right _ (List.mem_singleton_self _)⟩
  · intro user member
    rw [List.mem_append, List.mem_singleton]
    rcases (Table.mem_insert enlisted).mp member with old | rfl
    · rw [kept.admins user old]
      refine ⟨.inl, fun listed => listed.resolve_right fun same => ?_⟩
      exact Table.find_eq_none.mp newAccount user old (Prod.mk.inj same).2
    · rw [founds.home]
      exact ⟨fun _ => .inr rfl, fun _ => founds.role⟩
  · intro entry member
    rcases List.mem_append.mp member with old | new
    · obtain ⟨user, listed, is⟩ := kept.present entry old
      exact ⟨user, (Table.mem_insert enlisted).mpr (.inl listed), is⟩
    · obtain rfl := List.mem_singleton.mp new
      exact ⟨admin, (Table.mem_insert enlisted).mpr (.inr rfl), rfl, founds.home⟩
  · intro left first right second same
    rcases List.mem_append.mp first with old | new
    · rcases List.mem_append.mp second with other | new
      · exact kept.single left old right other same
      · obtain rfl := List.mem_singleton.mp new
        exact absurd same (elsewhere left old).1
    · obtain rfl := List.mem_singleton.mp new
      rcases List.mem_append.mp second with other | new
      · exact absurd same.symm (elsewhere right other).1
      · exact (List.mem_singleton.mp new).symm

theorem Founds.keepsUsers (founds : db.Founds next school admin) : db.KeepsUsers next := by
  obtain ⟨schools, users, -, -, enlisted, -, rfl⟩ := founds.rows
  exact fun user member => ⟨user, (Table.mem_insert enlisted).mpr (.inl member), rfl, rfl, rfl⟩

theorem isSome_find_updateRow {ρ : Type} [Keyed ρ Id] {table next : Table ρ} {k : Id}
    {change : ρ → ρ} {keeps : ∀ row, key (change row) = key row}
    (done : updateRow table k change keeps = .ok next) (other : Id) :
    (next.find other).isSome = (table.find other).isSome := by
  obtain ⟨-, rfl⟩ := updateRow_ok.mp done
  rw [Table.find_update, Option.isSome_map]

theorem Administered.updateSchool {id : Id} {name timezone : Option String}
    (kept : db.Administered founders) (done : db.updateSchool id name timezone = .ok next) :
    next.Administered founders := by
  obtain ⟨schools, updated, rfl⟩ := Db.updateSchool_ok.mp done
  -- an edited school is under its id and slug as before
  have was : ∀ row ∈ schools.rows,
      ∃ old ∈ db.schools.rows, old.id = row.id ∧ old.slug = row.slug := by
    intro row member
    rcases of_mem_updateRow updated member with old | ⟨old, present, -, rfl⟩
    · exact ⟨row, old, rfl, rfl⟩
    · exact ⟨old, present, rfl, rfl⟩
  refine ⟨?_, kept.emails, ?_, ?_, kept.admins, kept.present, kept.single, kept.invited⟩
  · intro left first right second same
    obtain ⟨before, present, id, slug⟩ := was left first
    obtain ⟨other, listed, id', slug'⟩ := was right second
    have one := kept.slugs before present other listed (slug.trans (same.trans slug'.symm))
    refine Table.key_injective first second ?_
    show left.id = right.id
    rw [← id, ← id', one]
  · intro user member
    exact (isSome_find_updateRow updated user.schoolId).trans (kept.housed user member)
  · intro row member
    obtain ⟨old, present, id, -⟩ := was row member
    rw [← id]
    exact kept.founded old present

theorem Administered.enlist {row : User} (kept : db.Administered founders)
    (role : row.role = .tutor) (done : db.createUser row = .ok next) :
    next.Administered founders ∧ db.KeepsUsers next := by
  obtain ⟨house, emails, users, enlisted, rfl⟩ := createUser_ok.mp done
  have newAccount : db.users.find row.id = none := (Table.insert?_eq_some.mp enlisted).1
  refine ⟨⟨kept.slugs, ?_, ?_, kept.founded, ?_, ?_, kept.single, kept.invited⟩, ?_⟩
  · exact Table.insert_unique User.email enlisted emails kept.emails
  · intro user member
    rcases (Table.mem_insert enlisted).mp member with old | rfl
    · exact kept.housed user old
    · exact house
  · intro user member
    rcases (Table.mem_insert enlisted).mp member with old | rfl
    · exact kept.admins user old
    · -- nobody registered under an id that was free
      rw [role]
      refine ⟨fun same => (by cases same), fun listed => ?_⟩
      obtain ⟨other, present, id, -⟩ := kept.present _ listed
      exact absurd id (Table.find_eq_none.mp newAccount other present)
  · intro entry member
    obtain ⟨user, listed, is⟩ := kept.present entry member
    exact ⟨user, (Table.mem_insert enlisted).mpr (.inl listed), is⟩
  · exact fun user member => ⟨user, (Table.mem_insert enlisted).mpr (.inl member), rfl, rfl, rfl⟩

theorem Administered.configure {id : Id} {config : Js.Json} (kept : db.Administered founders)
    (done : db.updateUserConfig id config = .ok next) :
    next.Administered founders ∧ db.KeepsUsers next := by
  obtain ⟨users, updated, rfl⟩ := updateUserConfig_ok.mp done
  obtain ⟨-, rfl⟩ := updateRow_ok.mp updated
  -- an account with another configuration is the same account
  have was : ∀ row ∈ (db.users.update (fun row => decide (key row = id))
      (fun row => { row with config }) fun _ => rfl).rows, ∃ old ∈ db.users.rows,
        old.id = row.id ∧ old.email = row.email ∧ old.role = row.role ∧
          old.schoolId = row.schoolId := by
    intro row member
    rcases Table.of_mem_update member with old | ⟨old, present, -, rfl⟩
    · exact ⟨row, old, rfl, rfl, rfl, rfl⟩
    · exact ⟨old, present, rfl, rfl, rfl, rfl⟩
  have is : ∀ old ∈ db.users.rows, ∃ row ∈ (db.users.update (fun row => decide (key row = id))
      (fun row => { row with config }) fun _ => rfl).rows,
        row.id = old.id ∧ row.role = old.role ∧ row.schoolId = old.schoolId := by
    intro old present
    refine ⟨_, List.mem_map_of_mem present, ?_⟩
    split <;> exact ⟨rfl, rfl, rfl⟩
  refine ⟨⟨kept.slugs, ?_, ?_, kept.founded, ?_, ?_, kept.single, kept.invited⟩, is⟩
  · intro left first right second same
    obtain ⟨before, present, id, email, -⟩ := was left first
    obtain ⟨other, listed, id', email', -⟩ := was right second
    have one := kept.emails before present other listed (email.trans (same.trans email'.symm))
    refine Table.key_injective first second ?_
    show left.id = right.id
    rw [← id, ← id', one]
  · intro user member
    obtain ⟨old, present, -, -, -, home⟩ := was user member
    rw [← home]
    exact kept.housed old present
  · intro user member
    obtain ⟨old, present, id, -, role, home⟩ := was user member
    rw [← id, ← role, ← home]
    exact kept.admins old present
  · intro entry member
    obtain ⟨old, present, id, home⟩ := kept.present entry member
    obtain ⟨row, listed, id', -, home'⟩ := is old present
    exact ⟨row, listed, id'.trans id, home'.trans home⟩

theorem Administered.invite {row : Invitation} (kept : db.Administered founders)
    (role : row.role = .tutor) (done : db.upsertInvitation row = .ok next) :
    next.Administered founders ∧ next.users = db.users := by
  obtain ⟨-, -, stored⟩ := upsertInvitation_ok.mp done
  split at stored
  · obtain rfl := stored
    refine ⟨⟨kept.slugs, kept.emails, kept.housed, kept.founded, kept.admins, kept.present,
      kept.single, fun other member => ?_⟩, rfl⟩
    have listed : other ∈ (db.invitations.update _ (renewed row) (key_renewed row)).rows := member
    rcases Table.of_mem_update listed with old | ⟨old, present, -, rfl⟩
    · exact kept.invited other old
    · exact kept.invited old present
  · obtain ⟨invitations, inserted, rfl⟩ := stored
    refine ⟨⟨kept.slugs, kept.emails, kept.housed, kept.founded, kept.admins, kept.present,
      kept.single, fun other member => ?_⟩, rfl⟩
    rcases (Table.mem_insert inserted).mp member with old | rfl
    · exact kept.invited other old
    · exact role

theorem deleteStudent_accounts {id : Id} (done : db.deleteStudent id = .ok next) :
    next.schools = db.schools ∧ next.users = db.users ∧ next.invitations = db.invitations := by
  obtain ⟨-, rfl⟩ := deleteStudent_ok.mp done
  exact ⟨rfl, rfl, rfl⟩

theorem deleteGroup_accounts {id : Id} (done : db.deleteGroup id = .ok next) :
    next.schools = db.schools ∧ next.users = db.users ∧ next.invitations = db.invitations := by
  obtain ⟨-, rfl⟩ := deleteGroup_ok.mp done
  exact ⟨rfl, rfl, rfl⟩

/-- No other request makes an admin, or moves anybody. -/
theorem Write.administered (write : db.Write next) (kept : db.Administered founders) :
    next.Administered founders ∧ db.KeepsUsers next := by
  have aside : ∀ {next : Db}, next.schools = db.schools → next.users = db.users →
      next.invitations = db.invitations → next.Administered founders ∧ db.KeepsUsers next :=
    fun schools users invitations => ⟨kept.same schools users invitations, .same users⟩
  cases write with
  | aside => exact aside rfl rfl rfl
  | updateSchool id name timezone done =>
      refine ⟨kept.updateSchool done, ?_⟩
      obtain ⟨schools, -, rfl⟩ := Db.updateSchool_ok.mp done
      exact .same rfl
  | enlist row role done =>
      refine kept.enlist ?_ done
      rcases role with tutor | ⟨invitation, listed, same⟩
      · exact tutor
      · exact same.trans (kept.invited invitation listed)
  | configure id config done => exact kept.configure done
  | invite row role done =>
      obtain ⟨still, users⟩ := kept.invite role done
      exact ⟨still, .same users⟩
  | respond roles =>
      refine ⟨⟨kept.slugs, kept.emails, kept.housed, kept.founded, kept.admins, kept.present,
        kept.single, fun row member => ?_⟩, .same rfl⟩
      obtain ⟨old, present, same⟩ := roles row member
      exact same.symm.trans (kept.invited old present)
  | deleteStudent id done =>
      obtain ⟨schools, users, invitations⟩ := deleteStudent_accounts done
      exact aside schools users invitations
  | deleteGroup id done =>
      obtain ⟨schools, users, invitations⟩ := deleteGroup_accounts done
      exact aside schools users invitations
  | book row one done =>
      obtain ⟨-, lessons, -, rfl⟩ := createLesson_ok.mp done
      exact aside rfl rfl rfl
  | updateLesson id patch done =>
      obtain ⟨lessons, -, rfl⟩ := Db.updateLesson_ok.mp done
      exact aside rfl rfl rfl
  | note row one done =>
      obtain ⟨-, notes, -, rfl⟩ := createNote_ok.mp done
      exact aside rfl rfl rfl
  | deleteNote id done =>
      obtain ⟨notes, -, rfl⟩ := Db.deleteNote_ok.mp done
      exact aside rfl rfl rfl
  | grade row fits done =>
      obtain ⟨-, grades, -, rfl⟩ := createGrade_ok.mp done
      exact aside rfl rfl rfl
  | updateGrade id data done =>
      obtain ⟨grades, -, rfl⟩ := Db.updateGrade_ok.mp done
      exact aside rfl rfl rfl
  | deleteGrade id done =>
      obtain ⟨grades, -, rfl⟩ := Db.deleteGrade_ok.mp done
      exact aside rfl rfl rfl
  | file row placed done =>
      obtain ⟨-, -, -, files, -, rfl⟩ := createFile_ok.mp done
      exact aside rfl rfl rfl
  | finaliseFile id storageKey uploadedAt done =>
      obtain ⟨-, files, -, rfl⟩ := Db.finaliseFile_ok.mp done
      exact aside rfl rfl rfl
  | deleteFile id done =>
      obtain ⟨files, -, rfl⟩ := Db.deleteFile_ok.mp done
      exact aside rfl rfl rfl

theorem Writes.administered (writes : db.Writes next) (kept : db.Administered founders) :
    next.Administered founders ∧ db.KeepsUsers next := by
  induction writes with
  | refl => exact ⟨kept, .same rfl⟩
  | tail _ write ih =>
      obtain ⟨between, first⟩ := ih
      obtain ⟨still, second⟩ := write.administered between
      exact ⟨still, first.trans second⟩

end Db

/-- Whether a row is under a key. -/
def RegistryKey.Taken (db : Db) : RegistryKey → Prop
  | .invitation id => (db.invitations.find id).isSome
  | .token text => ∃ row ∈ db.invitations.rows, row.token = text
  | .address schoolId text =>
      ∃ row ∈ db.invitations.rows, row.schoolId = schoolId ∧ row.email = text
  | .school id => (db.schools.find id).isSome
  | .slug text => ∃ row ∈ db.schools.rows, row.slug = text
  | .user id => (db.users.find id).isSome
  | .email text => ∃ row ∈ db.users.rows, row.email = text

/-- What a transaction that makes a school and an account makes for the record. -/
def foundings : List RegistryWrite → List (Id × Id)
  | [.insertSchool school, .insertUser account _] => [(school.id, account.id)]
  | _ => []

/-- The same for a request that registers a school. -/
def Request.founds (outside : Outside) (result : Service Response) : Request → List (Id × Id)
  | .anonymous (.registerSchool _) =>
      match result with
      | .ok _ => [(outside.draw.id, outside.draw.secondId)]
      | .error _ => []
  | _ => []

/-- Calls of `SchoolsService.register` under way, and for the record what the registrations that
went through have made. -/
structure Foundings (τ : Type) where
  sessions : RegistryState τ
  disk : Disk
  founders : List (Id × Id)

namespace Foundings

variable {τ : Type}

def db (state : Foundings τ) : Db := state.sessions.committed.db

def world (state : Foundings τ) : World := ⟨state.db, state.disk⟩

def start (calls : τ → Draw × RegisterSchoolDto) : Foundings τ :=
  ⟨.start ⟨.empty, []⟩ fun t => .registering (calls t).1 (calls t).2, World.empty.disk, []⟩

/-- What a request leaves of the database, with the registrations where they were. -/
def served (state : Foundings τ) (outcome : Outcome) (founded : List (Id × Id)) : Foundings τ :=
  ⟨⟨⟨outcome.world.db, state.sessions.committed.admissions⟩, state.sessions.sessions⟩,
    outcome.world.disk, state.founders ++ founded⟩

end Foundings

section

variable {platform : Platform} {τ : Type} [DecidableEq τ]

/-- A statement of a registration or its end without one, its commit, or any other request from
beginning to end. A request that needs a key which a registration has written waits for it. -/
inductive FoundingStep (platform : Platform) (state : Foundings τ) : Foundings τ → Prop where
  | session {t : τ} {sessions : RegistryState τ}
      (step : ReadCommitted.Step (registry platform) t state.sessions sessions)
      (uncommitted : sessions.committed = state.sessions.committed) :
      FoundingStep platform state { state with sessions }
  | commit {t : τ} {here : Errand} (standing : (state.sessions.sessions t).here = some here)
      (turn : (registry platform).turn here (state.sessions.view (registry platform) t) = .commit) :
      FoundingStep platform state { state with
        sessions := ReadCommitted.State.put
          ⟨state.sessions.view (registry platform) t, state.sessions.sessions⟩ t ⟨none, []⟩
        founders := state.founders ++ foundings (state.sessions.sessions t).pending }
  | serve (outside : Outside) (request : Request)
      (clear : ∀ t, ∀ write ∈ (state.sessions.sessions t).pending, ∀ k ∈ write.locks,
        k.Taken (request.serve platform outside state.world).world.db → k.Taken state.db) :
      FoundingStep platform state (state.served (request.serve platform outside state.world)
        (request.founds outside (request.serve platform outside state.world).result))

def FoundingRun (platform : Platform) : Foundings τ → Foundings τ → Prop :=
  Relation.ReflTransGen (FoundingStep platform)

/-- What a registration relies on between its statements: what it has written is under keys that
were free and stay so. -/
def Errand.Registering (reg : Registry) (here : Errand) (pending : List RegistryWrite) : Prop :=
  (∀ write ∈ pending, ∀ k ∈ write.locks, ¬ k.Taken reg.db) ∧
    match here with
    | .registering _ _ | .slugging _ _ => pending = []
    | .founding school account =>
        account.role = .admin ∧ account.schoolId = school.id ∧ pending = []
    | .joining account => ∃ school, account.role = .admin ∧ account.schoolId = school.id ∧
        pending = [.insertSchool school]
    | .joined => ∃ school account, account.role = .admin ∧ account.schoolId = school.id ∧
        pending = [.insertSchool school, .insertUser account none]
    | _ => False

variable {reg : Registry} {here next : Errand} {pending writes : List RegistryWrite}

theorem insertSchool_free {db : Db} {school : School} :
    (∀ k ∈ (RegistryWrite.insertSchool school).locks, ¬ k.Taken db) ↔
      db.schools.find school.id = none ∧ ∀ row ∈ db.schools.rows, row.slug ≠ school.slug := by
  simp [RegistryWrite.locks, RegistryKey.Taken]

theorem insertUser_free {db : Db} {account : User} :
    (∀ k ∈ (RegistryWrite.insertUser account none).locks, ¬ k.Taken db) ↔
      db.users.find account.id = none ∧ ∀ row ∈ db.users.rows, row.email ≠ account.email := by
  simp [RegistryWrite.locks, RegistryKey.Taken]

theorem createSchool_free {db founded : Db} {school : School}
    (done : db.createSchool school = .ok founded) :
    db.schools.find school.id = none ∧ ∀ row ∈ db.schools.rows, row.slug ≠ school.slug := by
  obtain ⟨slugs, schools, inserted, -⟩ := Db.createSchool_ok.mp done
  exact ⟨(Table.insert?_eq_some.mp inserted).1, slugs⟩

theorem createUser_free {db joined : Db} {account : User}
    (done : db.createUser account = .ok joined) :
    db.users.find account.id = none ∧ ∀ row ∈ db.users.rows, row.email ≠ account.email := by
  obtain ⟨-, emails, users, inserted, -⟩ := Db.createUser_ok.mp done
  exact ⟨(Table.insert?_eq_some.mp inserted).1, emails⟩

theorem Errand.Registering.statement (held : here.Registering reg pending)
    (turn : here.turn platform ((registry platform).applyAll pending reg) = .write writes next) :
    next.Registering reg (pending ++ writes) := by
  obtain ⟨free, shape⟩ := held
  cases here with
  | registering draw dto =>
      obtain rfl := shape
      obtain ⟨rfl, rfl⟩ := stopIf_write turn
      exact ⟨free, rfl⟩
  | slugging draw dto =>
      obtain rfl := shape
      obtain ⟨rfl, rfl⟩ := stopIf_write turn
      exact ⟨free, rfl, rfl, rfl⟩
  | founding school account =>
      obtain ⟨role, home, rfl⟩ := shape
      obtain ⟨founded, created, rfl, rfl⟩ := onceDone_write.mp turn
      refine ⟨fun write member => ?_, school, role, home, rfl⟩
      obtain rfl := List.mem_singleton.mp member
      exact insertSchool_free.mpr (createSchool_free created)
  | joining account =>
      obtain ⟨school, role, home, rfl⟩ := shape
      obtain ⟨joined, created, rfl, rfl⟩ := onceDone_write.mp turn
      refine ⟨fun write member => ?_, school, account, role, home, rfl⟩
      rcases List.mem_cons.mp member with rfl | last
      · exact free _ List.mem_cons_self
      · -- the school of the same transaction takes no key of an account
        obtain rfl := List.mem_singleton.mp last
        have unclaimed := createUser_free created
        exact insertUser_free.mpr unclaimed
  | joined => cases turn
  | _ => exact shape.elim

/-- Only a registration with both its rows commits, and then it founds the school. -/
theorem Errand.Registering.founds (held : here.Registering reg pending)
    (turn : here.turn platform ((registry platform).applyAll pending reg) = .commit) :
    here = .joined ∧ ∃ school account, pending = [.insertSchool school, .insertUser account none] ∧
      reg.db.Founds ((registry platform).applyAll pending reg).db school account := by
  obtain ⟨free, shape⟩ := held
  rcases Errand.turn_commit turn with ⟨admission, rfl⟩ | rfl | rfl | rfl
  · exact shape.elim
  · exact shape.elim
  · exact shape.elim
  · obtain ⟨school, account, role, home, rfl⟩ := shape
    obtain ⟨newSchool, slugs⟩ := insertSchool_free.mp (free _ List.mem_cons_self)
    obtain ⟨newAccount, emails⟩ := insertUser_free.mp
      (free _ (List.mem_cons_of_mem _ (List.mem_singleton_self _)))
    obtain ⟨schools, inserted⟩ := Table.exists_insert newSchool
    obtain ⟨users, enlisted⟩ := Table.exists_insert newAccount
    have created : reg.db.createSchool school = .ok { reg.db with schools } :=
      Db.createSchool_ok.mpr ⟨slugs, schools, inserted, rfl⟩
    have found : schools.find school.id = some school :=
      Table.find_key ((Table.mem_insert inserted).mpr (.inr rfl))
    have housed : (schools.find account.schoolId).isSome := by
      rw [home, found, Option.isSome_some]
    have joined : Db.createUser account { reg.db with schools } =
        .ok { reg.db with schools, users } :=
      Db.createUser_ok.mpr ⟨housed, emails, users, enlisted, rfl⟩
    have both : ((registry platform).applyAll
        [.insertSchool school, .insertUser account none] reg).db =
        { reg.db with schools, users } := by
      show (RegistryWrite.insertUser account none).change
        ((RegistryWrite.insertSchool school).change reg.db) = _
      simp only [RegistryWrite.change, inserted, enlisted, Option.getD_some]
    refine ⟨rfl, school, account, rfl, role, home, { reg.db with schools }, created, ?_⟩
    rw [both]
    exact joined

/-- Another registration's rows are under keys of their own. -/
theorem Errand.Registering.stable {there : Errand} {others : List RegistryWrite}
    (held : here.Registering reg pending)
    (turn : here.turn platform ((registry platform).applyAll pending reg) = .commit)
    (apart : ∀ other ∈ others, ∀ write ∈ pending, ∀ k ∈ other.locks, k ∉ write.locks)
    (kept : there.Registering reg others) :
    there.Registering ((registry platform).applyAll pending reg) others := by
  refine ⟨fun other member k locked taken => ?_, kept.2⟩
  obtain ⟨-, school, account, rfl, founds⟩ := held.founds turn
  obtain ⟨schools, users, inserted, -, enlisted, -, both⟩ := founds.rows
  have notSchool := apart other member _ List.mem_cons_self k locked
  have notAccount := apart other member _
    (List.mem_cons_of_mem _ (List.mem_singleton_self _)) k locked
  refine kept.1 other member k locked ?_
  rw [both] at taken
  cases k with
  | invitation | token | address => exact taken
  | school id =>
      rw [RegistryKey.Taken, Table.find_of_insert inserted] at taken
      split at taken
      · rename_i same
        exact absurd (by rw [← same]; exact List.mem_cons_self) notSchool
      · exact taken
  | slug text =>
      obtain ⟨row, listed, same⟩ := taken
      rcases (Table.mem_insert inserted).mp listed with old | rfl
      · exact ⟨row, old, same⟩
      · exact absurd (by rw [← same]; exact List.mem_cons_of_mem _ (List.mem_singleton_self _)) notSchool
  | user id =>
      rw [RegistryKey.Taken, Table.find_of_insert enlisted] at taken
      split at taken
      · rename_i same
        exact absurd (by rw [← same]; exact List.mem_cons_self) notAccount
      · exact taken
  | email text =>
      obtain ⟨row, listed, same⟩ := taken
      rcases (Table.mem_insert enlisted).mp listed with old | rfl
      · exact ⟨row, old, same⟩
      · exact absurd (by rw [← same]; exact List.mem_cons_of_mem _ (List.mem_singleton_self _)) notAccount

theorem registering_discipline (platform : Platform) :
    Discipline (registry platform) (fun _ _ => True) (fun _ => True)
      fun reg here pending => here.Registering reg pending where
  statement _ _ _ _ _ _ held turn := held.statement turn
  commit _ _ _ _ _ _ := trivial
  stable _ _ _ _ _ _ held turn _ apart kept := held.stable turn apart kept

/-- What every step of a run preserves. -/
structure Foundings.Kept (platform : Platform) (state : Foundings τ) : Prop where
  sessions : state.sessions.Disciplined (registry platform) (fun _ => True) Errand.Registering
  administered : state.db.Administered state.founders

omit [DecidableEq τ] in
theorem Foundings.start_kept (calls : τ → Draw × RegisterSchoolDto) :
    (Foundings.start calls).Kept platform where
  sessions := ReadCommitted.State.start_disciplined trivial fun _ =>
    ⟨fun _ member => absurd member List.not_mem_nil, rfl⟩
  administered := Db.administered_empty

theorem Request.Ordinary.founds {outside : Outside} {result : Service Response} {request : Request}
    (ordinary : request.Ordinary) : request.founds outside result = [] := by
  cases request with
  | query | command => rfl
  | anonymous call =>
      cases call with
      | registerSchool dto => exact absurd rfl (ordinary dto)
      | _ => rfl

/-- A request that registers a school makes the entry; no other makes one. -/
theorem Request.serve_administered {outside : Outside} {world : World} {request : Request}
    {founders : List (Id × Id)} (kept : world.db.Administered founders) :
    (request.serve platform outside world).world.db.Administered
        (founders ++ request.founds outside (request.serve platform outside world).result) ∧
      world.db.KeepsUsers (request.serve platform outside world).world.db := by
  rcases request.registers_or_ordinary with ⟨dto, rfl⟩ | ordinary
  · rw [Request.serve]
    rcases registerSchool_run dto with ⟨reason, refused⟩ | ⟨admin, next, registered, made⟩
    · rw [refused, show founds outside (.error reason) (.anonymous (.registerSchool dto)) = [] from rfl,
        List.append_nil]
      exact ⟨kept, .same rfl⟩
    · obtain ⟨school, itsId, itsAccount, founds⟩ := SchoolsService.register_founds registered
      rw [made]
      show next.Administered (founders ++ [(outside.draw.id, outside.draw.secondId)]) ∧ _
      rw [← itsId, ← itsAccount]
      exact ⟨founds.administered kept, founds.keepsUsers⟩
  · rw [ordinary.founds, List.append_nil]
    exact (Request.serve_writes ordinary).administered kept

theorem FoundingStep.kept {state after : Foundings τ} (step : FoundingStep platform state after)
    (kept : state.Kept platform) : after.Kept platform ∧ state.db.KeepsUsers after.db := by
  cases step with
  | session step uncommitted =>
      have sessions := Discipline.step (registering_discipline platform) kept.sessions step
        fun _ _ _ _ _ => trivial
      refine ⟨⟨sessions, ?_⟩, .same ?_⟩
      · show Db.Administered (Registry.db _) _
        rw [uncommitted]
        exact kept.administered
      · show (Registry.db _).users = _
        rw [uncommitted]
        rfl
  | @commit t here standing turn =>
      have held := kept.sessions.holds t here standing
      obtain ⟨-, school, account, written, founds⟩ := held.founds turn
      have sessions := Discipline.step (registering_discipline platform) kept.sessions
        (.commit standing turn) fun _ _ _ _ _ => trivial
      refine ⟨⟨sessions, ?_⟩, founds.keepsUsers⟩
      show Db.Administered _ (state.founders ++ foundings _)
      rw [written]
      exact founds.administered kept.administered
  | serve outside request clear =>
      obtain ⟨administered, users⟩ :=
        @Request.serve_administered platform outside state.world request _ kept.administered
      refine ⟨⟨⟨kept.sessions.exclusive, trivial, fun t here standing => ?_⟩, administered⟩, users⟩
      obtain ⟨free, shape⟩ := kept.sessions.holds t here standing
      refine ⟨fun write member k locked taken => ?_, shape⟩
      exact free write member k locked (clear t write member k locked taken)

theorem FoundingRun.kept {calls : τ → Draw × RegisterSchoolDto} {state : Foundings τ}
    (run : FoundingRun platform (.start calls) state) : state.Kept platform := by
  induction run with
  | refl => exact Foundings.start_kept calls
  | tail _ step ih => exact (step.kept ih).1

/-- Administrators come from registration only, however registrations for one slug or address
interleave with each other and with everything else. -/
theorem administrators_from_registration {calls : τ → Draw × RegisterSchoolDto}
    {state : Foundings τ} (run : FoundingRun platform (.start calls) state) :
    (∀ school ∈ state.db.schools.rows, ∃ account, (school.id, account) ∈ state.founders ∧
      (∃ admin ∈ state.db.users.rows, admin.id = account ∧ admin.schoolId = school.id) ∧
      ∀ user ∈ state.db.users.rows, user.schoolId = school.id →
        (user.role = .admin ↔ user.id = account)) ∧
    (∀ user ∈ state.db.users.rows, user.role = .admin →
      (user.schoolId, user.id) ∈ state.founders) ∧
    (∀ left ∈ state.db.schools.rows, ∀ right ∈ state.db.schools.rows,
      left.slug = right.slug → left = right) ∧
    (∀ left ∈ state.db.users.rows, ∀ right ∈ state.db.users.rows,
      left.email = right.email → left = right) ∧
    (∀ next, FoundingStep platform state next → ∀ user ∈ state.db.users.rows,
      ∃ later ∈ next.db.users.rows,
        later.id = user.id ∧ later.role = user.role ∧ later.schoolId = user.schoolId) ∧
    (∀ t sessions, ReadCommitted.Step (registry platform) t state.sessions sessions →
      sessions.committed.db = state.db ∨
        (state.sessions.sessions t).here = some .joined ∧
          ∃ school account, state.db.Founds sessions.committed.db school account) ∧
    ∀ outside dto reason,
      ((PublicCall.registerSchool dto).run platform outside state.world).result = .error reason →
        ((PublicCall.registerSchool dto).run platform outside state.world).world = state.world := by
  have kept := run.kept
  have administered := kept.administered
  refine ⟨?_, ?_, administered.slugs, administered.emails, ?_, ?_, ?_⟩
  · intro school listed
    obtain ⟨account, entry⟩ := administered.founded school listed
    obtain ⟨admin, present, id, home⟩ := administered.present _ entry
    refine ⟨account, entry, ⟨admin, present, id, home⟩, fun user member house => ?_⟩
    rw [administered.admins user member, house]
    constructor
    · intro other
      exact (Prod.mk.inj (administered.single _ other _ entry rfl)).2
    · rintro rfl
      exact entry
  · exact fun user member role => (administered.admins user member).mp role
  · exact fun next step => (step.kept kept).2
  · intro t sessions step
    cases step with
    | statement | abort => exact .inl rfl
    | commit standing turn =>
        obtain ⟨rfl, school, account, -, founds⟩ := (kept.sessions.holds t _ standing).founds turn
        exact .inr ⟨standing, school, account, founds⟩
  · intro outside dto reason refused
    rcases @registerSchool_run platform outside state.world dto
      with ⟨other, run⟩ | ⟨admin, next, -, run⟩
    · rw [run]
    · rw [run] at refused
      cases refused

/-- An interleaving of registrations alone is such a run. -/
theorem FoundingRun.of_run {state : Foundings τ} {sessions : RegistryState τ}
    (run : ReadCommitted.Run (registry platform) (fun _ _ => True) state.sessions sessions) :
    ∃ founders, FoundingRun platform state ⟨sessions, state.disk, founders⟩ := by
  induction run with
  | refl => exact ⟨state.founders, .refl⟩
  | tail _ step ih =>
      obtain ⟨founders, run⟩ := ih
      obtain ⟨t, moved, -⟩ := step
      cases moved with
      | statement standing turn free =>
          exact ⟨founders, run.tail (.session (.statement standing turn free) rfl)⟩
      | commit standing turn => exact ⟨_, run.tail (.commit standing turn)⟩
      | abort standing => exact ⟨founders, run.tail (.session (.abort standing) rfl)⟩

end

/-- The second one draws other ids. -/
def twoFoxes : Bool → Draw × RegisterSchoolDto
  | true => ((Outside.quiet "s1" "a1").draw, ⟨"Fox", .given "fox", .absent, "Ann", "ann@x.io"⟩)
  | false => ((Outside.quiet "s2" "a2").draw, ⟨"Fox", .given "fox", .absent, "Bob", "bob@x.io"⟩)

/-- Both find the slug free; one school comes of it, with one admin. -/
theorem twoFoxes_one_admin : ∃ state, FoundingRun .plain (.start twoFoxes) state ∧
    (state.db.schools.rows.map School.id) = ["s1"] ∧
    (state.db.users.rows.map User.id) = ["a1"] ∧ ("s1", "a1") ∈ state.founders := by
  have carried : ((Foundings.start twoFoxes).sessions.schedule (registry .plain) (fun _ _ => true)
      [true, false, true, false, true, true, true]).any (fun sessions => decide (
        (sessions.committed.db.schools.rows.map School.id) = ["s1"] ∧
        (sessions.committed.db.users.rows.map User.id) = ["a1"])) = true := by
    decide +kernel
  obtain ⟨sessions, scheduled, ended⟩ := (Option.any_eq_true _ _).mp carried
  obtain ⟨schools, users⟩ := of_decide_eq_true ended
  obtain ⟨founders, run⟩ := FoundingRun.of_run
    (ReadCommitted.State.schedule_run (fun _ _ _ => trivial) scheduled)
  obtain ⟨founded, -⟩ := administrators_from_registration run
  obtain ⟨school, listed, named⟩ := List.mem_map.mp
    (schools ▸ List.mem_singleton_self "s1" : "s1" ∈ sessions.committed.db.schools.rows.map School.id)
  obtain ⟨account, entry, ⟨admin, present, id, -⟩, -⟩ := founded school listed
  have one : admin.id ∈ sessions.committed.db.users.rows.map User.id := List.mem_map_of_mem present
  rw [users, List.mem_singleton] at one
  refine ⟨_, run, schools, users, ?_⟩
  rwa [named, ← id, one] at entry

end TutorApp
