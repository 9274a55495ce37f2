import TutorApp.System
import TutorApp.CheckThenAct

set_option autoImplicit false

namespace TutorApp

open Relational

/-- What a caller asks of the list of subjects. -/
inductive Naming where
  | create (draw : Draw) (name : String)
  | rename (id : Id) (name : String)
  deriving Repr, DecidableEq

/-- Where a creation or a renaming stands, between two of its statements, and how it ended. -/
inductive NamingPhase where
  | asked (user : User) (naming : Naming)
  | found (user : User) (subject : Subject) (name : String)
  | inserting (row : Subject)
  | updating (subject : Subject) (name : String)
  | named (subject : Subject)
  | refused (reason : HttpError)
  deriving DecidableEq

namespace NamingPhase

open SubjectsService

/-- The next statement of a call, and the database after it. -/
def next (platform : Platform) (db : Db) : NamingPhase → NamingPhase × Db
  | .asked user (.create draw name) =>
      match findByName platform user.schoolId (Js.trim name) db with
      | some existing => (.refused (nameConflict existing), db)
      | none => (.inserting ⟨draw.id, Js.trim name, none, user.schoolId⟩, db)
  | .asked user (.rename id name) =>
      match findOne user id db with
      | .ok subject => (.found user subject (Js.trim name), db)
      | .error reason => (.refused reason, db)
  | .found user subject name =>
      match (findByName platform user.schoolId name db).filter fun row => row.id != subject.id with
      | some clash => (.refused (nameConflict clash), db)
      | none => (.updating subject name, db)
  | .inserting row =>
      match db.createSubject row with
      | .ok next => (.named row, next)
      | .error reason => (.refused reason, db)
  | .updating subject name =>
      match db.renameSubject subject.id name with
      | .ok next => (.named { subject with name }, next)
      | .error reason => (.refused reason, db)
  | ended => (ended, db)

section

variable {platform : Platform} {user : User} {draw : Draw} {db : Db}

/-- A creation that nobody comes between is the service's. -/
theorem create_alone (name : String) :
    (((asked user (.create draw name)).next platform db).1.next platform db) =
      match create platform user draw name db with
      | .ok (subject, next) => (.named subject, next)
      | .error reason => (.refused reason, db) := by
  simp only [create, next]
  cases findByName platform user.schoolId (Js.trim name) db with
  | some existing => rfl
  | none =>
      dsimp only [refuse, Option.map_none, ok_bind]
      cases db.createSubject ⟨draw.id, Js.trim name, none, user.schoolId⟩ <;> rfl

theorem rename_alone (id : Id) (name : String) :
    (((asked user (.rename id name)).next platform db).1.next platform db).1.next platform db =
      match rename platform user id name db with
      | .ok (subject, next) => (.named subject, next)
      | .error reason => (.refused reason, db) := by
  simp only [rename, next]
  cases findOne user id db with
  | error reason => rfl
  | ok subject =>
      simp only [ok_bind]
      cases (findByName platform user.schoolId (Js.trim name) db).filter
          fun row => row.id != subject.id with
      | some clash => rfl
      | none =>
          dsimp only [refuse, Option.map_none, ok_bind]
          cases db.renameSubject subject.id (Js.trim name) <;> rfl

end

end NamingPhase

/-- No two subjects of a school have names that are equal ignoring case. -/
def Db.UniqueNames (platform : Platform) (db : Db) : Prop :=
  ∀ left ∈ db.subjects.rows, ∀ right ∈ db.subjects.rows, left.schoolId = right.schoolId →
    platform.equalsInsensitive left.name right.name = true → left = right

/-- Whether a subject would stand beside another of its school with its name in other letters,
which is what the unique index lets pass. -/
def Db.Respells (platform : Platform) (row : Subject) (db : Db) : Prop :=
  ∃ other ∈ db.subjects.rows, other.id ≠ row.id ∧ other.schoolId = row.schoolId ∧
    platform.equalsInsensitive other.name row.name = true ∧ other.name ≠ row.name

section

variable {platform : Platform} {db next : Db}

/-- A row that is put among the others, under a name that no other has to the letter. -/
structure Db.Puts (row : Subject) (db next : Db) : Prop where
  rows : ∀ other, other ∈ next.subjects.rows ↔
    other ∈ db.subjects.rows ∧ other.id ≠ row.id ∨ other = row
  untaken : ∀ other ∈ db.subjects.rows, other.id ≠ row.id → other.schoolId = row.schoolId →
    other.name ≠ row.name

theorem Db.createSubject_puts {row : Subject} (done : db.createSubject row = .ok next) :
    db.Puts row next := by
  obtain ⟨-, others, subjects, inserted, rfl⟩ := Db.createSubject_ok.mp done
  have free := Table.find_eq_none.mp (Table.insert?_eq_some.mp inserted).1
  constructor
  · intro other
    rw [show other ∈ ({ db with subjects } : Db).subjects.rows ↔ _ from Table.mem_insert inserted]
    constructor
    · rintro (old | rfl)
      · exact .inl ⟨old, free other old⟩
      · exact .inr rfl
    · rintro (⟨old, -⟩ | rfl)
      · exact .inl old
      · exact .inr rfl
  · intro other member _ school same
    have differs := List.all_eq_true.mp others other member
    rw [school, same] at differs
    simp at differs

theorem Db.renameSubject_puts {id : Id} {name : String}
    (done : db.renameSubject id name = .ok next) :
    ∃ own, db.subjects.find id = some own ∧ db.Puts { own with name } next := by
  obtain ⟨clashes, _, updated, rfl⟩ := Db.renameSubject_ok.mp done
  obtain ⟨there, rfl⟩ := updateRow_ok.mp updated
  obtain ⟨own, found⟩ := Option.isSome_iff_exists.mp there
  obtain ⟨present, rfl⟩ := Table.find_eq_some.mp found
  refine ⟨own, found, fun other => ?_, fun other member different school same => ?_⟩
  · simp only [Table.rows_update, List.mem_map, decide_eq_true_eq]
    constructor
    · rintro ⟨old, member, rfl⟩
      by_cases itself : key old = key own
      · right
        rw [if_pos itself, Table.key_injective member present itself]
      · left
        rw [if_neg itself]
        exact ⟨member, itself⟩
    · rintro (⟨member, different⟩ | rfl)
      · exact ⟨other, member, if_neg different⟩
      · exact ⟨own, present, if_pos rfl⟩
  · have free := List.any_eq_false.mp (clashes own found)
    apply free other member
    simp only [Bool.and_eq_true, bne_iff_ne, beq_iff_eq]
    exact ⟨⟨different, school⟩, same⟩

/-- Beside unique names a name stays unique exactly when it respells no other. -/
theorem Db.Puts.unique_iff {row : Subject} (puts : db.Puts row next)
    (symmetric : ∀ left right, platform.equalsInsensitive left right = true →
      platform.equalsInsensitive right left = true) (unique : db.UniqueNames platform) :
    next.UniqueNames platform ↔ ¬ db.Respells platform row := by
  constructor
  · rintro after ⟨other, member, different, school, equal, -⟩
    have same := after other ((puts.rows other).mpr (.inl ⟨member, different⟩)) row
      ((puts.rows row).mpr (.inr rfl)) school equal
    exact different (same ▸ rfl)
  · intro alone
    -- another row with an equal name would have it to the letter, and the index refuses that
    have apart : ∀ other ∈ db.subjects.rows, other.id ≠ row.id → other.schoolId = row.schoolId →
        platform.equalsInsensitive other.name row.name ≠ true := by
      intro other member different school equal
      by_cases same : other.name = row.name
      · exact puts.untaken other member different school same
      · exact alone ⟨other, member, different, school, equal, same⟩
    intro left first right second school equal
    rcases (puts.rows left).mp first with ⟨leftOld, leftOther⟩ | rfl
    · rcases (puts.rows right).mp second with ⟨rightOld, -⟩ | rfl
      · exact unique left leftOld right rightOld school equal
      · exact absurd equal (apart left leftOld leftOther school)
    · rcases (puts.rows right).mp second with ⟨rightOld, rightOther⟩ | rfl
      · exact absurd (symmetric _ _ equal) (apart right rightOld rightOther school.symm)
      · rfl

end

namespace SubjectsService

section

variable {platform : Platform} {db : Db} {name : String} {schoolId : Id}

theorem findByName_none (free : findByName platform schoolId name db = none)
    {other : Subject} (member : other ∈ db.subjects.rows) (school : other.schoolId = schoolId) :
    platform.equalsInsensitive other.name name ≠ true := by
  intro equal
  have unmatched := List.find?_eq_none.mp free other member
  simp [school, equal] at unmatched

/-- Beside unique names, a lookup that finds no subject but one's own rules out every other. -/
theorem findByName_own (equality : Equivalence fun left right =>
      platform.equalsInsensitive left right = true) (unique : db.UniqueNames platform) {id : Id}
    (free : (findByName platform schoolId name db).filter (fun row => row.id != id) = none)
    {other : Subject} (member : other ∈ db.subjects.rows) (different : other.id ≠ id)
    (school : other.schoolId = schoolId) : platform.equalsInsensitive other.name name ≠ true := by
  intro equal
  cases first : findByName platform schoolId name db with
  | none => exact findByName_none first member school equal
  | some row =>
      have matched := List.find?_some first
      have listed := List.mem_of_find?_eq_some first
      rw [Bool.and_eq_true, beq_iff_eq] at matched
      rw [first] at free
      have itself : row.id = id := by simpa using free
      have same : row = other := unique row listed other member (matched.1.trans school.symm)
        (equality.trans matched.2 (equality.symm equal))
      exact different (same ▸ itself)

end

end SubjectsService

namespace NamingPhase

open SubjectsService

/-- The row as the next statement of a call is to leave it. -/
def writes : NamingPhase → Option Subject
  | .inserting row => some row
  | .updating subject name => some { subject with name }
  | _ => none

/-- Whether the next statement of a call is its lookup of the name. -/
def looksUp : NamingPhase → Bool
  | .asked _ (.create _ _) => true
  | .found _ _ _ => true
  | _ => false

/-- The subject a renaming has loaded is one of the rows, and one of the caller's school. -/
def Loaded (db : Db) : NamingPhase → Prop
  | .found user subject _ => subject.schoolId = user.schoolId ∧
      ∃ own ∈ db.subjects.rows, own.id = subject.id ∧ own.schoolId = subject.schoolId
  | .updating subject _ =>
      ∃ own ∈ db.subjects.rows, own.id = subject.id ∧ own.schoolId = subject.schoolId
  | _ => True

/-- No other subject of the school has the name that a call is about to write. -/
def Alone (platform : Platform) (db : Db) (phase : NamingPhase) : Prop :=
  ∀ wanted ∈ phase.writes, ∀ other ∈ db.subjects.rows, other.id ≠ wanted.id →
    other.schoolId = wanted.schoolId →
      platform.equalsInsensitive other.name wanted.name ≠ true

section

variable {platform : Platform} {db : Db} {phase : NamingPhase}

/-- A row that a statement leaves is the one it is to write, of the school it had before. -/
structure Wrote (phase : NamingPhase) (db next : Db) (wanted row : Subject) : Prop where
  puts : db.Puts row next
  id : row.id = wanted.id
  name : row.name = wanted.name
  home : ∀ own ∈ db.subjects.rows, own.id = row.id → own.schoolId = row.schoolId
  school : phase.Loaded db → row.schoolId = wanted.schoolId

theorem next_wrote (phase : NamingPhase) : (phase.next platform db).2 = db ∨
    ∃ wanted ∈ phase.writes, ∃ row, phase.Wrote db (phase.next platform db).2 wanted row := by
  cases phase with
  | inserting row =>
      simp only [next]
      cases created : db.createSubject row with
      | error reason => exact .inl rfl
      | ok after =>
          obtain ⟨-, -, subjects, inserted, -⟩ := Db.createSubject_ok.mp created
          have free := Table.find_eq_none.mp (Table.insert?_eq_some.mp inserted).1
          exact .inr ⟨row, rfl, row, Db.createSubject_puts created, rfl, rfl,
            fun own member same => absurd same (free own member), fun _ => rfl⟩
  | updating subject name =>
      simp only [next]
      cases renamed : db.renameSubject subject.id name with
      | error reason => exact .inl rfl
      | ok after =>
          obtain ⟨own, found, puts⟩ := Db.renameSubject_puts renamed
          obtain ⟨present, named⟩ := Table.find_eq_some.mp found
          have itself : ∀ other ∈ db.subjects.rows, other.id = own.id → other = own :=
            fun other member same => Table.key_injective member present same
          refine .inr ⟨_, rfl, _, puts, named, rfl, fun other member same => ?_, ?_⟩
          · rw [itself other member same]
          · rintro ⟨other, member, same, home⟩
            rw [itself other member (same.trans named.symm)] at home
            exact home
  | asked user naming =>
      left
      cases naming with
      | create draw name =>
          simp only [next]
          split <;> rfl
      | rename id name =>
          simp only [next]
          split <;> rfl
  | found user subject name =>
      left
      simp only [next]
      split <;> rfl
  | named subject => exact .inl rfl
  | refused reason => exact .inl rfl

/-- Subjects keep their id and their school. -/
theorem next_keeps {id school : Id}
    (there : ∃ own ∈ db.subjects.rows, own.id = id ∧ own.schoolId = school) :
    ∃ own ∈ (phase.next platform db).2.subjects.rows, own.id = id ∧ own.schoolId = school := by
  obtain ⟨own, member, named, home⟩ := there
  rcases phase.next_wrote with same | ⟨wanted, -, row, wrote⟩
  · exact ⟨own, same.symm ▸ member, named, home⟩
  · by_cases itself : own.id = row.id
    · exact ⟨row, (wrote.puts.rows row).mpr (.inr rfl), itself ▸ named,
        (wrote.home own member itself).symm.trans home⟩
    · exact ⟨own, (wrote.puts.rows own).mpr (.inl ⟨member, itself⟩), named, home⟩

theorem Loaded.next {other : NamingPhase} (loaded : other.Loaded db) :
    other.Loaded (phase.next platform db).2 := by
  cases other with
  | found user subject name => exact ⟨loaded.1, next_keeps loaded.2⟩
  | updating subject name => exact next_keeps loaded
  | _ => trivial

theorem next_loaded (loaded : phase.Loaded db) :
    (phase.next platform db).1.Loaded (phase.next platform db).2 := by
  cases phase with
  | asked user naming =>
      cases naming with
      | create draw name =>
          simp only [next]
          split <;> trivial
      | rename id name =>
          simp only [next]
          split
          · rename_i subject reached
            obtain ⟨found, school⟩ := (findOne_ok user).mp reached
            exact ⟨school, subject, (Table.find_eq_some.mp found).1, rfl, rfl⟩
          · trivial
  | found user subject name =>
      simp only [next]
      split
      · trivial
      · exact loaded.2
  | inserting row =>
      simp only [next]
      split <;> trivial
  | updating subject name =>
      simp only [next]
      split <;> trivial
  | named subject => trivial
  | refused reason => trivial

/-- A lookup lets a call go on to its write only when no other subject has the name. -/
theorem next_alone (equality : Equivalence fun left right =>
      platform.equalsInsensitive left right = true) (unique : db.UniqueNames platform)
    (loaded : phase.Loaded db) (looking : phase.looksUp = true) :
    (phase.next platform db).1.Alone platform (phase.next platform db).2 := by
  cases phase with
  | asked user naming =>
      cases naming with
      | create draw name =>
          simp only [next]
          split
          · exact fun _ none => by cases none
          · rename_i free
            rintro wanted ⟨⟩ other member - school
            exact findByName_none free member school
      | rename id name => cases looking
  | found user subject name =>
      simp only [next]
      split
      · exact fun _ none => by cases none
      · rename_i free
        rintro wanted ⟨⟩ other member different school
        exact findByName_own equality unique free member different (school.trans loaded.1)
  | inserting row => cases looking
  | updating subject name => cases looking
  | named subject => cases looking
  | refused reason => cases looking

/-- A call that does not look writes nothing afterwards. -/
theorem next_writes (blind : phase.looksUp = false) : (phase.next platform db).1.writes = none := by
  cases phase with
  | asked user naming =>
      cases naming with
      | create draw name => cases blind
      | rename id name =>
          simp only [next]
          split <;> rfl
  | found user subject name => cases blind
  | inserting row =>
      simp only [next]
      split <;> rfl
  | updating subject name =>
      simp only [next]
      split <;> rfl
  | named subject => rfl
  | refused reason => rfl

/-- A write of a name that no other subject has keeps the names unique. -/
theorem next_unique (symmetric : ∀ left right, platform.equalsInsensitive left right = true →
      platform.equalsInsensitive right left = true) (unique : db.UniqueNames platform)
    (loaded : phase.Loaded db) (alone : phase.writes ≠ none → phase.Alone platform db) :
    (phase.next platform db).2.UniqueNames platform := by
  rcases phase.next_wrote with same | ⟨wanted, writes, row, wrote⟩
  · rw [same]
    exact unique
  · refine (wrote.puts.unique_iff symmetric unique).mpr ?_
    rintro ⟨other, member, different, school, equal, -⟩
    rw [wrote.name] at equal
    exact alone (fun none => by rw [none] at writes; cases writes) wanted writes other member
      (wrote.id ▸ different) (school.trans (wrote.school loaded)) equal

end

end NamingPhase

/-- The calls in progress over one database. -/
structure Namings (τ : Type) where
  db : Db
  calls : τ → NamingPhase

section

variable {τ : Type} [DecidableEq τ] {platform : Platform} {state next : Namings τ}

/-- One call runs its next statement. -/
def Namings.advance (platform : Platform) (state : Namings τ) (t : τ) : Namings τ :=
  let (phase, db) := (state.calls t).next platform state.db
  { db, calls := Function.update state.calls t phase }

theorem Namings.advance_self (t : τ) :
    (state.advance platform t).calls t = ((state.calls t).next platform state.db).1 :=
  Function.update_self ..

theorem Namings.advance_other {t u : τ} (different : u ≠ t) :
    (state.advance platform t).calls u = state.calls u := Function.update_of_ne different ..

/-- Any interleaving of statements. -/
def NamingsRun (platform : Platform) : Namings τ → Namings τ → Prop :=
  Relation.ReflTransGen fun state next => ∃ t, next = state.advance platform t

/-- Creations and renamings as calls that look a name up and write it later. What a lookup saw is
spoiled by another subject of the school that comes to have the name in some spelling. -/
def nameChecks (platform : Platform) : CheckThenAct τ (Namings τ) where
  step t state next := next = state.advance platform t
  looks t state := (state.calls t).looksUp = true
  acts t state := (state.calls t).writes ≠ none
  spoils u before after := ∃ wanted ∈ (before.calls u).writes,
    ∃ row ∈ after.db.subjects.rows, row ∉ before.db.subjects.rows ∧ row.id ≠ wanted.id ∧
      row.schoolId = wanted.schoolId ∧ platform.equalsInsensitive row.name wanted.name = true

/-- What a lookup tells, until it is spoiled. -/
theorem nameChecks_guards (equality : Equivalence fun left right =>
      platform.equalsInsensitive left right = true) :
    (nameChecks (τ := τ) platform).Guards
      (fun state => state.db.UniqueNames platform ∧ ∀ t, (state.calls t).Loaded state.db)
      (fun t state => (state.calls t).Alone platform state.db) where
  look := by
    rintro t before _ ⟨unique, loaded⟩ rfl looking
    rw [Namings.advance_self]
    exact NamingPhase.next_alone equality unique (loaded t) looking
  own := by
    rintro t before _ - rfl blind -
    rw [Namings.advance_self]
    intro wanted writes
    rw [NamingPhase.next_writes (Bool.not_eq_true _ ▸ blind)] at writes
    cases writes
  other := by
    rintro t u before _ - rfl different alone unspoiled
    rw [Namings.advance_other different]
    intro wanted writes other member apart school equal
    by_cases old : other ∈ before.db.subjects.rows
    · exact alone wanted writes other old apart school equal
    · exact unspoiled ⟨wanted, writes, other, member, old, apart, school, equal⟩
  act := by
    rintro t before _ ⟨unique, loaded⟩ rfl alone
    refine ⟨NamingPhase.next_unique (fun _ _ => equality.symm) unique (loaded t) alone, fun u => ?_⟩
    by_cases same : u = t
    · subst same
      rw [Namings.advance_self]
      exact NamingPhase.next_loaded (loaded u)
    · rw [Namings.advance_other same]
      exact (loaded u).next

/-- Names stay unique along every run in which no call writes a name after another subject of the
school has come to have it since the lookup. -/
theorem subject_names_unique (equality : Equivalence fun left right =>
      platform.equalsInsensitive left right = true)
    (begun : ∀ t, ∃ user naming, state.calls t = .asked user naming)
    (unique : state.db.UniqueNames platform) (run : (nameChecks platform).Timely state next) :
    next.db.UniqueNames platform := by
  refine ((nameChecks_guards equality).timely ⟨unique, fun t => ?_⟩ run).1
  obtain ⟨user, naming, asked⟩ := begun t
  rw [asked]
  trivial

end

/-- A database that compares without regard to the case of letters. -/
def Platform.caseless : Platform :=
  { Platform.plain with
    equalsInsensitive := fun stored asked =>
      Platform.plain.toLowerCase stored == Platform.plain.toLowerCase asked }

theorem caseless_equality :
    Equivalence fun left right => Platform.caseless.equalsInsensitive left right = true := by
  simp only [Platform.caseless, beq_iff_eq]
  exact ⟨fun _ => rfl, fun same => same.symm, fun first second => first.trans second⟩

/-- Two admins of one school type the same name. -/
def twoAlgebras : Namings Bool where
  db := (World.empty.after .caseless [foxSchool]).db
  calls t := .asked foxAdmin (.create (Outside.quiet (if t then "b1" else "b2")).draw
    (if t then "Algebra" else " algebra "))

theorem twoAlgebras_empty : twoAlgebras.db.subjects.rows = [] := by decide

theorem twoAlgebras_unique : twoAlgebras.db.UniqueNames .caseless := by
  intro left member
  rw [twoAlgebras_empty] at member
  cases member

/-- The second call comes after the first, and finds the subject. -/
theorem algebra_in_turn : ∃ next, (nameChecks .caseless).Timely twoAlgebras next ∧
    (∃ subject, next.calls true = .named subject) ∧
    (∃ reason, next.calls false = .refused reason) ∧ next.db.UniqueNames .caseless := by
  have start : (nameChecks .caseless).Timely twoAlgebras twoAlgebras := .refl
  have first : (nameChecks .caseless).Timely twoAlgebras
      ((twoAlgebras.advance .caseless true).advance .caseless true) :=
    start.at_once (t := true) rfl (fun acting => acting rfl) rfl rfl
  have run : (nameChecks .caseless).Timely twoAlgebras
      (((twoAlgebras.advance .caseless true).advance .caseless true).advance .caseless false) :=
    first.idle (t := false) rfl fun acting => acting rfl
  exact ⟨_, run, ⟨_, rfl⟩, ⟨_, rfl⟩, subject_names_unique caseless_equality
    (fun _ => ⟨_, _, rfl⟩) twoAlgebras_unique run⟩

/-- Both lookups come before both writes, and the index tells the two names apart. -/
theorem algebra_divided :
    Reachable .caseless (World.empty.after .caseless [foxSchool]) ∧
      twoAlgebras.db.UniqueNames .caseless ∧
      ∃ next, NamingsRun .caseless twoAlgebras next ∧
        (∀ t, ∃ subject, next.calls t = .named subject) ∧ ¬ next.db.UniqueNames .caseless := by
  let next := (((twoAlgebras.advance .caseless true).advance .caseless false).advance
    .caseless true).advance .caseless false
  have rows : next.db.subjects.rows =
      [⟨"b1", "Algebra", none, "s1"⟩, ⟨"b2", "algebra", none, "s1"⟩] := by decide +kernel
  refine ⟨.after .caseless .refl _, twoAlgebras_unique, next,
    .head ⟨true, rfl⟩ <| .head ⟨false, rfl⟩ <| .head ⟨true, rfl⟩ <| .single ⟨false, rfl⟩, ?_,
    fun unique => ?_⟩
  · intro t
    cases t with
    | true => exact ⟨_, rfl⟩
    | false => exact ⟨_, rfl⟩
  · have equal : Platform.caseless.equalsInsensitive "Algebra" "algebra" = true := by
      decide +kernel
    rw [Db.UniqueNames, rows] at unique
    have same := unique ⟨"b1", "Algebra", none, "s1"⟩ (by simp)
      ⟨"b2", "algebra", none, "s1"⟩ (by simp) rfl equal
    revert same
    decide

end TutorApp
