import TutorApp.DerivedRows
import TutorApp.Schema
import TutorApp.Trimming

set_option autoImplicit false

namespace TutorApp

open Relational

namespace SubjectsMigration

/-- The columns of a student, a group or a lesson that the migration reads. Comparisons with null
are written out, though the column admits none. -/
structure NamedRow where
  id : Id
  schoolId : Id
  subject : Option String
  deriving Repr, DecidableEq

/-- The same row with its subject as a reference. -/
structure LinkedRow where
  id : Id
  schoolId : Id
  subjectId : Option Id
  deriving Repr, DecidableEq

instance : Keyed NamedRow Id := ⟨NamedRow.id⟩
instance : Keyed LinkedRow Id := ⟨LinkedRow.id⟩

/-- The schema before the migration: every row belongs to a school. -/
structure Before where
  schools : Table School
  students : Table NamedRow
  groups : Table NamedRow
  lessons : Table NamedRow
  owned : ∀ row ∈ students.rows ++ groups.rows ++ lessons.rows,
    (schools.find row.schoolId).isSome = true

def Before.rows (before : Before) : List NamedRow :=
  before.students.rows ++ before.groups.rows ++ before.lessons.rows

/-- The schema after it, with the constraints it adds. -/
structure After where
  schools : Table School
  subjects : Table Subject
  students : Table LinkedRow
  groups : Table LinkedRow
  lessons : Table LinkedRow
  named : (subjects.rows.map fun subject => (subject.schoolId, subject.name)).Nodup
  owned : ∀ subject ∈ subjects.rows, (schools.find subject.schoolId).isSome = true
  linked : ∀ row ∈ students.rows ++ groups.rows ++ lessons.rows, ∀ id ∈ row.subjectId,
    (subjects.find id).isSome = true

/-- The constraint that makes the migration stop. -/
inductive Violation where
  | subjectsPkey
  | subjectsSchoolIdNameKey
  | subjectsSchoolIdFkey
  | subjectIdFkey
  deriving Repr, DecidableEq

/-- `btrim(text)`: spaces, and no other characters, are cut from both ends. -/
def btrim (text : String) : String := String.ofList (Trimming.trimmed (· == ' ') text.toList)

/-- `"schoolId" || ':' || "name"`. -/
def derivedFrom (schoolId : Id) (name : String) : String := schoolId ++ ":" ++ name

/-- `SELECT "schoolId", btrim("subject") AS "name"`. -/
def selected (rows : List NamedRow) : List (Id × Option String) :=
  rows.map fun row => (row.schoolId, row.subject.map btrim)

/-- The rows as a table, once no two have one id. -/
def created (rows : List Subject) : Except Violation (Table Subject) :=
  if unique : (rows.map key).Nodup then .ok ⟨rows, unique⟩ else .error .subjectsPkey

/-- The tables once the other constraints hold. -/
def constrained (schools : Table School) (subjects : Table Subject)
    (students groups lessons : Table LinkedRow) : Except Violation After :=
  if named : (subjects.rows.map fun subject => (subject.schoolId, subject.name)).Nodup then
    if owned : ∀ subject ∈ subjects.rows, (schools.find subject.schoolId).isSome = true then
      if linked : ∀ row ∈ students.rows ++ groups.rows ++ lessons.rows, ∀ id ∈ row.subjectId,
          (subjects.find id).isSome = true then
        .ok ⟨schools, subjects, students, groups, lessons, named, owned, linked⟩
      else .error .subjectIdFkey
    else .error .subjectsSchoolIdFkey
  else .error .subjectsSchoolIdNameKey

section

variable (md5 : String → String)

/-- The row inserted for what was collected, `WHERE "name" <> ''`. -/
def subjectFor : Id × Option String → Option Subject
  | (_, none) => none
  | (schoolId, some name) =>
      if name = "" then none else some ⟨md5 (derivedFrom schoolId name), name, none, schoolId⟩

/-- The rows inserted: the union keeps one of those that are the same. -/
def insertedSubjects (before : Before) : List Subject :=
  DerivedRows.collect (subjectFor md5)
    (selected before.students.rows ++ selected before.groups.rows ++ selected before.lessons.rows)

/-- `SET "subjectId" = md5("schoolId" || ':' || btrim("subject")) WHERE btrim("subject") <> ''`. -/
def repointed (row : NamedRow) : LinkedRow where
  id := row.id
  schoolId := row.schoolId
  subjectId := match row.subject with
    | none => none
    | some text =>
        if btrim text = "" then none else some (md5 (derivedFrom row.schoolId (btrim text)))

def repoint (table : Table NamedRow) : Table LinkedRow := table.convert (repointed md5) fun _ => rfl

def migrate (before : Before) : Except Violation After := do
  let subjects ← created (insertedSubjects md5 before)
  constrained before.schools subjects (repoint md5 before.students) (repoint md5 before.groups)
    (repoint md5 before.lessons)

end

/-- The subject a row names: its text as trimmed, if that leaves any. -/
def NamedRow.subjectName (row : NamedRow) : Option String :=
  (row.subject.map btrim).filter fun name => name ≠ ""

/-- A row of the three tables names the subject. -/
def Before.Names (before : Before) (schoolId : Id) (name : String) : Prop :=
  ∃ row ∈ before.rows, row.schoolId = schoolId ∧ row.subjectName = some name

/-- The keys that are hashed. -/
def Before.usedKeys (before : Before) : List String :=
  before.rows.filterMap fun row => row.subjectName.map (derivedFrom row.schoolId)

/-- The subject inserted under a name. -/
def subjectNamed (md5 : String → String) (schoolId : Id) (name : String) : Subject :=
  ⟨md5 (derivedFrom schoolId name), name, none, schoolId⟩

section

variable {md5 : String → String} {before : Before} {row : NamedRow} {subject : Subject}
  {schoolId : Id} {name : String}

theorem subjectName_eq_some : row.subjectName = some name ↔
    row.subject.map btrim = some name ∧ name ≠ "" := by
  rw [NamedRow.subjectName, Option.filter_eq_some_iff, decide_eq_true_eq]

theorem subjectFor_eq_some {mention : Id × Option String} :
    subjectFor md5 mention = some subject ↔ ∃ name, mention.2 = some name ∧ name ≠ "" ∧
      subject = subjectNamed md5 mention.1 name := by
  obtain ⟨schoolId, named⟩ := mention
  cases named with
  | none => simp only [subjectFor, reduceCtorEq, false_and, exists_false]
  | some name =>
      rw [subjectFor, Option.ite_none_left_eq_some]
      constructor
      · rintro ⟨some, built⟩
        exact ⟨name, rfl, some, (Option.some.inj built).symm⟩
      · rintro ⟨_, given, some, rfl⟩
        obtain rfl := Option.some.inj given
        exact ⟨some, rfl⟩

theorem subjectId_repointed : (repointed md5 row).subjectId =
    row.subjectName.map fun name => md5 (derivedFrom row.schoolId name) := by
  rw [repointed, NamedRow.subjectName]
  cases row.subject with
  | none => rfl
  | some text =>
      by_cases blank : btrim text = ""
      · simp only [blank, if_true, Option.map_some, Option.filter_some, ne_eq, not_true_eq_false,
          decide_false, Bool.false_eq_true, if_false, Option.map_none]
      · simp only [blank, if_false, Option.map_some, Option.filter_some, ne_eq, not_false_eq_true,
          decide_true, if_true]

theorem mem_selected {mention : Id × Option String} : mention ∈ selected before.students.rows ++
      selected before.groups.rows ++ selected before.lessons.rows ↔
    ∃ row ∈ before.rows, (row.schoolId, row.subject.map btrim) = mention := by
  rw [selected, selected, selected, ← List.map_append, ← List.map_append, List.mem_map]
  rfl

/-- The subjects inserted are those named somewhere. -/
theorem mem_insertedSubjects : subject ∈ insertedSubjects md5 before ↔
    ∃ schoolId name, before.Names schoolId name ∧ subject = subjectNamed md5 schoolId name := by
  rw [insertedSubjects, DerivedRows.mem_collect]
  constructor
  · rintro ⟨mention, listed, built⟩
    obtain ⟨row, member, rfl⟩ := mem_selected.mp listed
    obtain ⟨name, trimmed, some, rfl⟩ := subjectFor_eq_some.mp built
    exact ⟨row.schoolId, name, ⟨row, member, rfl, subjectName_eq_some.mpr ⟨trimmed, some⟩⟩, rfl⟩
  · rintro ⟨_, name, ⟨row, member, rfl, named⟩, rfl⟩
    obtain ⟨trimmed, some⟩ := subjectName_eq_some.mp named
    exact ⟨_, mem_selected.mpr ⟨row, member, rfl⟩,
      subjectFor_eq_some.mpr ⟨name, trimmed, some, rfl⟩⟩

/-- What a row was inserted for can be read off it. -/
theorem subjectFor_reads (mention : Id × Option String) (subject : Subject)
    (built : subjectFor md5 mention = some subject) :
    (subject.schoolId, some subject.name) = mention := by
  obtain ⟨name, given, -, rfl⟩ := subjectFor_eq_some.mp built
  rw [subjectNamed, ← given]

theorem insertedSubjects_named : ((insertedSubjects md5 before).map fun subject =>
    (subject.schoolId, subject.name)).Nodup := by
  have values : ((insertedSubjects md5 before).map fun subject =>
      (subject.schoolId, some subject.name)).Nodup := DerivedRows.values_nodup subjectFor_reads
  refine List.Nodup.of_map (fun pair => (pair.1, some pair.2)) ?_
  rw [List.map_map]
  exact values

theorem derivedFrom_inj {other : Id} {otherName : String} (plain : ':' ∉ schoolId.toList)
    (otherPlain : ':' ∉ other.toList)
    (same : derivedFrom schoolId name = derivedFrom other otherName) :
    schoolId = other ∧ name = otherName := by
  have spelled (id : Id) (text : String) :
      (derivedFrom id text).toList = id.toList ++ ':' :: text.toList := by
    rw [derivedFrom, String.toList_append, String.toList_append, List.append_assoc]
    rfl
  have lists := congrArg String.toList same
  rw [spelled, spelled] at lists
  obtain ⟨ids, names⟩ := DerivedRows.append_separator_inj plain otherPlain lists
  exact ⟨String.toList_inj.mp ids, String.toList_inj.mp names⟩

end

/-- A row has kept its place, and refers to what it named: to one subject, of its own school and
of that name, or to none. -/
structure Keeps (subjects : Table Subject) (old : NamedRow) (new : LinkedRow) : Prop where
  id : new.id = old.id
  schoolId : new.schoolId = old.schoolId
  named : ∀ name, old.subjectName = some name → ∃ subject ∈ subjects.rows,
    (∀ other ∈ subjects.rows, new.subjectId = some other.id ↔ other = subject) ∧
      subject.schoolId = old.schoolId ∧ subject.name = name
  blank : old.subjectName = none → new.subjectId = none

section

variable {md5 : String → String} {before : Before} {after : After} {row : NamedRow}
  {schoolId other : Id} {name otherName : String}

theorem created_eq_ok {rows : List Subject} {subjects : Table Subject}
    (done : created rows = .ok subjects) : subjects.rows = rows := by
  unfold created at done
  split at done
  · obtain rfl := Except.ok.inj done
    rfl
  · cases done

theorem constrained_eq_ok {schools : Table School} {subjects : Table Subject}
    {students groups lessons : Table LinkedRow}
    (done : constrained schools subjects students groups lessons = .ok after) :
    after.schools = schools ∧ after.subjects = subjects ∧ after.students = students ∧
      after.groups = groups ∧ after.lessons = lessons := by
  unfold constrained at done
  split at done
  · split at done
    · split at done
      · obtain rfl := Except.ok.inj done
        exact ⟨rfl, rfl, rfl, rfl, rfl⟩
      · cases done
    · cases done
  · cases done

/-- The schools stay, the subjects are those collected, and each row is repointed. -/
theorem of_migrate (done : migrate md5 before = .ok after) :
    after.schools = before.schools ∧ after.subjects.rows = insertedSubjects md5 before ∧
      after.students = repoint md5 before.students ∧ after.groups = repoint md5 before.groups ∧
      after.lessons = repoint md5 before.lessons := by
  rw [migrate] at done
  cases made : created (insertedSubjects md5 before) with
  | error violation =>
      rw [made] at done
      cases done
  | ok subjects =>
      rw [made] at done
      obtain ⟨kept, collected, repointed⟩ := constrained_eq_ok done
      exact ⟨kept, by rw [collected, created_eq_ok made], repointed⟩

theorem rows_repoint : (repoint md5 before.students).rows ++ (repoint md5 before.groups).rows ++
    (repoint md5 before.lessons).rows = before.rows.map (repointed md5) := by
  rw [Before.rows, List.map_append, List.map_append]
  rfl

theorem names_of_row (member : row ∈ before.rows) (named : row.subjectName = some name) :
    before.Names row.schoolId name :=
  ⟨row, member, rfl, named⟩

theorem school_of_names (named : before.Names schoolId name) :
    (before.schools.find schoolId).isSome = true := by
  obtain ⟨row, member, rfl, -⟩ := named
  exact before.owned row member

theorem usedKey_of_names (named : before.Names schoolId name) :
    derivedFrom schoolId name ∈ before.usedKeys := by
  obtain ⟨row, member, rfl, named⟩ := named
  exact List.mem_filterMap.mpr ⟨row, member, by rw [named, Option.map_some]⟩

section

variable (plain : ∀ school ∈ before.schools.rows, ':' ∉ school.id.toList)
  (distinct : Set.InjOn md5 {key | key ∈ before.usedKeys})

include plain

theorem plain_of_names (named : before.Names schoolId name) : ':' ∉ schoolId.toList := by
  obtain ⟨school, found⟩ := Option.isSome_iff_exists.mp (school_of_names named)
  obtain ⟨member, rfl⟩ := Table.find_eq_some.mp found
  exact plain school member

include distinct

/-- The derived ids tell the subjects apart. -/
theorem eq_of_hash_eq (named : before.Names schoolId name) (alike : before.Names other otherName)
    (same : md5 (derivedFrom schoolId name) = md5 (derivedFrom other otherName)) :
    schoolId = other ∧ name = otherName :=
  derivedFrom_inj (plain_of_names plain named) (plain_of_names plain alike)
    (distinct (usedKey_of_names named) (usedKey_of_names alike) same)

theorem insertedSubjects_unique : ((insertedSubjects md5 before).map key).Nodup := by
  refine DerivedRows.keys_nodup subjectFor_reads fun left first right second same => ?_
  obtain ⟨schoolId, name, named, rfl⟩ := mem_insertedSubjects.mp first
  obtain ⟨other, otherName, alike, rfl⟩ := mem_insertedSubjects.mp second
  obtain ⟨rfl, rfl⟩ := eq_of_hash_eq plain distinct named alike same
  rfl

/-- No constraint stops the migration. -/
theorem exists_migrated : ∃ after, migrate md5 before = .ok after := by
  have unique := insertedSubjects_unique plain distinct
  have owned : ∀ subject ∈ insertedSubjects md5 before,
      (before.schools.find subject.schoolId).isSome = true := by
    intro subject member
    obtain ⟨schoolId, name, named, rfl⟩ := mem_insertedSubjects.mp member
    exact school_of_names named
  have linked : ∀ row ∈ (repoint md5 before.students).rows ++ (repoint md5 before.groups).rows ++
      (repoint md5 before.lessons).rows, ∀ id ∈ row.subjectId,
        ((⟨insertedSubjects md5 before, unique⟩ : Table Subject).find id).isSome = true := by
    rw [rows_repoint]
    intro new member id given
    obtain ⟨row, listed, rfl⟩ := List.mem_map.mp member
    rw [subjectId_repointed, Option.mem_def, Option.map_eq_some_iff] at given
    obtain ⟨name, named, rfl⟩ := given
    have inserted : subjectNamed md5 row.schoolId name ∈ insertedSubjects md5 before :=
      mem_insertedSubjects.mpr ⟨row.schoolId, name, names_of_row listed named, rfl⟩
    exact Option.isSome_iff_exists.mpr ⟨_, Table.find_eq_some.mpr ⟨inserted, rfl⟩⟩
  have made : created (insertedSubjects md5 before) = .ok ⟨_, unique⟩ := dif_pos unique
  rw [migrate, made]
  refine ⟨⟨before.schools, ⟨_, unique⟩, _, _, _, insertedSubjects_named, owned, linked⟩, ?_⟩
  calc constrained before.schools ⟨_, unique⟩ (repoint md5 before.students)
          (repoint md5 before.groups) (repoint md5 before.lessons)
      = _ := dif_pos insertedSubjects_named
    _ = _ := dif_pos owned
    _ = _ := dif_pos linked

theorem keeps_repointed (done : migrate md5 before = .ok after) (member : row ∈ before.rows) :
    Keeps after.subjects row (repointed md5 row) := by
  obtain ⟨-, collected, -⟩ := of_migrate done
  refine ⟨rfl, rfl, fun name named => ?_, fun blank => ?_⟩
  · have used := names_of_row member named
    refine ⟨subjectNamed md5 row.schoolId name, ?_, fun other listed => ?_, rfl, rfl⟩
    · rw [collected]
      exact mem_insertedSubjects.mpr ⟨row.schoolId, name, used, rfl⟩
    · rw [collected] at listed
      obtain ⟨schoolId, otherName, alike, rfl⟩ := mem_insertedSubjects.mp listed
      rw [subjectId_repointed, named, Option.map_some]
      constructor
      · intro same
        obtain ⟨rfl, rfl⟩ := eq_of_hash_eq plain distinct used alike (Option.some.inj same)
        rfl
      · intro same
        rw [same]
        rfl
  · rw [subjectId_repointed, blank, Option.map_none]

theorem forall₂_keeps (done : migrate md5 before = .ok after) {table : Table NamedRow}
    (among : ∀ row ∈ table.rows, row ∈ before.rows) :
    List.Forall₂ (Keeps after.subjects) table.rows (repoint md5 table).rows := by
  have rows : (repoint md5 table).rows = table.rows.map (repointed md5) := rfl
  rw [rows, List.forall₂_map_right_iff, List.forall₂_same]
  exact fun row member => keeps_repointed plain distinct done (among row member)

end

/-- The migration goes through and keeps what every row says: each refers to the one subject of its
school that bears its trimmed text, or to none when it has none, and a school has one subject for
each text used in it and no others. -/
theorem migrate_preserves_meaning (md5 : String → String) (before : Before)
    (plain : ∀ school ∈ before.schools.rows, ':' ∉ school.id.toList)
    (distinct : Set.InjOn md5 {key | key ∈ before.usedKeys}) :
    ∃ after, migrate md5 before = .ok after ∧ after.schools = before.schools ∧
      List.Forall₂ (Keeps after.subjects) before.students.rows after.students.rows ∧
      List.Forall₂ (Keeps after.subjects) before.groups.rows after.groups.rows ∧
      List.Forall₂ (Keeps after.subjects) before.lessons.rows after.lessons.rows ∧
      ∀ schoolId name,
        (before.Names schoolId name → ∃! subject, subject ∈ after.subjects.rows ∧
          subject.schoolId = schoolId ∧ subject.name = name) ∧
        ∀ subject ∈ after.subjects.rows, subject.schoolId = schoolId → subject.name = name →
          before.Names schoolId name := by
  obtain ⟨after, done⟩ := exists_migrated plain distinct
  obtain ⟨kept, collected, students, groups, lessons⟩ := of_migrate done
  refine ⟨after, done, kept, ?_, ?_, ?_, fun schoolId name => ⟨fun used => ?_, ?_⟩⟩
  · rw [students]
    exact forall₂_keeps plain distinct done fun row member =>
      List.mem_append_left _ (List.mem_append_left _ member)
  · rw [groups]
    exact forall₂_keeps plain distinct done fun row member =>
      List.mem_append_left _ (List.mem_append_right _ member)
  · rw [lessons]
    exact forall₂_keeps plain distinct done fun row member => List.mem_append_right _ member
  · rw [collected]
    refine ⟨subjectNamed md5 schoolId name,
      ⟨mem_insertedSubjects.mpr ⟨schoolId, name, used, rfl⟩, rfl, rfl⟩, ?_⟩
    rintro subject ⟨listed, owner, called⟩
    obtain ⟨_, _, -, rfl⟩ := mem_insertedSubjects.mp listed
    obtain rfl := owner
    obtain rfl := called
    rfl
  · rw [collected]
    intro subject listed owner called
    obtain ⟨_, _, used, rfl⟩ := mem_insertedSubjects.mp listed
    obtain rfl := owner
    obtain rfl := called
    exact used

/-- `md5` on the keys of the schools below. -/
def hashed (key : String) : String :=
  if key = "fox:Algebra" then "ca3e29abfaf49bc372742f81d7335ba4"
  else if key = "owl:Algebra" then "8924758e8cf70edc8446cb7a60c6b1ed"
  else ""

/-- A student and a group of one school and a lesson of another write the same subject. -/
def twoSchools : Before where
  schools := ⟨[⟨"fox", "Fox", "fox", "UTC", 12⟩, ⟨"owl", "Owl", "owl", "UTC", 12⟩], by decide⟩
  students := ⟨[⟨"kit", "fox", some " Algebra "⟩, ⟨"pup", "fox", some "  "⟩], by decide⟩
  groups := ⟨[⟨"evening", "fox", some "Algebra"⟩], by decide⟩
  lessons := ⟨[⟨"monday", "owl", some "Algebra"⟩], by decide⟩
  owned := by decide

theorem migrate_twoSchools : ∃ after, migrate hashed twoSchools = .ok after ∧
    ∃! subject, subject ∈ after.subjects.rows ∧ subject.schoolId = "fox" ∧
      subject.name = "Algebra" := by
  have keys : twoSchools.usedKeys = ["fox:Algebra", "fox:Algebra", "owl:Algebra"] := by decide
  have distinct : Set.InjOn hashed {key | key ∈ twoSchools.usedKeys} := by
    have apart : ∀ left ∈ ["fox:Algebra", "fox:Algebra", "owl:Algebra"],
        ∀ right ∈ ["fox:Algebra", "fox:Algebra", "owl:Algebra"],
          hashed left = hashed right → left = right := by decide
    rw [keys]
    exact fun left first right second => apart left first right second
  obtain ⟨after, done, -, -, -, -, taught⟩ := migrate_preserves_meaning hashed twoSchools
    (by decide) distinct
  exact ⟨after, done, (taught "fox" "Algebra").1 ⟨⟨"evening", "fox", some "Algebra"⟩, by decide,
    rfl, by decide⟩⟩

end

end SubjectsMigration

end TutorApp
