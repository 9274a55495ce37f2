import TutorApp.UserConfig

set_option autoImplicit false

namespace TutorApp

open Relational

/-- The `subject` every view selects: its id, its name and whether it is hidden. -/
structure SubjectRef where
  id : Id
  name : String
  hiddenAt : Option Js.Instant
  deriving Repr, DecidableEq

def Db.subjectRef (db : Db) (subjectId : Option Id) : Option SubjectRef :=
  (subjectId.bind db.subjects.find).map fun row => ⟨row.id, row.name, row.hiddenAt⟩

def User.isAdmin (user : User) : Bool := user.role == .admin

/-- A row of the caller's school that an admin, or the tutor it belongs to, may touch. -/
def User.owns (user : User) (schoolId tutorId : Id) : Bool :=
  schoolId == user.schoolId && (user.isAdmin || tutorId == user.id)

theorem User.owns_school {user : User} {schoolId tutorId : Id}
    (owned : user.owns schoolId tutorId = true) : schoolId = user.schoolId := by
  simp only [owns, Bool.and_eq_true, beq_iff_eq] at owned
  exact owned.1

namespace SubjectsService

variable (platform : Platform) (user : User)

def list (includeHidden : Bool) (db : Db) : List Subject :=
  sortByText platform Subject.name (db.subjects.select fun row =>
    row.schoolId == user.schoolId && (includeHidden || row.hiddenAt.isNone))

def findOne (id : Id) (db : Db) : Service Subject :=
  orNotFound ((db.subjects.find id).filter fun row => row.schoolId == user.schoolId)
    "Subject not found"

theorem findOne_ok {id : Id} {db : Db} {subject : Subject} :
    findOne user id db = .ok subject ↔
      db.subjects.find id = some subject ∧ subject.schoolId = user.schoolId := by
  rw [findOne, orNotFound_ok, Option.filter_eq_some_iff, beq_iff_eq]

/-- Two admins at the same instant can get past this; the unique index catches those. -/
def findByName (schoolId : Id) (name : String) (db : Db) : Option Subject :=
  db.subjects.rows.find? fun row =>
    row.schoolId == schoolId && platform.equalsInsensitive row.name name

def nameConflict (existing : Subject) : HttpError :=
  match existing.hiddenAt with
  | some _ => .conflict "That subject exists but is hidden" (.subject "SUBJECT_HIDDEN" existing)
  | none => .conflict "That subject already exists" (.subject "SUBJECT_EXISTS" existing)

def create (draw : Draw) (name : String) (db : Db) : Service (Subject × Db) := do
  let name := Js.trim name
  refuse ((findByName platform user.schoolId name db).map nameConflict)
  let row : Subject := ⟨draw.id, name, none, user.schoolId⟩
  let db ← db.createSubject row
  return (row, db)

def rename (id : Id) (name : String) (db : Db) : Service (Subject × Db) := do
  let subject ← findOne user id db
  let name := Js.trim name
  let clash := (findByName platform user.schoolId name db).filter fun row => row.id != subject.id
  refuse (clash.map nameConflict)
  let db ← db.renameSubject subject.id name
  return ({ subject with name }, db)

/-- A cancelled lesson ahead counts as past: it must not block anything. -/
def usage (draw : Draw) (id : Id) (db : Db) : Service SubjectUsage := do
  let subject ← findOne user id db
  let students := sortByText platform Student.name
    (db.students.select fun row => row.subjectId == some subject.id)
  let groups := sortByText platform Group.name
    (db.groups.select fun row => row.subjectId == some subject.id)
  let upcomingLessons := (db.lessons.select fun row =>
    row.subjectId == some subject.id && draw.now ≤ row.startsAt && row.status != .cancelled).length
  let pastLessons := (db.lessons.select fun row =>
    row.subjectId == some subject.id &&
      (row.startsAt < draw.now || row.status == .cancelled)).length
  return {
    subject
    students := students.map fun row => ⟨row.id, row.name⟩
    groups := groups.map fun row => ⟨row.id, row.name⟩
    upcomingLessons
    pastLessons
    canHide := students.length == 0 && groups.length == 0 && upcomingLessons == 0 }

def hide (draw : Draw) (id : Id) (db : Db) : Service (Subject × Db) := do
  let usage ← usage platform user draw id db
  require usage.canHide (.conflict "Reassign what still studies this subject first"
    (.usage "SUBJECT_IN_USE" usage))
  if usage.subject.hiddenAt.isSome then
    return (usage.subject, db)
  else
    let db ← db.hideSubject usage.subject.id (some draw.now)
    return ({ usage.subject with hiddenAt := some draw.now }, db)

def restore (id : Id) (db : Db) : Service (Subject × Db) := do
  let subject ← findOne user id db
  let db ← db.hideSubject subject.id none
  return ({ subject with hiddenAt := none }, db)

/-- A subject id from a client as one that is safe to store. What the record already points
at is exempt from the hidden check. -/
def resolve (subjectId current : Option Id) (db : Db) : Service (Option Id) :=
  match subjectId with
  | none => return none
  | some id => do
      let subject ← findOne user id db
      require (subject.hiddenAt.isNone || some subject.id == current)
        (.badRequest "That subject is no longer offered")
      return some subject.id

/-- A resolved id is that of a subject of the caller's school. -/
theorem resolve_ok {subjectId current resolved : Option Id} {db : Db}
    (success : resolve user subjectId current db = .ok resolved) :
    ∀ id ∈ resolved, db.schoolOfSubject id = some user.schoolId := by
  cases subjectId with
  | none =>
      cases pure_ok.mp success
      simp
  | some asked =>
      simp only [resolve, bind_ok, findOne_ok, pure_ok] at success
      obtain ⟨subject, ⟨found, school⟩, _, _, rfl⟩ := success
      have same : subject.id = asked := (Table.find_eq_some.mp found).2
      rintro id ⟨⟩
      rw [Db.schoolOfSubject, same, found, Option.map_some, school]

section

variable {platform user} {draw : Draw} {id : Id} {name : String} {db next : Db} {subject : Subject}

theorem create_ok : create platform user draw name db = .ok (subject, next) ↔
    findByName platform user.schoolId (Js.trim name) db = none ∧
      db.createSubject ⟨draw.id, Js.trim name, none, user.schoolId⟩ = .ok next ∧
        ⟨draw.id, Js.trim name, none, user.schoolId⟩ = subject := by
  simp only [create, bind_ok, refuse_ok, Option.map_eq_none_iff, pure_ok, Prod.mk.injEq,
    exists_const, exists_eq_right_right]

theorem rename_ok : rename platform user id name db = .ok (subject, next) ↔
    ∃ own, findOne user id db = .ok own ∧
      ((findByName platform user.schoolId (Js.trim name) db).filter fun row => row.id != own.id) =
        none ∧
      db.renameSubject own.id (Js.trim name) = .ok next ∧
        { own with name := Js.trim name } = subject := by
  simp only [rename, bind_ok, refuse_ok, Option.map_eq_none_iff, pure_ok, Prod.mk.injEq,
    exists_const, exists_eq_right_right]

theorem hide_ok : hide platform user draw id db = .ok (subject, next) ↔
    ∃ report, usage platform user draw id db = .ok report ∧ report.canHide = true ∧
      if report.subject.hiddenAt.isSome then report.subject = subject ∧ db = next
      else db.hideSubject report.subject.id (some draw.now) = .ok next ∧
        { report.subject with hiddenAt := some draw.now } = subject := by
  simp only [hide, bind_ok, require_ok, exists_const]
  refine exists_congr fun report => and_congr_right fun _ => and_congr_right fun _ => ?_
  split
  · rw [pure_ok, Prod.mk.injEq]
  · simp only [bind_ok, pure_ok, Prod.mk.injEq, exists_eq_right_right]

theorem restore_ok : restore user id db = .ok (subject, next) ↔
    ∃ own, findOne user id db = .ok own ∧ db.hideSubject own.id none = .ok next ∧
      { own with hiddenAt := none } = subject := by
  simp only [restore, bind_ok, pure_ok, Prod.mk.injEq, exists_eq_right_right]

end

end SubjectsService

end TutorApp
