import TutorApp.Subjects

set_option autoImplicit false

namespace TutorApp

open Relational

/-- A student with the subject they study. -/
structure StudentView where
  student : Student
  subject : Option SubjectRef
  deriving Repr, DecidableEq

def Db.studentView (db : Db) (student : Student) : StudentView :=
  ⟨student, db.subjectRef student.subjectId⟩

structure CreateStudentDto where
  name : String
  subjectId : Js.Field Id
  paidLessonsLeft : Js.Field Nat
  deriving Repr, DecidableEq

structure UpdateStudentDto where
  name : Js.Field String
  subjectId : Js.Field Id
  paidLessonsLeft : Js.Field Nat
  deriving Repr, DecidableEq

namespace StudentsService

variable (platform : Platform) (user : User)

def findVisible (db : Db) : List StudentView :=
  (sortByText platform Student.name (db.students.select fun row =>
    user.owns row.schoolId row.tutorId)).map db.studentView

def findOne (id : Id) (db : Db) : Service Student := do
  let student ← orNotFound
    ((db.students.find id).filter fun row => row.schoolId == user.schoolId) "Student not found"
  require (user.isAdmin || student.tutorId == user.id) (.forbidden "Not your student")
  return student

theorem findOne_ok {id : Id} {db : Db} {student : Student} :
    findOne user id db = .ok student ↔
      db.students.find id = some student ∧ user.owns student.schoolId student.tutorId = true := by
  simp only [findOne, bind_ok, orNotFound_ok, Option.filter_eq_some_iff, require_ok, pure_ok,
    exists_const, User.owns, Bool.and_eq_true]
  constructor
  · rintro ⟨_, ⟨found, school⟩, owned, rfl⟩
    exact ⟨found, school, owned⟩
  · rintro ⟨found, school, owned⟩
    exact ⟨student, ⟨found, school⟩, owned, rfl⟩

/-- A subject that was not sent is left alone, and one sent as null is cleared. -/
def subjectPatch (subjectId : Js.Field Id) (current : Option Id) (db : Db) :
    Service (Option (Option Id)) :=
  if subjectId.isAbsent then return none
  else do
    let resolved ← SubjectsService.resolve user subjectId.toOption current db
    return some resolved

/-- The client takes no null for a balance. -/
def balancePatch : Js.Field Nat → Service (Option Int)
  | .absent => .ok none
  | .null => .error .internal
  | .given amount => .ok (some amount)

def update (id : Id) (dto : UpdateStudentDto) (db : Db) : Service (StudentView × Db) := do
  let student ← findOne user id db
  let name := dto.name.toOption.map Js.trim
  let subjectId ← subjectPatch user dto.subjectId student.subjectId db
  let paidLessonsLeft ← balancePatch dto.paidLessonsLeft
  let patch : Db.StudentPatch := ⟨name, subjectId, paidLessonsLeft⟩
  let db ← db.updateStudent student.id patch
  return (db.studentView (patch.apply student), db)

def remove (id : Id) (db : Db) : Service Db := do
  let student ← findOne user id db
  db.deleteStudent student.id

def create (draw : Draw) (dto : CreateStudentDto) (db : Db) : Service (StudentView × Db) := do
  let subjectId ← SubjectsService.resolve user dto.subjectId.toOption none db
  let row : Student :=
    ⟨draw.id, Js.trim dto.name, dto.paidLessonsLeft.getD 0, user.schoolId, user.id, subjectId⟩
  let db ← db.createStudent row
  return (db.studentView row, db)

/-- A subject an edit sets is what the one in the payload resolves to. -/
theorem subjectPatch_resolved {subjectId : Js.Field Id} {current : Option Id} {db : Db}
    {patch : Option (Option Id)} (success : subjectPatch user subjectId current db = .ok patch) :
    ∀ subject ∈ patch,
      SubjectsService.resolve user subjectId.toOption current db = .ok subject := by
  unfold subjectPatch at success
  split at success
  · cases pure_ok.mp success
    simp
  · simp only [bind_ok, pure_ok] at success
    obtain ⟨resolved, resolves, rfl⟩ := success
    rintro subject ⟨⟩
    exact resolves

/-- A subject an edit sets is one of the caller's school. -/
theorem subjectPatch_ok {subjectId : Js.Field Id} {current : Option Id} {db : Db}
    {patch : Option (Option Id)} (success : subjectPatch user subjectId current db = .ok patch) :
    ∀ subject ∈ patch, ∀ id ∈ subject, db.schoolOfSubject id = some user.schoolId :=
  fun subject set => SubjectsService.resolve_ok user (subjectPatch_resolved user success subject set)

section

variable {user} {draw : Draw} {id : Id} {db next : Db} {view : StudentView}

theorem create_ok {dto : CreateStudentDto} : create user draw dto db = .ok (view, next) ↔
    ∃ subjectId, SubjectsService.resolve user dto.subjectId.toOption none db = .ok subjectId ∧
      db.createStudent ⟨draw.id, Js.trim dto.name, dto.paidLessonsLeft.getD 0, user.schoolId,
        user.id, subjectId⟩ = .ok next ∧
      next.studentView ⟨draw.id, Js.trim dto.name, dto.paidLessonsLeft.getD 0, user.schoolId,
        user.id, subjectId⟩ = view := by
  simp only [create, bind_ok, pure_ok, Prod.mk.injEq, exists_eq_right_right]

theorem update_ok {dto : UpdateStudentDto} : update user id dto db = .ok (view, next) ↔
    ∃ student, findOne user id db = .ok student ∧
      ∃ subjectId, subjectPatch user dto.subjectId student.subjectId db = .ok subjectId ∧
        ∃ balance, balancePatch dto.paidLessonsLeft = .ok balance ∧
          db.updateStudent student.id ⟨dto.name.toOption.map Js.trim, subjectId, balance⟩ =
            .ok next ∧
          next.studentView (Db.StudentPatch.apply
            ⟨dto.name.toOption.map Js.trim, subjectId, balance⟩ student) = view := by
  simp only [update, bind_ok, pure_ok, Prod.mk.injEq, exists_eq_right_right]

theorem remove_ok : remove user id db = .ok next ↔
    ∃ student, findOne user id db = .ok student ∧ db.deleteStudent student.id = .ok next := by
  simp only [remove, bind_ok]

end

end StudentsService

end TutorApp
