import TutorApp.Lessons
import TutorApp.Progress

set_option autoImplicit false

namespace TutorApp

open Relational
open Js (Json)

/-- `CHARGED`: the whole cancellation policy. -/
def AttendanceStatus.charged : AttendanceStatus → Bool
  | .present | .late | .absentUnexcused => true
  | .absentExcused => false

structure MarkAttendanceDto where
  studentId : Id
  status : AttendanceStatus
  homeworkDone : Js.Field Bool
  deriving Repr, DecidableEq

structure WriteJournalDto where
  topic : Js.Field String
  homework : Js.Field String
  attendance : Js.Field (List MarkAttendanceDto)
  status : Js.Field LessonStatus
  deriving Repr, DecidableEq

/-- A mark. `comment` of a numeric mark is not validated, so it is whatever was sent. -/
structure WriteGradeDto where
  studentId : Js.Field Id
  kind : GradeKind
  value : Option ℚ
  category : Js.Field String
  comment : Option Json
  weight : Js.Field Nat

structure JournalView where
  view : LessonView
  attendances : List LessonAttendance
  deriving Repr, DecidableEq

structure RegisterEntry where
  attendance : LessonAttendance
  student : Option NamedRef
  deriving Repr, DecidableEq

structure GradeWithAuthor where
  grade : Grade
  author : Option NamedRef
  deriving Repr, DecidableEq

def Db.authorRef (db : Db) (userId : Id) : Option NamedRef :=
  (db.users.find userId).map fun row => ⟨row.id, row.name⟩

def Db.gradeView (db : Db) (grade : Grade) : GradeWithAuthor := ⟨grade, db.authorRef grade.authorId⟩

/-- What a mark does to a balance: charged takes a lesson, uncharged gives one back. -/
def chargeStep (wasCharged isCharged : Bool) : Int :=
  if wasCharged = isCharged then 0 else if isCharged then -1 else 1

/-- What a register says about its lesson; nothing when nobody was marked. -/
def statusFromRegister (marks : List MarkAttendanceDto) : Option LessonStatus :=
  if marks.isEmpty then none
  else if marks.any fun mark => mark.status.charged then some .completed else some .cancelled

/-- The patch of a text field: absent leaves it, blank and null clear it. -/
def textPatch (field : Js.Field String) : Option (Option String) :=
  if field.isAbsent then none else some (Js.blankToNull field.toOption)

namespace GradebookService

/-- Whether the mark a student holds for a lesson is a charged one. -/
def wasCharged (db : Db) (lessonId studentId : Id) : Bool :=
  (db.attendances.find (lessonId, studentId)).any fun row => row.status.charged

/-- `homeworkDone` as the upsert takes it: absent leaves it alone. -/
def homeworkPatch : Js.Field Bool → Option (Option Bool)
  | .absent => none
  | .null => some none
  | .given done => some (some done)

/-- The balance moves when the mark is charged and the one it replaces was not, or the
other way round. -/
def settleFrom (was : Bool) (mark : MarkAttendanceDto) (db : Db) : Service Db :=
  if was != mark.status.charged then
    db.addLessons mark.studentId (chargeStep was mark.status.charged)
  else .ok db

def settle (lessonId : Id) (mark : MarkAttendanceDto) (db : Db) : Service Db :=
  settleFrom (wasCharged db lessonId mark.studentId) mark db

/-- One turn of the loop over the register. -/
def writeMark (lessonId : Id) (mark : MarkAttendanceDto) (db : Db) : Service Db := do
  let db ← settle lessonId mark db
  db.upsertAttendance lessonId mark.studentId mark.status (homeworkPatch mark.homeworkDone)

def writeMarks (lessonId : Id) : List MarkAttendanceDto → Db → Service Db
  | [], db => .ok db
  | mark :: rest, db => do
      let db ← writeMark lessonId mark db
      writeMarks lessonId rest db

/-- The checks on a register before anything is written; an empty one passes. -/
def checkMarks (lessonId : Id) (marks : List MarkAttendanceDto) (db : Db) : Service Unit := do
  let eligible := LessonsService.studentIdsFor lessonId db
  require (marks.all fun mark => eligible.contains mark.studentId)
    (.badRequest "That student is not in this lesson")
  require (decide (marks.map MarkAttendanceDto.studentId).Nodup)
    (.badRequest "One entry per student")

def journalPatch (dto : WriteJournalDto) (marks : List MarkAttendanceDto) : Db.LessonPatch where
  topic := textPatch dto.topic
  homework := textPatch dto.homework
  status := match dto.status with
    | .given status => some status
    | _ => statusFromRegister marks

/-- The columns a payload's words become; a text method on anything else throws. -/
def commentColumn : Option Json → Service (Option String)
  | none | some .null => .ok none
  | some (.str text) => .ok (Js.blankToNull (some text))
  | some _ => .error .internal

def maxPercentage : ℚ := 100

def dataFrom (dto : WriteGradeDto) : Service Db.GradeData := do
  let comment ← commentColumn dto.comment
  return {
    kind := dto.kind
    value := if dto.kind = .descriptive then none else dto.value
    category := Js.blankToNull dto.category.toOption
    comment
    weight := dto.weight.getD 1 }

section

variable (platform : Platform) (user : User)

/-- A register in one transaction with the balances it moves. -/
def writeJournal (lessonId : Id) (dto : WriteJournalDto) (db : Db) : Service (JournalView × Db) := do
  let lesson ← LessonsService.findReachable user lessonId db
  let marks := dto.attendance.getD []
  checkMarks lesson.id marks db
  let patch := journalPatch dto marks
  let db ← writeMarks lesson.id marks db
  let db ← db.updateLesson lesson.id patch
  return (⟨db.lessonView platform (patch.apply lesson),
    db.attendances.select fun row => row.lessonId == lesson.id⟩, db)

def registerFor (lessonId : Id) (db : Db) : Service (List RegisterEntry) := do
  let lesson ← LessonsService.findReachable user lessonId db
  let entries := (db.attendances.select fun row => row.lessonId == lesson.id).map fun row =>
    (⟨row, (db.students.find row.studentId).map fun student => ⟨student.id, student.name⟩⟩ :
      RegisterEntry)
  return sortByText platform (fun entry => (entry.student.map NamedRef.name).getD "") entries

def listForStudent (studentId : Id) (db : Db) : Service (List GradeWithAuthor) := do
  let student ← StudentsService.findOne user studentId db
  return (sortByTimeDesc Grade.createdAt (db.grades.select fun row =>
    row.studentId == student.id)).map db.gradeView

def listForLesson (lessonId : Id) (db : Db) : Service (List GradeWithAuthor) := do
  let lesson ← LessonsService.findReachable user lessonId db
  return (sortByTimeDesc Grade.createdAt (db.grades.select fun row =>
    row.lessonId == some lesson.id)).map db.gradeView

/-- A classic mark's ceiling is the school's. -/
def assertValueInScale (dto : WriteGradeDto) (db : Db) : Service Unit :=
  match dto.kind, dto.value with
  | .descriptive, _ | _, none => return ()
  | .percentage, some value =>
      require (value ≤ maxPercentage) (.badRequest "A percentage cannot exceed 100")
  | .classic, some value =>
      match db.schools.find user.schoolId with
      | none => .error recordNotFound
      | some school => require (value ≤ school.gradeScaleMax)
          (.badRequest s!"This school grades out of {school.gradeScaleMax}")

def gradeRow (draw : Draw) (data : Db.GradeData) (studentId : Id) (lessonId : Option Id) : Grade where
  id := draw.id
  kind := data.kind
  value := data.value
  category := data.category
  comment := data.comment
  weight := data.weight
  createdAt := draw.now
  studentId := studentId
  lessonId := lessonId
  authorId := user.id

/-- The insert both ways of adding a mark end in. -/
def storeGrade (draw : Draw) (dto : WriteGradeDto) (studentId : Id) (lessonId : Option Id)
    (db : Db) : Service (GradeWithAuthor × Db) := do
  assertValueInScale user dto db
  let data ← dataFrom dto
  let row := gradeRow user draw data studentId lessonId
  let db ← db.createGrade row
  return (db.gradeView row, db)

def addForStudent (draw : Draw) (studentId : Id) (dto : WriteGradeDto) (db : Db) :
    Service (GradeWithAuthor × Db) := do
  let student ← StudentsService.findOne user studentId db
  storeGrade user draw dto student.id none db

/-- Whose a mark filed against a lesson is: the lesson's student, or a named member. -/
def resolveMarked (lesson : Lesson) (named : Js.Field Id) (db : Db) : Service Id :=
  match lesson.studentId with
  | some studentId => do
      require (named.isAbsent || named == .given studentId)
        (.badRequest "That student is not in this lesson")
      return studentId
  | none =>
      match named with
      | .absent => .error (.badRequest "A mark on a group lesson must name the student")
      | .null => .error (.badRequest "That student is not in this lesson")
      | .given studentId => do
          require ((LessonsService.studentIdsFor lesson.id db).contains studentId)
            (.badRequest "That student is not in this lesson")
          return studentId

def addForLesson (draw : Draw) (lessonId : Id) (dto : WriteGradeDto) (db : Db) :
    Service (GradeWithAuthor × Db) := do
  let lesson ← LessonsService.findReachable user lessonId db
  let studentId ← resolveMarked lesson dto.studentId db
  storeGrade user draw dto studentId (some lesson.id) db

/-- Reachability through the student, and then authorship. -/
def findWritable (id : Id) (db : Db) : Service Grade := do
  let grade ← orNotFound (db.grades.find id) "Grade not found"
  let _ ← StudentsService.findOne user grade.studentId db
  require (grade.authorId == user.id || user.isAdmin)
    (.forbidden "Only the author can change this grade")
  return grade

/-- A full replacement, never a patch. -/
def update (id : Id) (dto : WriteGradeDto) (db : Db) : Service (GradeWithAuthor × Db) := do
  let grade ← findWritable user id db
  assertValueInScale user dto db
  let data ← dataFrom dto
  let db ← db.updateGrade grade.id data
  return (db.gradeView (data.apply grade), db)

def remove (id : Id) (db : Db) : Service Db := do
  let grade ← findWritable user id db
  db.deleteGrade grade.id

def progressForStudent (studentId : Id) (db : Db) : Service ProgressSummary := do
  let student ← StudentsService.findOne user studentId db
  let lessons := db.lessons.select fun row =>
    row.studentId == some student.id || row.groupId.any fun group => db.isMember group student.id
  let grades := db.grades.select fun row => row.studentId == student.id
  let attendances := db.attendances.select fun row => row.studentId == student.id
  return summariseProgress (lessons.map Lesson.status)
    (grades.map fun row => ⟨row.kind, row.value, row.weight⟩)
    (attendances.map LessonAttendance.status)

end

section

variable {platform : Platform} {user : User} {draw : Draw} {id studentId lessonId : Id}
  {dto : WriteGradeDto} {db next : Db} {view : GradeWithAuthor}

theorem writeMark_ok {mark : MarkAttendanceDto} : writeMark lessonId mark db = .ok next ↔
    ∃ settled, settle lessonId mark db = .ok settled ∧
      settled.upsertAttendance lessonId mark.studentId mark.status
        (homeworkPatch mark.homeworkDone) = .ok next := by
  simp only [writeMark, bind_ok]

theorem writeMarks_cons_ok {mark : MarkAttendanceDto} {rest : List MarkAttendanceDto} :
    writeMarks lessonId (mark :: rest) db = .ok next ↔
      ∃ marked, writeMark lessonId mark db = .ok marked ∧
        writeMarks lessonId rest marked = .ok next := by
  simp only [writeMarks, bind_ok]

theorem checkMarks_ok {marks : List MarkAttendanceDto} {result : Unit} :
    checkMarks lessonId marks db = .ok result ↔
      (∀ mark ∈ marks, mark.studentId ∈ LessonsService.studentIdsFor lessonId db) ∧
        (marks.map MarkAttendanceDto.studentId).Nodup := by
  simp only [checkMarks, bind_ok, require_ok, List.all_eq_true, List.contains_iff_mem,
    decide_eq_true_eq, exists_const]

theorem writeJournal_ok {dto : WriteJournalDto} {journal : JournalView} :
    writeJournal platform user lessonId dto db = .ok (journal, next) ↔
      ∃ lesson, LessonsService.findReachable user lessonId db = .ok lesson ∧
        checkMarks lesson.id (dto.attendance.getD []) db = .ok () ∧
        ∃ written, writeMarks lesson.id (dto.attendance.getD []) db = .ok written ∧
          written.updateLesson lesson.id (journalPatch dto (dto.attendance.getD [])) = .ok next ∧
          (⟨next.lessonView platform ((journalPatch dto (dto.attendance.getD [])).apply lesson),
            next.attendances.select fun row => row.lessonId == lesson.id⟩ : JournalView) =
              journal := by
  simp only [writeJournal, bind_ok, exists_unit_ok, pure_ok, Prod.mk.injEq, exists_eq_right_right]

theorem storeGrade_ok {lesson : Option Id} :
    storeGrade user draw dto studentId lesson db = .ok (view, next) ↔
      assertValueInScale user dto db = .ok () ∧
        ∃ data, dataFrom dto = .ok data ∧
          db.createGrade (gradeRow user draw data studentId lesson) = .ok next ∧
            next.gradeView (gradeRow user draw data studentId lesson) = view := by
  simp only [storeGrade, bind_ok, exists_unit_ok, pure_ok, Prod.mk.injEq, exists_eq_right_right]

theorem addForStudent_ok : addForStudent user draw studentId dto db = .ok (view, next) ↔
    ∃ student, StudentsService.findOne user studentId db = .ok student ∧
      storeGrade user draw dto student.id none db = .ok (view, next) := by
  simp only [addForStudent, bind_ok]

theorem addForLesson_ok : addForLesson user draw lessonId dto db = .ok (view, next) ↔
    ∃ lesson, LessonsService.findReachable user lessonId db = .ok lesson ∧
      ∃ marked, resolveMarked lesson dto.studentId db = .ok marked ∧
        storeGrade user draw dto marked (some lesson.id) db = .ok (view, next) := by
  simp only [addForLesson, bind_ok]

theorem findWritable_ok {grade : Grade} : findWritable user id db = .ok grade ↔
    db.grades.find id = some grade ∧
      (∃ student, StudentsService.findOne user grade.studentId db = .ok student) ∧
        (grade.authorId == user.id || user.isAdmin) = true := by
  simp only [findWritable, bind_ok, orNotFound_ok, require_ok, pure_ok]
  constructor
  · rintro ⟨_, found, student, reached, _, own, rfl⟩
    exact ⟨found, ⟨student, reached⟩, own⟩
  · rintro ⟨found, ⟨student, reached⟩, own⟩
    exact ⟨grade, found, student, reached, (), own, rfl⟩

theorem update_ok : update user id dto db = .ok (view, next) ↔
    ∃ grade, findWritable user id db = .ok grade ∧ assertValueInScale user dto db = .ok () ∧
      ∃ data, dataFrom dto = .ok data ∧ db.updateGrade grade.id data = .ok next ∧
        next.gradeView (data.apply grade) = view := by
  simp only [update, bind_ok, exists_unit_ok, pure_ok, Prod.mk.injEq, exists_eq_right_right]

theorem remove_ok : remove user id db = .ok next ↔
    ∃ grade, findWritable user id db = .ok grade ∧ db.deleteGrade grade.id = .ok next := by
  simp only [remove, bind_ok]

end

end GradebookService

end TutorApp
