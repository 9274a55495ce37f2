import TutorApp.TenantIsolation

set_option autoImplicit false

namespace TutorApp

open Relational

/-- The kinds of rows that a signed-in user names by an id. -/
inductive IdKind where
  | student
  | lesson
  | group
  | subject
  | grade
  | note
  | file
  deriving Repr, DecidableEq

namespace Db

variable {db : Db} {schoolId id : Id} {kind : IdKind}

/-- Whether an id names a row of a kind. -/
def names (db : Db) : IdKind → Id → Bool
  | .student, id => (db.students.find id).isSome
  | .lesson, id => (db.lessons.find id).isSome
  | .group, id => (db.groups.find id).isSome
  | .subject, id => (db.subjects.find id).isSome
  | .grade, id => (db.grades.find id).isSome
  | .note, id => (db.notes.find id).isSome
  | .file, id => (db.files.find id).isSome

/-- The school of the row an id names. -/
def schoolNamed (db : Db) : IdKind → Id → Option Id
  | .student, id => db.schoolOfStudent id
  | .lesson, id => db.schoolOfLesson id
  | .group, id => db.schoolOfGroup id
  | .subject, id => db.schoolOfSubject id
  | .grade, id => (db.grades.find id).bind db.schoolOfGrade
  | .note, id => (db.notes.find id).bind db.schoolOfNote
  | .file, id => (db.files.find id).map File.schoolId

/-- The id names a row of another school than this one. -/
def Foreign (db : Db) (schoolId : Id) (kind : IdKind) (id : Id) : Prop :=
  ∃ other, db.schoolNamed kind id = some other ∧ other ≠ schoolId

/-- The id names no row of the school, be it another school's or nobody's. -/
def Hidden (db : Db) (schoolId : Id) (kind : IdKind) (id : Id) : Prop :=
  db.schoolNamed kind id ≠ some schoolId

theorem Foreign.hidden (foreign : db.Foreign schoolId kind id) : db.Hidden schoolId kind id := by
  obtain ⟨other, named, different⟩ := foreign
  intro own
  exact different (Option.some.inj (named.symm.trans own))

theorem hidden_of_unnamed (unnamed : db.names kind id = false) : db.Hidden schoolId kind id := by
  cases kind <;>
    simp_all [names, Hidden, schoolNamed, schoolOfStudent, schoolOfLesson, schoolOfGroup,
      schoolOfSubject]

end Db

abbrev Filling := IdKind → Id → Id

/-- Two ways to fill the ids of a request in that differ only where neither names a row of
the school. -/
def Db.Interchangeable (db : Db) (schoolId : Id) (left right : Filling) : Prop :=
  ∀ kind id, left kind id = right kind id ∨
    (db.Hidden schoolId kind (left kind id) ∧ db.Hidden schoolId kind (right kind id))

/-- What answers every hidden id alike does not tell the two fillings apart. -/
theorem Db.Interchangeable.apply {α : Type} {db : Db} {schoolId : Id} {left right : Filling}
    (alike : db.Interchangeable schoolId left right) {kind : IdKind} {id : Id} (answer : Id → α)
    {fixed : α} (blind : ∀ id, db.Hidden schoolId kind id → answer id = fixed) :
    answer (left kind id) = answer (right kind id) := by
  rcases alike kind id with same | ⟨first, second⟩
  · rw [same]
  · rw [blind _ first, blind _ second]

/-- An id that was not sent, or sent as `null`, is no id to tell apart. -/
theorem Db.Interchangeable.field {α : Type} {db : Db} {schoolId : Id} {left right : Filling}
    (alike : db.Interchangeable schoolId left right) {kind : IdKind} {field : Js.Field Id}
    (answer : Js.Field Id → α) {fixed : α}
    (blind : ∀ id, db.Hidden schoolId kind id → answer (.given id) = fixed) :
    answer (field.map (left kind)) = answer (field.map (right kind)) := by
  cases field with
  | absent => rfl
  | null => rfl
  | given id => exact alike.apply (fun id => answer (.given id)) blind

def CreateStudentDto.fill (ids : Filling) (dto : CreateStudentDto) : CreateStudentDto :=
  { dto with subjectId := dto.subjectId.map (ids .subject) }

def UpdateStudentDto.fill (ids : Filling) (dto : UpdateStudentDto) : UpdateStudentDto :=
  { dto with subjectId := dto.subjectId.map (ids .subject) }

def CreateGroupDto.fill (ids : Filling) (dto : CreateGroupDto) : CreateGroupDto :=
  { dto with subjectId := ids .subject dto.subjectId }

def UpdateGroupDto.fill (ids : Filling) (dto : UpdateGroupDto) : UpdateGroupDto :=
  { dto with subjectId := dto.subjectId.map (ids .subject) }

def CreateLessonDto.fill (ids : Filling) (dto : CreateLessonDto) : CreateLessonDto :=
  { dto with
    studentId := dto.studentId.map (ids .student)
    groupId := dto.groupId.map (ids .group)
    subjectId := dto.subjectId.map (ids .subject) }

@[simp] theorem CreateLessonDto.fill_startsAt (ids : Filling) (dto : CreateLessonDto) :
    (dto.fill ids).startsAt = dto.startsAt := rfl

@[simp] theorem CreateLessonDto.fill_durationMinutes (ids : Filling) (dto : CreateLessonDto) :
    (dto.fill ids).durationMinutes = dto.durationMinutes := rfl

def MarkAttendanceDto.fill (ids : Filling) (mark : MarkAttendanceDto) : MarkAttendanceDto :=
  { mark with studentId := ids .student mark.studentId }

def WriteJournalDto.fill (ids : Filling) (dto : WriteJournalDto) : WriteJournalDto :=
  { dto with attendance := dto.attendance.map fun marks => marks.map (MarkAttendanceDto.fill ids) }

theorem WriteJournalDto.fill_marks (ids : Filling) (dto : WriteJournalDto) :
    (dto.fill ids).attendance.getD [] =
      (dto.attendance.getD []).map (MarkAttendanceDto.fill ids) := by
  cases attendance : dto.attendance <;> simp [fill, attendance, Js.Field.map, Js.Field.getD]

def WriteGradeDto.fill (ids : Filling) (dto : WriteGradeDto) : WriteGradeDto :=
  { dto with studentId := dto.studentId.map (ids .student) }

namespace Query

/-- The same read with other ids in the same places. -/
def fill (ids : Filling) : Query → Query
  | subjectUsage id => subjectUsage (ids .subject id)
  | showStudent id => showStudent (ids .student id)
  | showGroup id => showGroup (ids .group id)
  | lessonsForStudent studentId limit => lessonsForStudent (ids .student studentId) limit
  | register lessonId => register (ids .lesson lessonId)
  | gradesForStudent studentId => gradesForStudent (ids .student studentId)
  | gradesForLesson lessonId => gradesForLesson (ids .lesson lessonId)
  | progress studentId => progress (ids .student studentId)
  | notesForStudent studentId => notesForStudent (ids .student studentId)
  | notesForLesson lessonId => notesForLesson (ids .lesson lessonId)
  | filesForStudent studentId => filesForStudent (ids .student studentId)
  | filesForLesson lessonId => filesForLesson (ids .lesson lessonId)
  | asked => asked

end Query

namespace Command

/-- The same write with other ids in the same places. -/
def fill (ids : Filling) : Command → Command
  | renameSubject id name => renameSubject (ids .subject id) name
  | hideSubject id => hideSubject (ids .subject id)
  | restoreSubject id => restoreSubject (ids .subject id)
  | createStudent dto => createStudent (dto.fill ids)
  | updateStudent id dto => updateStudent (ids .student id) (dto.fill ids)
  | removeStudent id => removeStudent (ids .student id)
  | createGroup dto => createGroup (dto.fill ids)
  | updateGroup id dto => updateGroup (ids .group id) (dto.fill ids)
  | removeGroup id => removeGroup (ids .group id)
  | addMember groupId studentId => addMember (ids .group groupId) (ids .student studentId)
  | removeMember groupId studentId => removeMember (ids .group groupId) (ids .student studentId)
  | createLesson dto => createLesson (dto.fill ids)
  | updateLessonStatus id status => updateLessonStatus (ids .lesson id) status
  | writeJournal lessonId dto => writeJournal (ids .lesson lessonId) (dto.fill ids)
  | addGradeForStudent studentId dto => addGradeForStudent (ids .student studentId) (dto.fill ids)
  | addGradeForLesson lessonId dto => addGradeForLesson (ids .lesson lessonId) (dto.fill ids)
  | updateGrade id dto => updateGrade (ids .grade id) (dto.fill ids)
  | removeGrade id => removeGrade (ids .grade id)
  | addNoteForStudent studentId text => addNoteForStudent (ids .student studentId) text
  | addNoteForLesson lessonId text => addNoteForLesson (ids .lesson lessonId) text
  | removeNote id => removeNote (ids .note id)
  | uploadForStudent studentId incoming => uploadForStudent (ids .student studentId) incoming
  | uploadForLesson lessonId incoming => uploadForLesson (ids .lesson lessonId) incoming
  | openFile id => openFile (ids .file id)
  | removeFile id => removeFile (ids .file id)
  | asked => asked

/-- The id a write looks a row up by before it asks whose row that is. -/
def lookedUpFirst : Command → Option (IdKind × Id)
  | updateGrade id _ => some (.grade, id)
  | removeGrade id => some (.grade, id)
  | removeNote id => some (.note, id)
  | _ => none

end Command

section

variable {platform : Platform} {user : User} {draw : Draw} {db : Db} {id : Id}

/-- A check on the school of a row lets no hidden row through. -/
theorem Db.filter_hidden {ρ : Type} {found : Option ρ} {column : ρ → Id} {check : ρ → Bool}
    {schoolId : Id} (hidden : found.map column ≠ some schoolId)
    (narrow : ∀ row, check row = true → column row = schoolId) : found.filter check = none := by
  rw [Option.filter_eq_none_iff]
  intro row named passes
  apply hidden
  rw [named, Option.map_some, narrow row passes]

theorem SubjectsService.findOne_hidden (hidden : db.Hidden user.schoolId .subject id) :
    findOne user id db = .error (.notFound "Subject not found") := by
  rw [findOne, Db.filter_hidden hidden fun _ passes => beq_iff_eq.mp passes]
  rfl

theorem StudentsService.findOne_hidden (hidden : db.Hidden user.schoolId .student id) :
    findOne user id db = .error (.notFound "Student not found") := by
  rw [findOne, Db.filter_hidden hidden fun _ passes => beq_iff_eq.mp passes]
  rfl

theorem GroupsService.findOne_hidden (hidden : db.Hidden user.schoolId .group id) :
    findOne user id db = .error (.notFound "Group not found") := by
  rw [findOne, Db.filter_hidden hidden fun _ passes => User.owns_school passes]
  rfl

theorem LessonsService.findReachable_hidden (hidden : db.Hidden user.schoolId .lesson id) :
    findReachable user id db = .error (.notFound "Lesson not found") := by
  rw [findReachable, Db.filter_hidden hidden fun _ passes => User.owns_school passes]
  rfl

theorem FilesService.findReachable_hidden (hidden : db.Hidden user.schoolId .file id) :
    findReachable user id db = .error (.notFound "File not found") := by
  rw [findReachable, Db.filter_hidden hidden fun _ passes => beq_iff_eq.mp passes]
  rfl

variable {left right : Filling}

theorem SubjectsService.findOne_fill (alike : db.Interchangeable user.schoolId left right) :
    findOne user (left .subject id) db = findOne user (right .subject id) db :=
  alike.apply (fun id => findOne user id db) fun _ hidden => findOne_hidden hidden

theorem StudentsService.findOne_fill (alike : db.Interchangeable user.schoolId left right) :
    findOne user (left .student id) db = findOne user (right .student id) db :=
  alike.apply (fun id => findOne user id db) fun _ hidden => findOne_hidden hidden

theorem GroupsService.findOne_fill (alike : db.Interchangeable user.schoolId left right) :
    findOne user (left .group id) db = findOne user (right .group id) db :=
  alike.apply (fun id => findOne user id db) fun _ hidden => findOne_hidden hidden

theorem LessonsService.findReachable_fill (alike : db.Interchangeable user.schoolId left right) :
    findReachable user (left .lesson id) db = findReachable user (right .lesson id) db :=
  alike.apply (fun id => findReachable user id db) fun _ hidden => findReachable_hidden hidden

theorem FilesService.findReachable_fill (alike : db.Interchangeable user.schoolId left right) :
    findReachable user (left .file id) db = findReachable user (right .file id) db :=
  alike.apply (fun id => findReachable user id db) fun _ hidden => findReachable_hidden hidden

theorem SubjectsService.resolve_fill {current subjectId : Option Id}
    (alike : db.Interchangeable user.schoolId left right) :
    resolve user (subjectId.map (left .subject)) current db =
      resolve user (subjectId.map (right .subject)) current db := by
  cases subjectId with
  | none => rfl
  | some id => simp only [Option.map_some, resolve, findOne_fill alike]

theorem StudentsService.subjectPatch_fill {current : Option Id} {field : Js.Field Id}
    (alike : db.Interchangeable user.schoolId left right) :
    subjectPatch user (field.map (left .subject)) current db =
      subjectPatch user (field.map (right .subject)) current db := by
  simp only [subjectPatch, Js.Field.isAbsent_map, Js.Field.toOption_map,
    SubjectsService.resolve_fill alike]

theorem StudentsService.create_fill {dto : CreateStudentDto}
    (alike : db.Interchangeable user.schoolId left right) :
    create user draw (dto.fill left) db = create user draw (dto.fill right) db := by
  simp only [create, CreateStudentDto.fill, Js.Field.toOption_map,
    SubjectsService.resolve_fill alike]

theorem StudentsService.update_fill {dto : UpdateStudentDto}
    (alike : db.Interchangeable user.schoolId left right) :
    update user (left .student id) (dto.fill left) db =
      update user (right .student id) (dto.fill right) db := by
  simp only [update, UpdateStudentDto.fill, findOne_fill alike, subjectPatch_fill alike]

theorem GroupsService.create_fill {dto : CreateGroupDto}
    (alike : db.Interchangeable user.schoolId left right) :
    create platform user draw (dto.fill left) db = create platform user draw (dto.fill right) db := by
  have subject : SubjectsService.resolve user (some (left .subject dto.subjectId)) none db =
      SubjectsService.resolve user (some (right .subject dto.subjectId)) none db :=
    @SubjectsService.resolve_fill _ _ _ _ none (some dto.subjectId) alike
  simp only [create, CreateGroupDto.fill, subject]

theorem GroupsService.update_fill {dto : UpdateGroupDto}
    (alike : db.Interchangeable user.schoolId left right) :
    update platform user (left .group id) (dto.fill left) db =
      update platform user (right .group id) (dto.fill right) db := by
  simp only [update, UpdateGroupDto.fill, findOne_fill alike,
    StudentsService.subjectPatch_fill alike]

theorem GroupsService.addMember_fill {groupId studentId : Id}
    (alike : db.Interchangeable user.schoolId left right) :
    addMember platform user (left .group groupId) (left .student studentId) db =
      addMember platform user (right .group groupId) (right .student studentId) db := by
  simp only [addMember, findOne_fill alike, StudentsService.findOne_fill alike]

/-- A group of the school has no member whose id is hidden, so removing one changes nothing. -/
theorem Db.deleteMember_hidden {groupId studentId schoolId : Id} (tenanted : db.Tenanted)
    (home : db.home (.group groupId) = some schoolId)
    (hidden : db.Hidden schoolId .student studentId) : db.deleteMember groupId studentId = db := by
  have untouched : ∀ row ∈ db.members.rows,
      (row.groupId == groupId && row.studentId == studentId) = false := by
    intro row member
    rw [Bool.eq_false_iff]
    intro selected
    simp only [Bool.and_eq_true, beq_iff_eq] at selected
    have belongs : db.Belongs schoolId (.member row) :=
      Tenanted.belongs_via tenanted _ member List.mem_cons_self (selected.1 ▸ home)
    exact hidden (selected.2 ▸ (belongs_member.mp belongs).2)
  simp only [deleteMember, Table.delete_none untouched]

theorem GroupsService.removeMember_fill {groupId studentId : Id} (tenanted : db.Tenanted)
    (alike : db.Interchangeable user.schoolId left right) :
    removeMember platform user (left .group groupId) (left .student studentId) db =
      removeMember platform user (right .group groupId) (right .student studentId) db := by
  simp only [removeMember, findOne_fill alike]
  apply bind_congr_ok
  intro group found
  have home := findOne_home found
  have same : db.deleteMember group.id (left .student studentId) =
      db.deleteMember group.id (right .student studentId) :=
    alike.apply (fun id => db.deleteMember group.id id) fun _ hidden =>
      Db.deleteMember_hidden tenanted home hidden
  rw [same]

theorem LessonsService.bookingTarget_fill {dto : CreateLessonDto}
    (alike : db.Interchangeable user.schoolId left right) :
    bookingTarget user (dto.fill left) db = bookingTarget user (dto.fill right) db := by
  simp only [bookingTarget, CreateLessonDto.fill, Js.Field.isAbsent_map]
  split
  · cases dto.studentId with
    | given id =>
        simp only [Js.Field.map, queryId, ok_bind, StudentsService.findOne_fill alike]
    | absent => rfl
    | null => rfl
  · cases dto.groupId with
    | given id => simp only [Js.Field.map, queryId, ok_bind, GroupsService.findOne_fill alike]
    | absent => rfl
    | null => rfl

theorem LessonsService.storeLesson_fill {dto : CreateLessonDto} {subjectId : Option Id}
    {meeting : Option (MeetingProvider × String)}
    (alike : db.Interchangeable user.schoolId left right) :
    storeLesson platform user draw (dto.fill left) subjectId meeting db =
      storeLesson platform user draw (dto.fill right) subjectId meeting db := by
  simp only [storeLesson, bookingTarget_fill alike]
  rfl

theorem LessonsService.checkBooking_fill {dto : CreateLessonDto}
    (alike : db.Interchangeable user.schoolId left right) :
    checkBooking user (dto.fill left) db = checkBooking user (dto.fill right) db := by
  simp only [checkBooking, CreateLessonDto.fill, Js.Field.isAbsent_map, Js.Field.toOption_map,
    SubjectsService.resolve_fill alike]

/-- Both bookings arrange the same room before either is refused. -/
theorem LessonsService.create_fill {endpoints : Endpoints} {dto : CreateLessonDto}
    (alike : db.Interchangeable user.schoolId left right) :
    create platform user draw endpoints (dto.fill left) db =
      create platform user draw endpoints (dto.fill right) db := by
  unfold create
  dsimp only
  rw [checkBooking_fill alike]
  split
  · rfl
  · rename_i subjectId _
    obtain ⟨accounts, same⟩ := meetingFor_db platform user draw endpoints subjectId
      (platform.parseDate dto.startsAt) dto.durationMinutes db
    have stored : ∀ link, storeLesson platform user draw (dto.fill left) subjectId link
        { db with meetingAccounts := accounts } =
        storeLesson platform user draw (dto.fill right) subjectId link
          { db with meetingAccounts := accounts } := fun _ => storeLesson_fill alike
    simp only [CreateLessonDto.fill_startsAt, CreateLessonDto.fill_durationMinutes, same, stored]

/-- A register that names a hidden student is refused, whichever it is. -/
theorem GradebookService.checkMarks_hidden {lessonId schoolId : Id}
    {marks : List MarkAttendanceDto} {mark : MarkAttendanceDto} (tenanted : db.Tenanted)
    (home : db.home (.lesson lessonId) = some schoolId) (member : mark ∈ marks)
    (hidden : db.Hidden schoolId .student mark.studentId) :
    checkMarks lessonId marks db = .error (.badRequest "That student is not in this lesson") := by
  have stranger : mark.studentId ∉ LessonsService.studentIdsFor lessonId db := fun eligible =>
    hidden (LessonsService.studentIdsFor_home tenanted home eligible)
  have refused : (marks.all fun mark =>
      (LessonsService.studentIdsFor lessonId db).contains mark.studentId) = false := by
    rw [Bool.eq_false_iff, ne_eq, List.all_eq_true]
    intro all
    exact stranger (List.contains_iff_mem.mp (all mark member))
  simp only [checkMarks, refused, require, Bool.false_eq_true, ↓reduceIte, error_bind]

theorem GradebookService.writeJournal_fill {lessonId : Id} {dto : WriteJournalDto}
    (tenanted : db.Tenanted) (alike : db.Interchangeable user.schoolId left right) :
    writeJournal platform user (left .lesson lessonId) (dto.fill left) db =
      writeJournal platform user (right .lesson lessonId) (dto.fill right) db := by
  simp only [writeJournal, LessonsService.findReachable_fill alike]
  apply bind_congr_ok
  intro lesson found
  have home := LessonsService.findReachable_home found
  by_cases same : ∀ mark ∈ dto.attendance.getD [], mark.fill left = mark.fill right
  · have marks : dto.fill left = dto.fill right := by
      cases attendance : dto.attendance with
      | given marks =>
          rw [attendance] at same
          have filled : marks.map (MarkAttendanceDto.fill left) =
              marks.map (MarkAttendanceDto.fill right) := List.map_congr_left same
          simp only [WriteJournalDto.fill, attendance, Js.Field.map, filled]
      | absent => simp only [WriteJournalDto.fill, attendance, Js.Field.map]
      | null => simp only [WriteJournalDto.fill, attendance, Js.Field.map]
    rw [marks]
  · simp only [not_forall] at same
    obtain ⟨mark, member, differs⟩ := same
    rcases alike .student mark.studentId with agreed | ⟨first, second⟩
    · exact absurd (by simp only [MarkAttendanceDto.fill, agreed]) differs
    · rw [WriteJournalDto.fill_marks, WriteJournalDto.fill_marks,
        checkMarks_hidden tenanted home (List.mem_map_of_mem member) first,
        checkMarks_hidden tenanted home (List.mem_map_of_mem member) second]
      rfl

/-- A mark filed against a lesson of the school is for nobody hidden. -/
theorem GradebookService.resolveMarked_hidden {lesson : Lesson} {lessonId : Id}
    (tenanted : db.Tenanted) (found : LessonsService.findReachable user lessonId db = .ok lesson)
    (hidden : db.Hidden user.schoolId .student id) :
    resolveMarked lesson (.given id) db =
      .error (.badRequest "That student is not in this lesson") := by
  have home := LessonsService.findReachable_home found
  have stranger : id ∉ LessonsService.studentIdsFor lesson.id db := fun eligible =>
    hidden (LessonsService.studentIdsFor_home tenanted home eligible)
  have lookup : db.lessons.find lesson.id = some lesson :=
    Table.find_key (Table.find_eq_some.mp ((LessonsService.findReachable_ok user).mp found).1).1
  unfold resolveMarked
  split
  · rename_i studentId named
    have different : id ≠ studentId := by
      rintro rfl
      simp [LessonsService.studentIdsFor, lookup, named] at stranger
    simp [Js.Field.isAbsent, require, different]
  · simp [require, stranger]

theorem GradebookService.addForStudent_fill {studentId : Id} {dto : WriteGradeDto}
    (alike : db.Interchangeable user.schoolId left right) :
    addForStudent user draw (left .student studentId) (dto.fill left) db =
      addForStudent user draw (right .student studentId) (dto.fill right) db := by
  simp only [addForStudent, StudentsService.findOne_fill alike]
  rfl

theorem GradebookService.addForLesson_fill {lessonId : Id} {dto : WriteGradeDto}
    (tenanted : db.Tenanted) (alike : db.Interchangeable user.schoolId left right) :
    addForLesson user draw (left .lesson lessonId) (dto.fill left) db =
      addForLesson user draw (right .lesson lessonId) (dto.fill right) db := by
  simp only [addForLesson, LessonsService.findReachable_fill alike]
  apply bind_congr_ok
  intro lesson found
  have marked : resolveMarked lesson (dto.fill left).studentId db =
      resolveMarked lesson (dto.fill right).studentId db :=
    alike.field (fun field => resolveMarked lesson field db) fun _ hidden =>
      resolveMarked_hidden tenanted found hidden
  rw [marked]
  rfl

theorem Query.read_fill {asked : Query} (alike : db.Interchangeable user.schoolId left right) :
    (asked.fill left).read platform user draw db =
      (asked.fill right).read platform user draw db := by
  cases asked with
  | subjectUsage id =>
      simp only [fill, read, SubjectsService.usage, SubjectsService.findOne_fill alike]
  | showStudent id => simp only [fill, read, StudentsService.findOne_fill alike]
  | showGroup id => simp only [fill, read, GroupsService.detail, GroupsService.findOne_fill alike]
  | lessonsForStudent studentId limit =>
      simp only [fill, read, LessonsService.findForStudent, StudentsService.findOne_fill alike]
  | register lessonId =>
      simp only [fill, read, GradebookService.registerFor, LessonsService.findReachable_fill alike]
  | gradesForStudent studentId =>
      simp only [fill, read, GradebookService.listForStudent, StudentsService.findOne_fill alike]
  | gradesForLesson lessonId =>
      simp only [fill, read, GradebookService.listForLesson, LessonsService.findReachable_fill alike]
  | progress studentId =>
      simp only [fill, read, GradebookService.progressForStudent, StudentsService.findOne_fill alike]
  | notesForStudent studentId =>
      simp only [fill, read, NotesService.listForStudent, StudentsService.findOne_fill alike]
  | notesForLesson lessonId =>
      simp only [fill, read, NotesService.listForLesson, LessonsService.findReachable_fill alike]
  | filesForStudent studentId =>
      simp only [fill, read, FilesService.listForStudent, StudentsService.findOne_fill alike]
  | filesForLesson lessonId =>
      simp only [fill, read, FilesService.listForLesson, LessonsService.findReachable_fill alike]
  | _ => rfl

theorem FilesService.upload_fill {saves : Bool} {incoming : IncomingFile} {world : World}
    {first second : Db → Service UploadTarget} (same : first world.db = second world.db) :
    upload platform user draw saves first incoming world =
      upload platform user draw saves second incoming world := by
  simp only [upload, beginUpload, same]

/-- A write that checks whose row it is before anything else cannot tell hidden ids apart. -/
theorem Command.run_fill {outside : Outside} {world : World} {asked : Command}
    (tenanted : world.db.Tenanted) (alike : world.db.Interchangeable user.schoolId left right)
    (checked : ∀ kind id, asked.lookedUpFirst = some (kind, id) → left kind id = right kind id) :
    (asked.fill left).run platform user outside world =
      (asked.fill right).run platform user outside world := by
  cases asked with
  | renameSubject id name =>
      simp only [fill, run, SubjectsService.rename, SubjectsService.findOne_fill alike]
  | hideSubject id =>
      simp only [fill, run, SubjectsService.hide, SubjectsService.usage,
        SubjectsService.findOne_fill alike]
  | restoreSubject id =>
      simp only [fill, run, SubjectsService.restore, SubjectsService.findOne_fill alike]
  | createStudent dto => simp only [fill, run, StudentsService.create_fill alike]
  | updateStudent id dto => simp only [fill, run, StudentsService.update_fill alike]
  | removeStudent id =>
      simp only [fill, run, StudentsService.remove, StudentsService.findOne_fill alike]
  | createGroup dto => simp only [fill, run, GroupsService.create_fill alike]
  | updateGroup id dto => simp only [fill, run, GroupsService.update_fill alike]
  | removeGroup id => simp only [fill, run, GroupsService.remove, GroupsService.findOne_fill alike]
  | addMember groupId studentId => simp only [fill, run, GroupsService.addMember_fill alike]
  | removeMember groupId studentId =>
      simp only [fill, run, GroupsService.removeMember_fill tenanted alike]
  | createLesson dto => simp only [fill, run, LessonsService.create_fill alike]
  | updateLessonStatus id status =>
      simp only [fill, run, LessonsService.updateStatus, LessonsService.findReachable_fill alike]
  | writeJournal lessonId dto =>
      simp only [fill, run, GradebookService.writeJournal_fill tenanted alike]
  | addGradeForStudent studentId dto =>
      simp only [fill, run, GradebookService.addForStudent_fill alike]
  | addGradeForLesson lessonId dto =>
      simp only [fill, run, GradebookService.addForLesson_fill tenanted alike]
  | updateGrade id dto =>
      have same := checked .grade id rfl
      simp only [fill, same]
      rfl
  | removeGrade id => simp only [fill, checked .grade id rfl]
  | addNoteForStudent studentId text =>
      simp only [fill, run, NotesService.addForStudent, StudentsService.findOne_fill alike]
  | addNoteForLesson lessonId text =>
      simp only [fill, run, NotesService.addForLesson, LessonsService.findReachable_fill alike]
  | removeNote id => simp only [fill, checked .note id rfl]
  | uploadForStudent studentId incoming =>
      have same : FilesService.studentTarget user (left .student studentId) world.db =
          FilesService.studentTarget user (right .student studentId) world.db := by
        simp only [FilesService.studentTarget, StudentsService.findOne_fill alike]
      simp only [fill, run, FilesService.uploadForStudent, FilesService.upload_fill same]
  | uploadForLesson lessonId incoming =>
      have same : FilesService.lessonTarget user (left .lesson lessonId) world.db =
          FilesService.lessonTarget user (right .lesson lessonId) world.db := by
        simp only [FilesService.lessonTarget, LessonsService.findReachable_fill alike]
      simp only [fill, run, FilesService.uploadForLesson, FilesService.upload_fill same]
  | openFile id =>
      simp only [fill, run, FilesService.open_, FilesService.findReachable_fill alike]
  | removeFile id =>
      simp only [fill, run, FilesService.remove, FilesService.removeRow,
        FilesService.findReachable_fill alike]
  | _ => rfl

theorem GradebookService.findWritable_unnamed (unnamed : db.names .grade id = false) :
    findWritable user id db = .error (.notFound "Grade not found") := by
  have missing : db.grades.find id = none := by simpa [Db.names] using unnamed
  simp only [findWritable, missing, orNotFound, error_bind]

theorem GradebookService.findWritable_foreign (foreign : db.Foreign user.schoolId .grade id) :
    findWritable user id db = .error (.notFound "Student not found") := by
  obtain ⟨other, named, different⟩ := foreign
  obtain ⟨grade, found, school⟩ := Option.bind_eq_some_iff.mp named
  have hidden : db.Hidden user.schoolId .student grade.studentId :=
    Db.Foreign.hidden ⟨other, school, different⟩
  simp only [findWritable, found, orNotFound, ok_bind, StudentsService.findOne_hidden hidden,
    error_bind]

theorem NotesService.remove_unnamed (unnamed : db.names .note id = false) :
    remove user id db = .error (.notFound "Note not found") := by
  have missing : db.notes.find id = none := by simpa [Db.names] using unnamed
  simp only [remove, missing, orNotFound, error_bind]

/-- The answer gives away that the note is there, and what it hangs off. -/
theorem NotesService.remove_foreign (foreign : db.Foreign user.schoolId .note id) :
    remove user id db = .error (.notFound "Student not found") ∨
      remove user id db = .error (.notFound "Lesson not found") := by
  obtain ⟨other, named, different⟩ := foreign
  obtain ⟨note, found, school⟩ := Option.bind_eq_some_iff.mp named
  simp only [Db.schoolOfNote] at school
  split at school
  · rename_i studentId ofStudent
    have hidden : db.Hidden user.schoolId .student studentId :=
      Db.Foreign.hidden ⟨other, school, different⟩
    left
    simp only [remove, found, orNotFound, ok_bind, ofStudent, LessonsService.reachesStudent,
      StudentsService.findOne_hidden hidden, error_bind]
  · rename_i lessonId ofNobody ofLesson
    have hidden : db.Hidden user.schoolId .lesson lessonId :=
      Db.Foreign.hidden ⟨other, school, different⟩
    right
    simp only [remove, found, orNotFound, ok_bind, ofNobody, ofLesson,
      LessonsService.reachesStudent, LessonsService.reachesLesson,
      LessonsService.findReachable_hidden hidden, error_bind]
  · cases school

/-- The same requests but for ids that name rows of another school in the one and no rows in
the other: `left` and `right` may disagree on such ids only. -/
def Db.Swapped (db : Db) (schoolId : Id) (left right : Filling) : Prop :=
  ∀ kind id, left kind id = right kind id ∨
    (db.Foreign schoolId kind (left kind id) ∧ db.names kind (right kind id) = false)

theorem Db.Swapped.interchangeable {schoolId : Id} (swapped : db.Swapped schoolId left right) :
    db.Interchangeable schoolId left right := by
  intro kind id
  rcases swapped kind id with same | ⟨foreign, unnamed⟩
  · exact .inl same
  · exact .inr ⟨foreign.hidden, Db.hidden_of_unnamed unnamed⟩

/-- A write that looks a row up first answers the two fillings with different messages. -/
theorem Command.run_tells_apart {outside : Outside} {world : World} {asked : Command}
    {kind : IdKind} (exposed : asked.lookedUpFirst = some (kind, id))
    (foreign : world.db.Foreign user.schoolId kind (left kind id))
    (unnamed : world.db.names kind (right kind id) = false) :
    ((asked.fill left).run platform user outside world).result ≠
      ((asked.fill right).run platform user outside world).result := by
  cases asked with
  | updateGrade id dto =>
      cases exposed
      simp [fill, run, GradebookService.update, GradebookService.findWritable_foreign foreign,
        GradebookService.findWritable_unnamed unnamed, World.commit]
  | removeGrade id =>
      cases exposed
      simp [fill, run, GradebookService.remove, GradebookService.findWritable_foreign foreign,
        GradebookService.findWritable_unnamed unnamed, World.commitUnit]
  | removeNote id =>
      cases exposed
      rcases NotesService.remove_foreign foreign with answer | answer <;>
        simp [fill, run, answer, NotesService.remove_unnamed unnamed, World.commitUnit]
  | _ => cases exposed

/-- Another school's id gets the answer of an id nobody has, on every read, and on every write
exactly when it does not stand where a grade or a note is looked up by its id alone. -/
theorem foreign_answered_as_missing {outside : Outside} {world : World} {userId : Id}
    (reachable : Reachable platform world) (caller : world.db.users.find userId = some user)
    (swapped : world.db.Swapped user.schoolId left right) :
    (∀ asked : Query,
      (Request.query userId (asked.fill left)).serve platform outside world =
        (Request.query userId (asked.fill right)).serve platform outside world) ∧
      ∀ asked : Command,
        (Request.command userId (asked.fill left)).serve platform outside world =
            (Request.command userId (asked.fill right)).serve platform outside world ↔
          ∀ kind id, asked.lookedUpFirst = some (kind, id) → left kind id = right kind id := by
  have alike := swapped.interchangeable
  simp only [Request.serve, caller]
  constructor
  · intro asked
    rw [Query.read_fill alike]
  · intro asked
    constructor
    · intro same kind id exposed
      rcases swapped kind id with agreed | ⟨foreign, unnamed⟩
      · exact agreed
      · exact absurd (congrArg Outcome.result same)
          (Command.run_tells_apart exposed foreign unnamed)
    · exact Command.run_fill reachable.tenanted alike

/-- A mark in the second school, which the first school's admin names. -/
def owlGrade : Outside × Request :=
  (.quiet "g1", .command "a2" (.addGradeForStudent "k2"
    { studentId := .absent
      kind := .classic
      value := some 10
      category := .absent
      comment := none
      weight := .absent }))

def gradedOwls : World :=
  World.empty.after .plain [foxSchool, owlSchool, enrol "a2" "k2" "Lee", owlGrade]

theorem gradedOwls_foreign : gradedOwls.db.Foreign "s1" .grade "g1" := ⟨"s2", by decide, by decide⟩

/-- Removing another school's grade and removing no grade end in different messages. -/
theorem foreign_grade_given_away :
    Reachable .plain gradedOwls ∧ gradedOwls.db.users.find "a1" = some foxAdmin ∧
      gradedOwls.db.Foreign "s1" .grade "g1" ∧ gradedOwls.db.names .grade "g0" = false ∧
      ((Request.command "a1" (.removeGrade "g1")).serve .plain (.quiet "") gradedOwls).result =
        .error (.notFound "Student not found") ∧
      ((Request.command "a1" (.removeGrade "g0")).serve .plain (.quiet "") gradedOwls).result =
        .error (.notFound "Grade not found") :=
  ⟨.after .plain .refl _, by decide, gradedOwls_foreign, by decide, rfl, rfl⟩

/-- The foreign grade in place of every grade, and none in place of every grade. -/
theorem foreign_grade_answers :
    let foreign : Filling := fun kind id => if kind = .grade then "g1" else id
    let missing : Filling := fun kind id => if kind = .grade then "g0" else id
    (∀ asked : Query,
      (Request.query "a1" (asked.fill foreign)).serve .plain (.quiet "") gradedOwls =
        (Request.query "a1" (asked.fill missing)).serve .plain (.quiet "") gradedOwls) ∧
      ∀ asked : Command,
        (Request.command "a1" (asked.fill foreign)).serve .plain (.quiet "") gradedOwls =
            (Request.command "a1" (asked.fill missing)).serve .plain (.quiet "") gradedOwls ↔
          ∀ kind id, asked.lookedUpFirst = some (kind, id) → foreign kind id = missing kind id := by
  intro foreign missing
  have caller : gradedOwls.db.users.find "a1" = some foxAdmin := by decide
  have swapped : gradedOwls.db.Swapped foxAdmin.schoolId foreign missing := by
    intro kind id
    by_cases graded : kind = .grade
    · subst graded
      have missing : gradedOwls.db.names .grade "g0" = false := by decide
      exact .inr ⟨gradedOwls_foreign, missing⟩
    · left
      simp only [foreign, missing, graded, ↓reduceIte]
  exact foreign_answered_as_missing (.after .plain .refl _) caller swapped

end

end TutorApp
