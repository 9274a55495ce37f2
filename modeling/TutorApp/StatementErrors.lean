import TutorApp.TenantIsolation

set_option autoImplicit false

namespace TutorApp

open Relational

/-- A call that ends in an error of the server's own. -/
def Crashes {α : Type} (result : Service α) : Prop := result = .error .internal

section

variable {α β : Type}

@[simp] theorem crashes_ok {value : α} : ¬ Crashes (.ok value : Service α) := nofun

@[simp] theorem crashes_pure {value : α} : ¬ Crashes (pure value : Service α) := nofun

@[simp] theorem crashes_error {reason : HttpError} :
    Crashes (.error reason : Service α) ↔ reason = .internal := by
  simp [Crashes]

@[simp] theorem crashes_functor {first : Service α} {f : α → β} :
    Crashes (f <$> first) ↔ Crashes first := by
  cases first with
  | error reason => simp [Crashes]
  | ok value => simp [Crashes]

@[simp] theorem crashes_bind {first : Service α} {next : α → Service β} :
    Crashes (first >>= next) ↔ Crashes first ∨ ∃ value, first = .ok value ∧ Crashes (next value) := by
  cases first with
  | error reason => simp [Crashes]
  | ok value => simp [Crashes]

@[simp] theorem crashes_map {first : Service α} {f : α → β} : Crashes (first.map f) ↔ Crashes first := by
  cases first with
  | error reason => simp [Crashes, Except.map]
  | ok value => simp [Crashes, Except.map]

@[simp] theorem crashes_require {condition : Bool} {reason : HttpError} :
    Crashes (require condition reason) ↔ condition = false ∧ reason = .internal := by
  unfold require
  cases condition <;> simp [Crashes]

@[simp] theorem crashes_refuse {reason : Option HttpError} :
    Crashes (refuse reason) ↔ reason = some .internal := by
  cases reason <;> simp [Crashes, refuse]

@[simp] theorem crashes_orNotFound {found : Option α} {message : String} :
    ¬ Crashes (orNotFound found message) := by
  cases found <;> simp [Crashes, orNotFound]

section

variable {ρ κ : Type} [Keyed ρ κ] [DecidableEq κ] {table : Table ρ} {row : ρ} {k : κ}
  {change : ρ → ρ} {keeps : ∀ row, key (change row) = key row}

@[simp] theorem crashes_createRow : ¬ Crashes (createRow table row) := by
  unfold createRow
  split <;> simp [Crashes, uniqueViolation]

@[simp] theorem crashes_updateRow : ¬ Crashes (updateRow table k change keeps) := by
  simp [updateRow, recordNotFound]

@[simp] theorem crashes_deleteRow : ¬ Crashes (deleteRow table k) := by
  simp [deleteRow, recordNotFound]

end

end

namespace Db

variable {db : Db} {id : Id}

theorem crashes_createSchool {row : School} : ¬ Crashes (db.createSchool row) := by
  simp [createSchool, uniqueViolation]

theorem crashes_updateSchool {name timezone : Option String} :
    ¬ Crashes (db.updateSchool id name timezone) := by
  simp [updateSchool]

theorem crashes_createUser {row : User} :
    Crashes (db.createUser row) ↔ db.hasSchool row.schoolId = false := by
  simp [createUser, uniqueViolation]

theorem crashes_updateUserConfig {config : Js.Json} :
    ¬ Crashes (db.updateUserConfig id config) := by
  simp [updateUserConfig]

theorem crashes_createSubject {row : Subject} :
    Crashes (db.createSubject row) ↔ db.hasSchool row.schoolId = false := by
  simp [createSubject, uniqueViolation]

theorem crashes_renameSubject {name : String} : ¬ Crashes (db.renameSubject id name) := by
  simp [renameSubject, uniqueViolation]

theorem crashes_hideSubject {hiddenAt : Option Js.Instant} :
    ¬ Crashes (db.hideSubject id hiddenAt) := by
  simp [hideSubject]

theorem crashes_createStudent {row : Student} : Crashes (db.createStudent row) ↔
    db.refersStudent row = false ∨ db.refersStudent row = true ∧ int4 row.paidLessonsLeft = false := by
  simp [createStudent]

theorem crashes_deleteStudent : ¬ Crashes (db.deleteStudent id) := by
  simp [deleteStudent, recordNotFound]

theorem crashes_createGroup {row : Group} :
    Crashes (db.createGroup row) ↔ db.refersGroup row = false := by
  simp [createGroup]

theorem crashes_deleteGroup : ¬ Crashes (db.deleteGroup id) := by
  simp [deleteGroup, recordNotFound]

theorem crashes_createLesson {row : Lesson} :
    Crashes (db.createLesson row) ↔
      (db.refersLesson row && row.meetingUrl.all textColumn) = false := by
  simp [createLesson]

theorem crashes_updateLesson {patch : LessonPatch} : ¬ Crashes (db.updateLesson id patch) := by
  simp [updateLesson]

theorem crashes_createNote {row : Note} :
    Crashes (db.createNote row) ↔ db.refersNote row = false := by
  simp [createNote]

theorem crashes_createGrade {row : Grade} :
    Crashes (db.createGrade row) ↔ db.refersGrade row = false := by
  simp [createGrade]

theorem crashes_updateStudent {patch : StudentPatch} : Crashes (db.updateStudent id patch) ↔
    patch.paidLessonsLeft.all int4 = false ∨ patch.paidLessonsLeft.all int4 = true ∧
      (patch.subjectId.all fun subject => subject.all db.hasSubject) = false := by
  simp [updateStudent]

theorem crashes_updateGroup {patch : GroupPatch} : Crashes (db.updateGroup id patch) ↔
    (patch.subjectId.all fun subject => subject.all db.hasSubject) = false := by
  simp [updateGroup]

theorem crashes_addLessons {amount : Int} : Crashes (db.addLessons id amount) ↔
    ((db.students.find id).all fun row => int4 (row.paidLessonsLeft + amount)) = false := by
  simp [addLessons, recordNotFound]

theorem crashes_upsertMember {row : GroupMember} : Crashes (db.upsertMember row) ↔
    (db.hasGroup row.groupId && db.hasStudent row.studentId) = false := by
  unfold upsertMember
  cases db.members.insert? row <;> simp

theorem crashes_upsertAttendance {lessonId studentId : Id} {status : AttendanceStatus}
    {homeworkDone : Option (Option Bool)} :
    Crashes (db.upsertAttendance lessonId studentId status homeworkDone) ↔
      (db.hasLesson lessonId && db.hasStudent studentId) = false := by
  simp [upsertAttendance]

theorem crashes_deleteNote : ¬ Crashes (db.deleteNote id) := by
  simp [deleteNote]

theorem crashes_updateGrade {data : GradeData} : ¬ Crashes (db.updateGrade id data) := by
  simp [updateGrade]

theorem crashes_deleteGrade : ¬ Crashes (db.deleteGrade id) := by
  simp [deleteGrade]

theorem crashes_createFile {row : File} : Crashes (db.createFile row) ↔
    db.refersFile row = false ∨ db.refersFile row = true ∧ int4 row.sizeBytes = false := by
  simp [createFile, uniqueViolation]

theorem crashes_finaliseFile {storageKey : String} {uploadedAt : Js.Instant} :
    ¬ Crashes (db.finaliseFile id storageKey uploadedAt) := by
  simp [finaliseFile, uniqueViolation]

theorem crashes_deleteFile : ¬ Crashes (db.deleteFile id) := by
  simp [deleteFile]

theorem crashes_upsertInvitation {row : Invitation} : Crashes (db.upsertInvitation row) ↔
    (db.hasSchool row.schoolId && db.hasUser row.invitedById) = false := by
  unfold upsertInvitation
  simp only [crashes_bind, crashes_require, uniqueViolation]
  split <;> simp

theorem crashes_createAddons {userId enabledById : Id} {addons : List AddonKey}
    (crash : Crashes (db.createAddons userId enabledById addons)) :
    (db.hasUser userId && db.hasUser enabledById) = false := by
  simp only [createAddons, crashes_bind, crashes_require, crashes_pure, and_false, exists_false,
    or_false, and_true, Bool.or_eq_false_iff] at crash
  exact crash.2

theorem crashes_upsertMeetingAccount {row : MeetingAccount} :
    Crashes (db.upsertMeetingAccount row) ↔ db.hasUser row.userId = false := by
  unfold upsertMeetingAccount
  simp only [crashes_bind, crashes_require]
  split <;> simp

theorem crashes_updateMeetingAccount {refreshToken accessToken : String} {expiresAt : Js.Instant} :
    ¬ Crashes (db.updateMeetingAccount id refreshToken accessToken expiresAt) := by
  simp [updateMeetingAccount]

variable {schoolId : Id}

theorem hasSchool_of_home (home : db.home (.school id) = some schoolId) : db.hasSchool id = true :=
  (home_school.mp home).2

theorem hasUser_of_home (home : db.home (.user id) = some schoolId) : db.hasUser id = true := by
  obtain ⟨row, found, -⟩ := Option.map_eq_some_iff.mp home
  rw [hasUser, found, Option.isSome_some]

theorem hasSubject_of_home (home : db.home (.subject id) = some schoolId) :
    db.hasSubject id = true := by
  obtain ⟨row, found, -⟩ := Option.map_eq_some_iff.mp home
  rw [hasSubject, found, Option.isSome_some]

theorem hasStudent_of_home (home : db.home (.student id) = some schoolId) :
    db.hasStudent id = true := by
  obtain ⟨row, found, -⟩ := Option.map_eq_some_iff.mp home
  rw [hasStudent, found, Option.isSome_some]

theorem hasGroup_of_home (home : db.home (.group id) = some schoolId) : db.hasGroup id = true := by
  obtain ⟨row, found, -⟩ := Option.map_eq_some_iff.mp home
  rw [hasGroup, found, Option.isSome_some]

theorem hasLesson_of_home (home : db.home (.lesson id) = some schoolId) :
    db.hasLesson id = true := by
  obtain ⟨row, found, -⟩ := Option.map_eq_some_iff.mp home
  rw [hasLesson, found, Option.isSome_some]

theorem all_of_mem {named : Option Id} {has : Id → Bool} (each : ∀ id ∈ named, has id = true) :
    named.all has = true := by
  cases named with
  | none => rfl
  | some id => exact each id rfl

theorem refersStudent_of {row : Student} (belongs : db.Belongs schoolId (.student row)) :
    db.refersStudent row = true := by
  obtain ⟨school, tutor, subject⟩ := belongs_student.mp belongs
  rw [refersStudent, hasSchool_of_home school, hasUser_of_home tutor,
    all_of_mem fun id named => hasSubject_of_home (subject id named)]
  rfl

theorem refersGroup_of {row : Group} (belongs : db.Belongs schoolId (.group row)) :
    db.refersGroup row = true := by
  obtain ⟨school, tutor, subject⟩ := belongs_group.mp belongs
  rw [refersGroup, hasSchool_of_home school, hasUser_of_home tutor,
    all_of_mem fun id named => hasSubject_of_home (subject id named)]
  rfl

theorem refersLesson_of {row : Lesson} (belongs : db.Belongs schoolId (.lesson row)) :
    db.refersLesson row = true := by
  obtain ⟨school, tutor, subject, student, group⟩ := belongs_lesson.mp belongs
  rw [refersLesson, hasSchool_of_home school, hasUser_of_home tutor,
    all_of_mem fun id named => hasSubject_of_home (subject id named),
    all_of_mem fun id named => hasStudent_of_home (student id named),
    all_of_mem fun id named => hasGroup_of_home (group id named)]
  rfl

theorem refersNote_of {row : Note} (belongs : db.Belongs schoolId (.note row)) :
    db.refersNote row = true := by
  obtain ⟨author, student, lesson, -⟩ := belongs_note.mp belongs
  rw [refersNote, hasUser_of_home author,
    all_of_mem fun id named => hasStudent_of_home (student id named),
    all_of_mem fun id named => hasLesson_of_home (lesson id named)]
  rfl

theorem refersGrade_of {row : Grade} (belongs : db.Belongs schoolId (.grade row)) :
    db.refersGrade row = true := by
  obtain ⟨student, author, lesson⟩ := belongs_grade.mp belongs
  rw [refersGrade, hasStudent_of_home student, hasUser_of_home author,
    all_of_mem fun id named => hasLesson_of_home (lesson id named)]
  rfl

theorem refersFile_of {row : File} (belongs : db.Belongs schoolId (.file row)) :
    db.refersFile row = true := by
  obtain ⟨school, uploader, student, lesson⟩ := belongs_file.mp belongs
  rw [refersFile, hasSchool_of_home school, hasUser_of_home uploader,
    all_of_mem fun id named => hasStudent_of_home (student id named),
    all_of_mem fun id named => hasLesson_of_home (lesson id named)]
  rfl

end Db

end TutorApp
