import TutorApp.Register
import TutorApp.System

set_option autoImplicit false

namespace TutorApp

open Relational
open Js (Instant)

def Db.Hides (db : Db) (id : Id) : Prop :=
  ∃ row ∈ db.subjects.rows, row.id = id ∧ row.hiddenAt.isSome = true

/-- Who studies a subject, and which lessons that are still ahead teach it. -/
inductive Db.Uses (now : Instant) (db : Db) (id : Id) : Prop where
  | student (row : Student) (member : row ∈ db.students.rows) (studies : row.subjectId = some id) :
      Uses now db id
  | group (row : Group) (member : row ∈ db.groups.rows) (studies : row.subjectId = some id) :
      Uses now db id
  | lesson (row : Lesson) (member : row ∈ db.lessons.rows) (teaches : row.subjectId = some id)
      (ahead : now ≤ row.startsAt) (on : row.status ≠ .cancelled) : Uses now db id

/-- No hidden subject is in use. -/
def Db.HiddenUnused (now : Instant) (db : Db) : Prop := ∀ id, db.Hides id → ¬ db.Uses now id

/-- A step that neither hides what is in use nor takes what is hidden into use. -/
def Db.Spares (now : Instant) (db next : Db) : Prop :=
  ∀ id, next.Hides id → next.Uses now id → db.Hides id ∧ db.Uses now id

section

variable {now : Instant} {db next later : Db}

/-- What is ahead becomes less as time goes by. -/
theorem Db.HiddenUnused.mono (unused : db.HiddenUnused now) {then_ : Instant}
    (after : now ≤ then_) : db.HiddenUnused then_ := by
  intro id hidden uses
  cases uses with
  | student row member studies => exact unused id hidden (.student row member studies)
  | group row member studies => exact unused id hidden (.group row member studies)
  | lesson row member teaches ahead on =>
      exact unused id hidden (.lesson row member teaches (after.trans ahead) on)

theorem Db.Spares.unused (spares : db.Spares now next) (unused : db.HiddenUnused now) :
    next.HiddenUnused now := by
  intro id hidden uses
  obtain ⟨before, used⟩ := spares id hidden uses
  exact unused id before used

theorem Db.Spares.refl (db : Db) : db.Spares now db := fun _ hidden uses => ⟨hidden, uses⟩

theorem Db.Spares.trans (first : db.Spares now next) (second : next.Spares now later) :
    db.Spares now later := by
  intro id hidden uses
  obtain ⟨between, used⟩ := second id hidden uses
  exact first id between used

/-- What a step that leaves the subjects alone has to show of the other tables. -/
theorem Db.Spares.of_rows (subjects : next.subjects = db.subjects)
    (students : ∀ row ∈ next.students.rows, ∀ id, row.subjectId = some id → db.Hides id →
      db.Uses now id)
    (groups : ∀ row ∈ next.groups.rows, ∀ id, row.subjectId = some id → db.Hides id →
      db.Uses now id)
    (lessons : ∀ row ∈ next.lessons.rows, ∀ id, row.subjectId = some id → now ≤ row.startsAt →
      row.status ≠ .cancelled → db.Hides id → db.Uses now id) : db.Spares now next := by
  intro id hidden uses
  have before : db.Hides id := by
    unfold Hides at hidden ⊢
    rwa [subjects] at hidden
  refine ⟨before, ?_⟩
  cases uses with
  | student row member studies => exact students row member id studies before
  | group row member studies => exact groups row member id studies before
  | lesson row member teaches ahead on => exact lessons row member id teaches ahead on before

theorem Db.uses_students (db : Db) : ∀ row ∈ db.students.rows, ∀ id, row.subjectId = some id →
    db.Hides id → db.Uses now id := fun row member _ studies _ => .student row member studies

theorem Db.uses_groups (db : Db) : ∀ row ∈ db.groups.rows, ∀ id, row.subjectId = some id →
    db.Hides id → db.Uses now id := fun row member _ studies _ => .group row member studies

theorem Db.uses_lessons (db : Db) : ∀ row ∈ db.lessons.rows, ∀ id, row.subjectId = some id →
    now ≤ row.startsAt → row.status ≠ .cancelled → db.Hides id → db.Uses now id :=
  fun row member _ teaches ahead on _ => .lesson row member teaches ahead on

/-- Removing rows takes nothing into use. -/
theorem Db.Spares.of_subset (subjects : next.subjects = db.subjects)
    (students : next.students.rows ⊆ db.students.rows)
    (groups : next.groups.rows ⊆ db.groups.rows)
    (lessons : next.lessons.rows ⊆ db.lessons.rows) : db.Spares now next :=
  .of_rows subjects (fun row member => db.uses_students row (students member))
    (fun row member => db.uses_groups row (groups member))
    (fun row member => db.uses_lessons row (lessons member))

theorem Db.Uses.of_subjects {subjects : Table Subject} {id : Id}
    (uses : Db.Uses now { db with subjects } id) : db.Uses now id := by
  cases uses with
  | student row member studies => exact .student row member studies
  | group row member studies => exact .group row member studies
  | lesson row member teaches ahead on => exact .lesson row member teaches ahead on

namespace Db

theorem createSubject_spares {row : Subject} (shown : row.hiddenAt = none)
    (done : db.createSubject row = .ok next) : db.Spares now next := by
  obtain ⟨-, -, subjects, inserted, rfl⟩ := createSubject_ok.mp done
  intro id hidden uses
  refine ⟨?_, uses.of_subjects⟩
  obtain ⟨subject, member, same, since⟩ := hidden
  rcases (Table.mem_insert inserted).mp member with old | rfl
  · exact ⟨subject, old, same, since⟩
  · rw [shown] at since
    cases since

theorem renameSubject_spares {id : Id} {name : String}
    (done : db.renameSubject id name = .ok next) : db.Spares now next := by
  obtain ⟨-, subjects, updated, rfl⟩ := renameSubject_ok.mp done
  intro id hidden uses
  refine ⟨?_, uses.of_subjects⟩
  obtain ⟨subject, member, same, since⟩ := hidden
  rcases of_mem_updateRow updated member with old | ⟨old, present, -, rfl⟩
  · exact ⟨subject, old, same, since⟩
  · exact ⟨old, present, same, since⟩

/-- A subject may be hidden once nothing uses it, and shown again at any time. -/
theorem hideSubject_spares {id : Id} {hiddenAt : Option Instant}
    (free : hiddenAt.isSome = true → ¬ db.Uses now id)
    (done : db.hideSubject id hiddenAt = .ok next) : db.Spares now next := by
  obtain ⟨subjects, updated, rfl⟩ := hideSubject_ok.mp done
  intro other hidden uses
  obtain ⟨subject, member, same, since⟩ := hidden
  rcases of_mem_updateRow updated member with old | ⟨old, present, itself, rfl⟩
  · exact ⟨⟨subject, old, same, since⟩, uses.of_subjects⟩
  · rw [← same, show old.id = id from itself] at uses
    exact absurd uses.of_subjects (free since)

theorem createStudent_spares {row : Student} (shown : ∀ id ∈ row.subjectId, ¬ db.Hides id)
    (done : db.createStudent row = .ok next) : db.Spares now next := by
  obtain ⟨-, -, students, inserted, rfl⟩ := createStudent_ok.mp done
  refine .of_rows rfl ?_ db.uses_groups db.uses_lessons
  intro student member id studies hidden
  rcases (Table.mem_insert inserted).mp member with old | rfl
  · exact db.uses_students student old id studies hidden
  · exact absurd hidden (shown id studies)

/-- An edit may keep a hidden subject that the student studies already. -/
theorem updateStudent_spares {id : Id} {patch : StudentPatch}
    (shown : ∀ subject ∈ patch.subjectId, ∀ id ∈ subject, db.Hides id → db.Uses now id)
    (done : db.updateStudent id patch = .ok next) : db.Spares now next := by
  obtain ⟨-, -, students, updated, rfl⟩ := updateStudent_ok.mp done
  refine .of_rows rfl ?_ db.uses_groups db.uses_lessons
  intro student member id studies hidden
  rcases of_mem_updateRow updated member with old | ⟨old, present, -, rfl⟩
  · exact db.uses_students student old id studies hidden
  · cases patched : patch.subjectId with
    | none =>
        simp only [StudentPatch.apply, patched, Option.getD_none] at studies
        exact db.uses_students old present id studies hidden
    | some subject =>
        simp only [StudentPatch.apply, patched, Option.getD_some] at studies
        exact shown subject patched id studies hidden

theorem creditStudent_spares (id : Id) (amount : Int) (db : Db) :
    db.Spares now (db.creditStudent id amount) := by
  refine .of_rows rfl ?_ db.uses_groups db.uses_lessons
  intro student member subject studies hidden
  obtain ⟨old, present, rfl⟩ := List.mem_map.mp member
  refine db.uses_students old present subject ?_ hidden
  split at studies <;> exact studies

theorem deleteStudent_spares {id : Id} (done : db.deleteStudent id = .ok next) :
    db.Spares now next := by
  obtain ⟨-, rfl⟩ := deleteStudent_ok.mp done
  exact .of_subset rfl (fun _ member => (Table.mem_delete.mp member).1) (fun _ member => member)
    (fun _ member => (Table.mem_delete.mp member).1)

theorem createGroup_spares {row : Group} (shown : ∀ id ∈ row.subjectId, ¬ db.Hides id)
    (done : db.createGroup row = .ok next) : db.Spares now next := by
  obtain ⟨-, groups, inserted, rfl⟩ := createGroup_ok.mp done
  refine .of_rows rfl db.uses_students ?_ db.uses_lessons
  intro group member id studies hidden
  rcases (Table.mem_insert inserted).mp member with old | rfl
  · exact db.uses_groups group old id studies hidden
  · exact absurd hidden (shown id studies)

theorem updateGroup_spares {id : Id} {patch : GroupPatch}
    (shown : ∀ subject ∈ patch.subjectId, ∀ id ∈ subject, db.Hides id → db.Uses now id)
    (done : db.updateGroup id patch = .ok next) : db.Spares now next := by
  obtain ⟨-, groups, updated, rfl⟩ := updateGroup_ok.mp done
  refine .of_rows rfl db.uses_students ?_ db.uses_lessons
  intro group member id studies hidden
  rcases of_mem_updateRow updated member with old | ⟨old, present, -, rfl⟩
  · exact db.uses_groups group old id studies hidden
  · cases patched : patch.subjectId with
    | none =>
        simp only [GroupPatch.apply, patched, Option.getD_none] at studies
        exact db.uses_groups old present id studies hidden
    | some subject =>
        simp only [GroupPatch.apply, patched, Option.getD_some] at studies
        exact shown subject patched id studies hidden

theorem deleteGroup_spares {id : Id} (done : db.deleteGroup id = .ok next) :
    db.Spares now next := by
  obtain ⟨-, rfl⟩ := deleteGroup_ok.mp done
  exact .of_subset rfl (fun _ member => member) (fun _ member => (Table.mem_delete.mp member).1)
    (fun _ member => (Table.mem_delete.mp member).1)

theorem createLesson_spares {row : Lesson} (shown : ∀ id ∈ row.subjectId, ¬ db.Hides id)
    (done : db.createLesson row = .ok next) : db.Spares now next := by
  obtain ⟨-, lessons, inserted, rfl⟩ := createLesson_ok.mp done
  refine .of_rows rfl db.uses_students db.uses_groups ?_
  intro lesson member id teaches ahead on hidden
  rcases (Table.mem_insert inserted).mp member with old | rfl
  · exact db.uses_lessons lesson old id teaches ahead on hidden
  · exact absurd hidden (shown id teaches)

/-- A lesson that is off but still ahead, of a subject that is hidden. -/
def Shelved (now : Instant) (db : Db) (lessonId : Id) : Prop :=
  ∃ lesson, db.lessons.find lessonId = some lesson ∧ lesson.status = .cancelled ∧
    now ≤ lesson.startsAt ∧ ∃ subjectId, lesson.subjectId = some subjectId ∧ db.Hides subjectId

/-- Nothing hidden is taken into use by a lesson exactly when none is taken off the shelf. -/
theorem updateLesson_spares {id : Id} {patch : LessonPatch}
    (left : db.Shelved now id → ∀ status ∈ patch.status, status = .cancelled)
    (done : db.updateLesson id patch = .ok next) : db.Spares now next := by
  obtain ⟨lessons, updated, rfl⟩ := updateLesson_ok.mp done
  refine .of_rows rfl db.uses_students db.uses_groups ?_
  intro lesson member subject teaches ahead on hidden
  rcases of_mem_updateRow updated member with old | ⟨old, present, hit, rfl⟩
  · exact db.uses_lessons lesson old subject teaches ahead on hidden
  · by_cases off : old.status = .cancelled
    · have found : db.lessons.find id = some old :=
        Table.find_eq_some.mpr ⟨present, hit⟩
      have same := left ⟨old, found, off, ahead, subject, teaches, hidden⟩
      cases patched : patch.status with
      | none =>
          simp only [LessonPatch.apply, patched, Option.getD_none] at on
          exact absurd off on
      | some status =>
          simp only [LessonPatch.apply, patched, Option.getD_some] at on
          exact absurd (same status patched) on
    · exact db.uses_lessons old present subject teaches ahead off hidden

end Db

variable {platform : Platform} {user : User} {draw : Draw}

namespace SubjectsService

/-- What is resolved is on offer, or what the record points at already. -/
theorem resolve_shown {subjectId current resolved : Option Id}
    (success : resolve user subjectId current db = .ok resolved) :
    ∀ id ∈ resolved, db.Hides id → current = some id := by
  cases subjectId with
  | none =>
      cases pure_ok.mp success
      simp
  | some asked =>
      simp only [resolve, bind_ok, findOne_ok, pure_ok, require_ok, Bool.or_eq_true,
        beq_iff_eq] at success
      obtain ⟨subject, ⟨found, -⟩, _, offered, rfl⟩ := success
      rintro id ⟨⟩ ⟨row, member, same, hidden⟩
      rcases offered with shown | kept
      · have itself : row = subject :=
          Table.key_injective member (Table.find_eq_some.mp found).1 same
        rw [itself] at hidden
        simp [Option.isNone_iff_eq_none.mp shown] at hidden
      · exact kept.symm

theorem usage_free {id : Id} {report : SubjectUsage}
    (success : usage platform user draw id db = .ok report) (free : report.canHide = true) :
    ¬ db.Uses draw.now report.subject.id := by
  simp only [usage, bind_ok, pure_ok] at success
  obtain ⟨subject, -, rfl⟩ := success
  simp only [Bool.and_eq_true, beq_iff_eq, List.length_eq_zero_iff] at free
  obtain ⟨⟨students, groups⟩, lessons⟩ := free
  intro uses
  dsimp only at uses
  cases uses with
  | student row member studies =>
      have listed : row ∈ db.students.select fun row => row.subjectId == some subject.id :=
        Table.mem_select.mpr ⟨member, beq_iff_eq.mpr studies⟩
      rw [← mem_sortByText, students] at listed
      cases listed
  | group row member studies =>
      have listed : row ∈ db.groups.select fun row => row.subjectId == some subject.id :=
        Table.mem_select.mpr ⟨member, beq_iff_eq.mpr studies⟩
      rw [← mem_sortByText, groups] at listed
      cases listed
  | lesson row member teaches ahead on =>
      have listed : row ∈ db.lessons.select fun row => row.subjectId == some subject.id &&
          draw.now ≤ row.startsAt && row.status != .cancelled := by
        simp only [Table.mem_select, Bool.and_eq_true, beq_iff_eq, decide_eq_true_eq, bne_iff_ne]
        exact ⟨member, ⟨teaches, ahead⟩, on⟩
      rw [lessons] at listed
      cases listed

theorem create_spares {name : String} {subject : Subject}
    (success : create platform user draw name db = .ok (subject, next)) : db.Spares now next := by
  obtain ⟨-, created, -⟩ := create_ok.mp success
  exact Db.createSubject_spares rfl created

theorem rename_spares {id : Id} {name : String} {subject : Subject}
    (success : rename platform user id name db = .ok (subject, next)) : db.Spares now next := by
  obtain ⟨_, -, -, renamed, -⟩ := rename_ok.mp success
  exact Db.renameSubject_spares renamed

theorem hide_spares {id : Id} {subject : Subject}
    (success : hide platform user draw id db = .ok (subject, next)) :
    db.Spares draw.now next := by
  obtain ⟨_, reported, free, done⟩ := hide_ok.mp success
  split at done
  · exact done.2 ▸ .refl db
  · exact Db.hideSubject_spares (fun _ => usage_free reported free) done.1

theorem restore_spares {id : Id} {subject : Subject}
    (success : restore user id db = .ok (subject, next)) : db.Spares now next := by
  obtain ⟨_, -, restored, -⟩ := restore_ok.mp success
  exact Db.hideSubject_spares (fun shown => by cases shown) restored

end SubjectsService

namespace StudentsService

/-- An edit sets a hidden subject only where the record had it. -/
theorem subjectPatch_shown {subjectId : Js.Field Id} {current : Option Id}
    {patch : Option (Option Id)} (success : subjectPatch user subjectId current db = .ok patch) :
    ∀ subject ∈ patch, ∀ id ∈ subject, db.Hides id → current = some id :=
  fun subject set => SubjectsService.resolve_shown (subjectPatch_resolved user success subject set)

theorem create_spares {dto : CreateStudentDto} {view : StudentView}
    (success : create user draw dto db = .ok (view, next)) : db.Spares now next := by
  obtain ⟨subjectId, resolves, created, -⟩ := create_ok.mp success
  refine Db.createStudent_spares (fun id named hidden => ?_) created
  cases SubjectsService.resolve_shown resolves id named hidden

theorem update_spares {id : Id} {dto : UpdateStudentDto} {view : StudentView}
    (success : update user id dto db = .ok (view, next)) : db.Spares now next := by
  obtain ⟨student, found, patch, patched, _, -, updated, -⟩ := update_ok.mp success
  refine Db.updateStudent_spares (fun subject set id named hidden => ?_) updated
  have present := (Table.find_eq_some.mp ((findOne_ok user).mp found).1).1
  exact .student student present (subjectPatch_shown patched subject set id named hidden)

theorem remove_spares {id : Id} (success : remove user id db = .ok next) : db.Spares now next := by
  obtain ⟨_, -, deleted⟩ := remove_ok.mp success
  exact Db.deleteStudent_spares deleted

end StudentsService

namespace GroupsService

theorem create_spares {dto : CreateGroupDto} {view : GroupView}
    (success : create platform user draw dto db = .ok (view, next)) : db.Spares now next := by
  obtain ⟨subjectId, resolves, created, -⟩ := create_ok.mp success
  refine Db.createGroup_spares (fun id named hidden => ?_) created
  cases SubjectsService.resolve_shown resolves id named hidden

theorem update_spares {id : Id} {dto : UpdateGroupDto} {view : GroupView}
    (success : update platform user id dto db = .ok (view, next)) : db.Spares now next := by
  obtain ⟨group, found, patch, patched, _, -, updated, -⟩ := update_ok.mp success
  refine Db.updateGroup_spares (fun subject set id named hidden => ?_) updated
  have present := (Table.find_eq_some.mp ((findOne_ok user).mp found).1).1
  exact .group group present
    (StudentsService.subjectPatch_shown patched subject set id named hidden)

theorem remove_spares {id : Id} (success : remove user id db = .ok next) : db.Spares now next := by
  obtain ⟨_, -, deleted⟩ := remove_ok.mp success
  exact Db.deleteGroup_spares deleted

theorem addMember_spares {groupId studentId : Id} {view : GroupView}
    (success : addMember platform user groupId studentId db = .ok (view, next)) :
    db.Spares now next := by
  obtain ⟨_, -, _, -, added, -⟩ := addMember_ok.mp success
  obtain ⟨-, ⟨members, -, rfl⟩ | ⟨-, rfl⟩⟩ := Db.upsertMember_ok.mp added
  · exact .of_rows rfl db.uses_students db.uses_groups db.uses_lessons
  · exact .refl db

theorem removeMember_spares {groupId studentId : Id} {view : GroupView}
    (success : removeMember platform user groupId studentId db = .ok (view, next)) :
    db.Spares now next := by
  obtain ⟨_, -, -, rfl⟩ := removeMember_ok.mp success
  exact .of_rows rfl db.uses_students db.uses_groups db.uses_lessons

end GroupsService

namespace LessonsService

/-- Refused or not, a booking takes nothing hidden into use. -/
theorem create_spares {endpoints : Endpoints} {dto : CreateLessonDto} :
    db.Spares now (create platform user draw endpoints dto db).db := by
  unfold create
  cases checked : checkBooking user dto db with
  | error reason => exact .refl db
  | ok subjectId =>
      obtain ⟨accounts, same⟩ := meetingFor_db platform user draw endpoints subjectId
        (platform.parseDate dto.startsAt) dto.durationMinutes db
      have arranged : db.Spares now (meetingFor platform user draw endpoints subjectId
          (platform.parseDate dto.startsAt) dto.durationMinutes db).db := by
        rw [same]
        exact .of_rows rfl db.uses_students db.uses_groups db.uses_lessons
      dsimp only
      split
      · exact arranged
      · split
        · exact arranged
        · rename_i stored
          simp only [checkBooking, bind_ok] at checked
          obtain ⟨_, -, resolves⟩ := checked
          obtain ⟨_, -, _, -, _, rfl, created, -⟩ := storeLesson_ok.mp stored
          refine arranged.trans (Db.createLesson_spares (fun id named hidden => ?_) created)
          rw [same] at hidden
          cases SubjectsService.resolve_shown resolves id named hidden

/-- A change of status as it is allowed: none takes a lesson off the shelf. -/
theorem updateStatus_spares {id : Id} {status : LessonStatus} {view : LessonView}
    (left : db.Shelved now id → status = .cancelled)
    (success : updateStatus platform user id status db = .ok (view, next)) :
    db.Spares now next := by
  obtain ⟨lesson, found, updated, -⟩ := updateStatus_ok.mp success
  have same : lesson.id = id :=
    (Table.find_eq_some.mp ((findReachable_ok user).mp found).1).2
  rw [same] at updated
  refine Db.updateLesson_spares (fun shelved _ set => ?_) updated
  cases set
  exact left shelved

end LessonsService

namespace GradebookService

theorem writeMark_spares {lessonId : Id} {mark : MarkAttendanceDto}
    (done : writeMark lessonId mark db = .ok next) : db.Spares now next := by
  obtain ⟨settled, settles, upserted⟩ := writeMark_ok.mp done
  obtain ⟨attendances, rfl⟩ := Db.upsertAttendance_frame upserted
  have credited : db.Spares now settled := by
    unfold settle settleFrom at settles
    split at settles
    · obtain ⟨-, -, rfl⟩ := Db.addLessons_ok.mp settles
      exact Db.creditStudent_spares mark.studentId _ db
    · cases settles
      exact .refl db
  exact credited.trans
    (.of_rows rfl settled.uses_students settled.uses_groups settled.uses_lessons)

theorem writeMarks_spares {lessonId : Id} {marks : List MarkAttendanceDto}
    (done : writeMarks lessonId marks db = .ok next) : db.Spares now next := by
  induction marks generalizing db with
  | nil =>
      cases done
      exact .refl next
  | cons mark rest ih =>
      obtain ⟨_, written, others⟩ := writeMarks_cons_ok.mp done
      exact (writeMark_spares written).trans (ih others)

theorem writeJournal_spares {lessonId : Id} {dto : WriteJournalDto} {view : JournalView}
    (left : db.Shelved now lessonId → ∀ status ∈
      (journalPatch dto (dto.attendance.getD [])).status, status = .cancelled)
    (success : writeJournal platform user lessonId dto db = .ok (view, next)) :
    db.Spares now next := by
  obtain ⟨lesson, written, -, -, -, -, marked, updated⟩ := writeJournal_accepted success
  refine (writeMarks_spares marked).trans (Db.updateLesson_spares (fun shelved => ?_) updated)
  obtain ⟨students, attendances, rfl⟩ := writeMarks_frame marked
  exact left shelved

theorem storeGrade_spares {dto : WriteGradeDto} {studentId : Id} {lessonId : Option Id}
    {view : GradeWithAuthor}
    (success : storeGrade user draw dto studentId lessonId db = .ok (view, next)) :
    db.Spares now next := by
  obtain ⟨-, _, -, created, -⟩ := storeGrade_ok.mp success
  obtain ⟨-, _, -, rfl⟩ := Db.createGrade_ok.mp created
  exact .of_rows rfl db.uses_students db.uses_groups db.uses_lessons

theorem addForStudent_spares {studentId : Id} {dto : WriteGradeDto} {view : GradeWithAuthor}
    (success : addForStudent user draw studentId dto db = .ok (view, next)) :
    db.Spares now next := by
  obtain ⟨_, -, stored⟩ := addForStudent_ok.mp success
  exact storeGrade_spares stored

theorem addForLesson_spares {lessonId : Id} {dto : WriteGradeDto} {view : GradeWithAuthor}
    (success : addForLesson user draw lessonId dto db = .ok (view, next)) :
    db.Spares now next := by
  obtain ⟨_, -, _, -, stored⟩ := addForLesson_ok.mp success
  exact storeGrade_spares stored

theorem update_spares {id : Id} {dto : WriteGradeDto} {view : GradeWithAuthor}
    (success : update user id dto db = .ok (view, next)) : db.Spares now next := by
  obtain ⟨_, -, -, _, -, updated, -⟩ := update_ok.mp success
  obtain ⟨_, -, rfl⟩ := Db.updateGrade_ok.mp updated
  exact .of_rows rfl db.uses_students db.uses_groups db.uses_lessons

theorem remove_spares {id : Id} (success : remove user id db = .ok next) : db.Spares now next := by
  obtain ⟨_, -, deleted⟩ := remove_ok.mp success
  obtain ⟨_, -, rfl⟩ := Db.deleteGrade_ok.mp deleted
  exact .of_rows rfl db.uses_students db.uses_groups db.uses_lessons

end GradebookService

/-- The operations on subjects, students, groups, lessons and the gradebook. -/
def Command.teaches : Command → Bool
  | .createSubject _ | .renameSubject _ _ | .hideSubject _ | .restoreSubject _
  | .createStudent _ | .updateStudent _ _ | .removeStudent _
  | .createGroup _ | .updateGroup _ _ | .removeGroup _ | .addMember _ _ | .removeMember _ _
  | .createLesson _ | .updateLessonStatus _ _ | .writeJournal _ _
  | .addGradeForStudent _ _ | .addGradeForLesson _ _ | .updateGrade _ _ | .removeGrade _ => true
  | _ => false

/-- A status for a lesson on the shelf that takes it off: one that is sent, or one that the
register says. -/
def Command.Revives (now : Instant) (db : Db) : Command → Prop
  | .updateLessonStatus id status => db.Shelved now id ∧ status ≠ .cancelled
  | .writeJournal id dto => db.Shelved now id ∧ ∃ status ∈
      (GradebookService.journalPatch dto (dto.attendance.getD [])).status, status ≠ .cancelled
  | _ => False

section

variable {outside : Outside} {world : World} {command : Command}

theorem World.commit_spares {α : Type} {answer : α → Response} {result : Service (α × Db)}
    (spares : ∀ value db, result = .ok (value, db) → world.db.Spares now db) :
    world.db.Spares now (world.commit answer result).world.db :=
  commit_keeps (world.db.Spares now) (.refl _) spares

theorem World.commitUnit_spares {result : Service Db}
    (spares : ∀ db, result = .ok db → world.db.Spares now db) :
    world.db.Spares now (world.commitUnit result).world.db :=
  commitUnit_keeps (world.db.Spares now) (.refl _) spares

theorem Command.run_spares (teaches : command.teaches = true)
    (left : ¬ command.Revives outside.draw.now world.db) :
    world.db.Spares outside.draw.now (command.run platform user outside world).world.db := by
  cases command with
  | createSubject name =>
      exact World.commit_spares fun _ _ success => SubjectsService.create_spares success
  | renameSubject id name =>
      exact World.commit_spares fun _ _ success => SubjectsService.rename_spares success
  | hideSubject id =>
      exact World.commit_spares fun _ _ success => SubjectsService.hide_spares success
  | restoreSubject id =>
      exact World.commit_spares fun _ _ success => SubjectsService.restore_spares success
  | createStudent dto =>
      exact World.commit_spares fun _ _ success => StudentsService.create_spares success
  | updateStudent id dto =>
      exact World.commit_spares fun _ _ success => StudentsService.update_spares success
  | removeStudent id =>
      exact World.commitUnit_spares fun _ success => StudentsService.remove_spares success
  | createGroup dto =>
      exact World.commit_spares fun _ _ success => GroupsService.create_spares success
  | updateGroup id dto =>
      exact World.commit_spares fun _ _ success => GroupsService.update_spares success
  | removeGroup id =>
      exact World.commitUnit_spares fun _ success => GroupsService.remove_spares success
  | addMember groupId studentId =>
      exact World.commit_spares fun _ _ success => GroupsService.addMember_spares success
  | removeMember groupId studentId =>
      exact World.commit_spares fun _ _ success => GroupsService.removeMember_spares success
  | createLesson dto => exact LessonsService.create_spares
  | updateLessonStatus id status =>
      refine World.commit_spares fun _ _ success => LessonsService.updateStatus_spares ?_ success
      intro shelved
      by_contra on
      exact left ⟨shelved, on⟩
  | writeJournal lessonId dto =>
      refine World.commit_spares fun _ _ success => GradebookService.writeJournal_spares ?_ success
      intro shelved status set
      by_contra on
      exact left ⟨shelved, status, set, on⟩
  | addGradeForStudent studentId dto =>
      exact World.commit_spares fun _ _ success => GradebookService.addForStudent_spares success
  | addGradeForLesson lessonId dto =>
      exact World.commit_spares fun _ _ success => GradebookService.addForLesson_spares success
  | updateGrade id dto =>
      exact World.commit_spares fun _ _ success => GradebookService.update_spares success
  | removeGrade id =>
      exact World.commitUnit_spares fun _ success => GradebookService.remove_spares success
  | _ => cases teaches

/-- A lesson off the shelf uses its hidden subject. -/
theorem Db.updateLesson_uses {id : Id} {patch : Db.LessonPatch} {status : LessonStatus}
    (shelved : db.Shelved now id) (set : patch.status = some status) (on : status ≠ .cancelled)
    (done : db.updateLesson id patch = .ok next) : ¬ next.HiddenUnused now := by
  obtain ⟨_, updated, rfl⟩ := Db.updateLesson_ok.mp done
  obtain ⟨-, rfl⟩ := updateRow_ok.mp updated
  obtain ⟨lesson, found, -, ahead, subjectId, teaches, hidden⟩ := shelved
  obtain ⟨present, same⟩ := Table.find_eq_some.mp found
  have member : patch.apply lesson ∈ (db.lessons.update (fun row => decide (key row = id))
      patch.apply patch.key_apply).rows :=
    List.mem_map.mpr ⟨lesson, present, if_pos (decide_eq_true same)⟩
  intro unused
  refine unused subjectId hidden (.lesson (patch.apply lesson) member teaches ahead ?_)
  simp only [Db.LessonPatch.apply, set, Option.getD_some]
  exact on

theorem Command.revived_uses {response : Response}
    (served : (command.run platform user outside world).result = .ok response)
    (revives : command.Revives outside.draw.now world.db) :
    ¬ (command.run platform user outside world).world.db.HiddenUnused outside.draw.now := by
  cases command with
  | updateLessonStatus id status =>
      obtain ⟨shelved, on⟩ := revives
      obtain ⟨view, next, success, same⟩ := World.commit_ok served
      rw [show (run platform user outside (.updateLessonStatus id status) world).world.db = next
        from congrArg World.db same]
      obtain ⟨lesson, found, updated, -⟩ := LessonsService.updateStatus_ok.mp success
      have itself : lesson.id = id :=
        (Table.find_eq_some.mp ((LessonsService.findReachable_ok user).mp found).1).2
      rw [itself] at updated
      exact Db.updateLesson_uses shelved rfl on updated
  | writeJournal lessonId dto =>
      obtain ⟨shelved, status, set, on⟩ := revives
      obtain ⟨view, next, success, same⟩ := World.commit_ok served
      rw [show (run platform user outside (.writeJournal lessonId dto) world).world.db = next
        from congrArg World.db same]
      obtain ⟨lesson, written, -, -, -, -, marked, updated⟩ :=
        GradebookService.writeJournal_accepted success
      obtain ⟨students, attendances, rfl⟩ := GradebookService.writeMarks_frame marked
      refine Db.updateLesson_uses ?_ set on updated
      exact shelved
  | _ => cases revives

end

/-- What outlives a request, and when the last one was served. -/
structure Clocked where
  now : Instant
  world : World

/-- One of these operations, at the time of the last one or later. -/
def TeachingStep (platform : Platform) (allowed : Instant → Db → Command → Prop)
    (before after : Clocked) : Prop :=
  ∃ outside userId command, Command.teaches command = true ∧ before.now ≤ outside.draw.now ∧
    allowed outside.draw.now before.world.db command ∧ after =
      ⟨outside.draw.now, ((Request.command userId command).serve platform outside before.world).world⟩

def TeachingRun (platform : Platform) (allowed : Instant → Db → Command → Prop) :
    Clocked → Clocked → Prop :=
  Relation.ReflTransGen (TeachingStep platform allowed)

theorem TeachingStep.unused {before after : Clocked}
    (step : TeachingStep platform (fun now db command => ¬ command.Revives now db) before after)
    (unused : before.world.db.HiddenUnused before.now) :
    after.world.db.HiddenUnused after.now := by
  obtain ⟨outside, userId, command, teaches, later, left, rfl⟩ := step
  have still := unused.mono later
  simp only [Request.serve]
  split
  · exact still
  · exact (command.run_spares teaches left).unused still

/-- Hidden subjects stay out of use, whatever is asked for in whatever order, as long as no lesson
on the shelf is taken off it; the first one that is puts its subject to use. -/
theorem hidden_subjects_unused {before after : Clocked}
    (unused : before.world.db.HiddenUnused before.now) :
    (TeachingRun platform (fun now db command => ¬ command.Revives now db) before after →
      ∀ now, after.now ≤ now → after.world.db.HiddenUnused now) ∧
    ∀ outside userId command response, Command.teaches command = true →
      before.now ≤ outside.draw.now →
      ((Request.command userId command).serve platform outside before.world).result = .ok response →
      (((Request.command userId command).serve platform outside before.world).world.db.HiddenUnused
        outside.draw.now ↔ ¬ command.Revives outside.draw.now before.world.db) := by
  constructor
  · intro run
    have kept : after.world.db.HiddenUnused after.now := by
      induction run with
      | refl => exact unused
      | tail _ step ih => exact step.unused ih
    exact fun _ later => kept.mono later
  · intro outside userId command response teaches later served
    simp only [Request.serve] at served ⊢
    cases found : before.world.db.users.find userId with
    | none =>
        rw [found] at served
        cases served
    | some user =>
        rw [found] at served
        constructor
        · intro kept revives
          exact Command.revived_uses served revives kept
        · intro left
          exact (command.run_spares teaches left).unused (unused.mono later)

end

/-- An hour before the lesson. -/
def Outside.early (id : Id) : Outside :=
  { Outside.quiet id with draw := { (Outside.quiet id).draw with now := 1772355600000 } }

/-- A school with a student and a lesson in Algebra. -/
def algebraLesson : World := World.empty.after .plain [foxSchool, enrol "a1" "k1" "Kim",
  (.early "b1", .command "a1" (.createSubject "Algebra")),
  (.early "l1", .command "a1" (.createLesson
    ⟨.given "k1", .absent, .given "b1", "2026-03-01T10:00:00.000Z", 60⟩))]

def algebraMorning : Clocked := ⟨1772355600000, algebraLesson⟩

def Clocked.serve (state : Clocked) (command : Command) : Clocked :=
  ⟨1772355600000, ((Request.command "a1" command).serve .plain (.early "") state.world).world⟩

theorem Clocked.serve_step {state : Clocked} {command : Command}
    {allowed : Instant → Db → Command → Prop} (morning : state.now = 1772355600000)
    (teaches : command.teaches = true) (left : allowed 1772355600000 state.world.db command) :
    TeachingStep .plain allowed state (state.serve command) :=
  ⟨.early "", "a1", command, teaches, morning.le, left, rfl⟩

/-- The lesson is called off, and nothing is in the way of hiding its subject. -/
def algebraHidden : Clocked :=
  (algebraMorning.serve (.updateLessonStatus "l1" .cancelled)).serve (.hideSubject "b1")

theorem algebraHidden_hides : algebraHidden.world.db.Hides "b1" := by
  have hidden : (algebraHidden.world.db.subjects.find "b1").any
      (fun row => row.hiddenAt.isSome) = true := by decide +kernel
  obtain ⟨row, found, since⟩ := (Option.any_eq_true ..).mp hidden
  obtain ⟨member, same⟩ := Table.find_eq_some.mp found
  exact ⟨row, member, same, since⟩

theorem algebraMorning_unused : algebraMorning.world.db.HiddenUnused algebraMorning.now := by
  have shown : algebraMorning.world.db.subjects.rows.all (fun row => row.hiddenAt.isNone) = true := by
    decide +kernel
  rintro id ⟨row, member, -, since⟩
  have none := List.all_eq_true.mp shown row member
  rw [Option.isNone_iff_eq_none.mp none] at since
  cases since

theorem algebra_stays_hidden :
    algebraHidden.world.db.Hides "b1" ∧
      ∀ now, 1772355600000 ≤ now → algebraHidden.world.db.HiddenUnused now := by
  refine ⟨algebraHidden_hides, ?_⟩
  have off : ¬ Command.Revives 1772355600000 algebraLesson.db (.updateLessonStatus "l1" .cancelled) :=
    fun revives => revives.2 rfl
  have run : TeachingRun .plain (fun now db command => ¬ command.Revives now db) algebraMorning
      algebraHidden :=
    .head (Clocked.serve_step rfl rfl off)
      (.single (Clocked.serve_step rfl rfl id))
  exact (hidden_subjects_unused algebraMorning_unused).1 run

/-- The lesson is put back on the schedule, with the hidden subject. -/
theorem hidden_algebra_is_taught :
    Reachable .plain algebraLesson ∧ algebraMorning.world.db.HiddenUnused algebraMorning.now ∧
      ∃ after, TeachingRun .plain (fun _ _ _ => True) algebraMorning after ∧
        after.world.db.Hides "b1" ∧ ¬ after.world.db.HiddenUnused after.now := by
  let after := algebraHidden.serve (.updateLessonStatus "l1" .scheduled)
  have run : TeachingRun .plain (fun _ _ _ => True) algebraMorning after :=
    .head (Clocked.serve_step rfl rfl trivial) <| .head (Clocked.serve_step rfl rfl trivial) <|
      .single (Clocked.serve_step rfl rfl trivial)
  have subjects : after.world.db.subjects = algebraHidden.world.db.subjects := by decide +kernel
  have hidden : after.world.db.Hides "b1" := by
    have before := algebraHidden_hides
    unfold Db.Hides at before ⊢
    rwa [subjects]
  have taught : (after.world.db.lessons.find "l1").any (fun row => row.subjectId == some "b1" &&
      after.now ≤ row.startsAt && row.status != .cancelled) = true := by
    decide +kernel
  obtain ⟨row, found, on⟩ := (Option.any_eq_true ..).mp taught
  simp only [Bool.and_eq_true, beq_iff_eq, decide_eq_true_eq, bne_iff_ne] at on
  refine ⟨.after .plain .refl _, algebraMorning_unused, after, run, hidden, fun unused => ?_⟩
  exact unused "b1" hidden
    (.lesson row (Table.find_eq_some.mp found).1 on.1.1 on.1.2 on.2)

end TutorApp
