import TutorApp.Footprints
import TutorApp.TenantIsolation
import TutorApp.WriteUps

set_option autoImplicit false

namespace TutorApp

open Relational

/-- No key comes to a table but this one. -/
def OnlyBrings {ρ κ : Type} [Keyed ρ κ] [DecidableEq κ] (drawn : κ) (table next : Table ρ) : Prop :=
  ∀ k, k ≠ drawn → table.find k = none → next.find k = none

section

variable {ρ κ : Type} [Keyed ρ κ] [DecidableEq κ] {table next later : Table ρ} {drawn k : κ}
  {row : ρ} {hit : ρ → Bool} {change : ρ → ρ} {keeps : ∀ row, key (change row) = key row}

namespace OnlyBrings

theorem refl (drawn : κ) (table : Table ρ) : OnlyBrings drawn table table :=
  fun _ _ missing => missing

theorem of_eq (same : next = table) : OnlyBrings drawn table next := by
  rw [same]
  exact .refl drawn table

theorem trans (first : OnlyBrings drawn table next) (second : OnlyBrings drawn next later) :
    OnlyBrings drawn table later :=
  fun k other missing => second k other (first k other missing)

theorem insert (done : table.insert? row = some next) : OnlyBrings (key row) table next := by
  intro k other missing
  rw [Table.find_of_insert done, missing]
  simp [Ne.symm other]

theorem update : OnlyBrings drawn table (table.update hit change keeps) := by
  intro k other missing
  rw [Table.find_update, missing]
  rfl

theorem updateRow (done : updateRow table k change keeps = .ok next) :
    OnlyBrings drawn table next := by
  obtain ⟨-, rfl⟩ := updateRow_ok.mp done
  exact .update

theorem delete : OnlyBrings drawn table (table.delete hit) := by
  intro k other missing
  rw [Table.find_delete, missing]
  rfl

end OnlyBrings

end

/-- Students, groups and lessons come under the id a request draws, and under no other. -/
structure Db.Brings (drawn : Id) (db next : Db) : Prop where
  students : OnlyBrings drawn db.students next.students
  groups : OnlyBrings drawn db.groups next.groups
  lessons : OnlyBrings drawn db.lessons next.lessons

section

variable {platform : Platform} {user : User} {outside : Outside} {world : World} {drawn : Id}
  {db next : Db}

theorem Db.Brings.refl (drawn : Id) (db : Db) : db.Brings drawn db := ⟨.refl _ _, .refl _ _, .refl _ _⟩

theorem Db.deleteStudent_brings {id : Id} (done : db.deleteStudent id = .ok next) :
    db.Brings drawn next := by
  obtain ⟨-, rfl⟩ := deleteStudent_ok.mp done
  exact ⟨.delete, .refl _ _, .delete⟩

theorem Db.deleteGroup_brings {id : Id} (done : db.deleteGroup id = .ok next) :
    db.Brings drawn next := by
  obtain ⟨-, rfl⟩ := deleteGroup_ok.mp done
  exact ⟨.refl _ _, .delete, .delete⟩

theorem GradebookService.writeMark_students {lessonId : Id} {mark : MarkAttendanceDto}
    (done : writeMark lessonId mark db = .ok next) : OnlyBrings drawn db.students next.students := by
  obtain ⟨settled, settles, marking⟩ := bind_ok.mp done
  obtain ⟨-, rfl⟩ := Db.upsertAttendance_ok.mp marking
  intro k other missing
  show settled.students.find k = none
  rw [settle_students settles k, missing]
  simp

theorem GradebookService.writeMarks_students {lessonId : Id} {marks : List MarkAttendanceDto}
    (done : writeMarks lessonId marks db = .ok next) :
    OnlyBrings drawn db.students next.students := by
  induction marks generalizing db with
  | nil => exact .of_eq (congrArg Db.students (Except.ok.inj done).symm)
  | cons mark rest ih =>
      obtain ⟨marked, written, later⟩ := bind_ok.mp done
      exact (writeMark_students written).trans (ih later)

theorem GradebookService.writeJournal_brings {lessonId : Id} {dto : WriteJournalDto}
    {view : JournalView} (success : writeJournal platform user lessonId dto db = .ok (view, next)) :
    db.Brings drawn next := by
  obtain ⟨_, _, -, -, -, -, marked, updated⟩ := writeJournal_accepted success
  have students : OnlyBrings drawn db.students _ := writeMarks_students marked
  obtain ⟨_, _, rfl⟩ := writeMarks_frame marked
  obtain ⟨lessons, written, rfl⟩ := Db.updateLesson_ok.mp updated
  exact ⟨students, .refl _ _, .updateRow written⟩

theorem LessonsService.create_brings {endpoints : Endpoints} {draw : Draw} {dto : CreateLessonDto} :
    db.Brings draw.id (create platform user draw endpoints dto db).db := by
  unfold create
  dsimp only
  split
  · exact .refl _ _
  · rename_i subjectId _
    obtain ⟨accounts, same⟩ := meetingFor_db platform user draw endpoints subjectId
      (platform.parseDate dto.startsAt) dto.durationMinutes db
    split
    · rw [same]
      exact ⟨.refl _ _, .refl _ _, .refl _ _⟩
    · split
      · rw [same]
        exact ⟨.refl _ _, .refl _ _, .refl _ _⟩
      · rename_i stored
        obtain ⟨_, -, _, -, row, own, created, -⟩ := storeLesson_ok.mp stored
        obtain ⟨-, lessons, inserted, rfl⟩ := Db.createLesson_ok.mp created
        have brought : OnlyBrings row.id db.lessons lessons := by
          rw [same] at inserted
          exact .insert inserted
        rw [own] at brought
        rw [same]
        exact ⟨.refl _ _, .refl _ _, brought⟩

theorem Command.run_brings (command : Command) :
    world.db.Brings outside.draw.id (command.run platform user outside world).world.db := by
  have same : world.db.WritesOnly command.footprint
      (command.run platform user outside world).world.db := command.run_only
  cases command with
  | createStudent dto =>
      refine World.commit_keeps (world.db.Brings outside.draw.id) (.refl _ _) fun view db success => ?_
      obtain ⟨_, -, created, -⟩ := StudentsService.create_ok.mp success
      obtain ⟨-, -, students, inserted, rfl⟩ := Db.createStudent_ok.mp created
      exact ⟨.insert inserted, .refl _ _, .refl _ _⟩
  | updateStudent id dto =>
      refine World.commit_keeps (world.db.Brings outside.draw.id) (.refl _ _) fun view db success => ?_
      obtain ⟨_, -, _, -, _, -, updated, -⟩ := StudentsService.update_ok.mp success
      obtain ⟨-, -, students, written, rfl⟩ := Db.updateStudent_ok.mp updated
      exact ⟨.updateRow written, .refl _ _, .refl _ _⟩
  | removeStudent id =>
      refine World.commitUnit_keeps (world.db.Brings outside.draw.id) (.refl _ _) fun db success => ?_
      obtain ⟨_, -, deleted⟩ := StudentsService.remove_ok.mp success
      exact Db.deleteStudent_brings deleted
  | createGroup dto =>
      refine World.commit_keeps (world.db.Brings outside.draw.id) (.refl _ _) fun view db success => ?_
      obtain ⟨_, -, created, -⟩ := GroupsService.create_ok.mp success
      obtain ⟨-, groups, inserted, rfl⟩ := Db.createGroup_ok.mp created
      exact ⟨.refl _ _, .insert inserted, .refl _ _⟩
  | updateGroup id dto =>
      refine World.commit_keeps (world.db.Brings outside.draw.id) (.refl _ _) fun view db success => ?_
      obtain ⟨_, -, _, -, _, -, updated, -⟩ := GroupsService.update_ok.mp success
      obtain ⟨-, groups, written, rfl⟩ := Db.updateGroup_ok.mp updated
      exact ⟨.refl _ _, .updateRow written, .refl _ _⟩
  | removeGroup id =>
      refine World.commitUnit_keeps (world.db.Brings outside.draw.id) (.refl _ _) fun db success => ?_
      obtain ⟨_, -, deleted⟩ := GroupsService.remove_ok.mp success
      exact Db.deleteGroup_brings deleted
  | createLesson dto => exact LessonsService.create_brings
  | updateLessonStatus id status =>
      refine World.commit_keeps (world.db.Brings outside.draw.id) (.refl _ _) fun view db success => ?_
      obtain ⟨_, -, updated, -⟩ := LessonsService.updateStatus_ok.mp success
      obtain ⟨lessons, written, rfl⟩ := Db.updateLesson_ok.mp updated
      exact ⟨.refl _ _, .refl _ _, .updateRow written⟩
  | writeJournal lessonId dto =>
      refine World.commit_keeps (world.db.Brings outside.draw.id) (.refl _ _) fun view db success => ?_
      exact GradebookService.writeJournal_brings success
  | _ =>
      exact ⟨.of_eq (same .students (by simp [footprint])),
        .of_eq (same .groups (by simp [footprint])), .of_eq (same .lessons (by simp [footprint]))⟩

theorem Request.serve_brings (request : Request) :
    world.db.Brings outside.draw.id (request.serve platform outside world).world.db := by
  cases request with
  | query userId asked =>
      unfold serve
      dsimp only
      split <;> exact .refl _ _
  | command userId asked =>
      unfold serve
      dsimp only
      split
      · exact .refl _ _
      · exact asked.run_brings
  | anonymous call =>
      have same : world.db.WritesOnly call.footprint (call.run platform outside world).world.db :=
        call.run_only
      exact ⟨.of_eq (same .students (by cases call <;> simp [PublicCall.footprint])),
        .of_eq (same .groups (by cases call <;> simp [PublicCall.footprint])),
        .of_eq (same .lessons (by cases call <;> simp [PublicCall.footprint]))⟩

/-- The students and groups an admin or their tutor removes. -/
inductive Removal where
  | student (id : Id)
  | group (id : Id)

def Removal.command : Removal → Command
  | student id => .removeStudent id
  | group id => .removeGroup id

/-- What a removal takes that other rows refer to: the row itself, and the lessons held for it. -/
def Removal.Takes (db : Db) : Removal → Ref → Prop
  | student id, .student other => other = id
  | student id, .lesson lesson => ∃ row ∈ db.lessons.find lesson, row.studentId = some id
  | group id, .group other => other = id
  | group id, .lesson lesson => ∃ row ∈ db.lessons.find lesson, row.groupId = some id
  | _, _ => False

/-- No student, group or lesson is drawn under the id of what is named. -/
def Ref.Drawn (drawn : Id) (ref : Ref) : Prop :=
  ref = .student drawn ∨ ref = .group drawn ∨ ref = .lesson drawn

/-- The lessons that are dropped are found no more. -/
theorem Db.dropped_gone {gone : Lesson → Bool} {lesson : Id} {row : Lesson}
    (found : db.lessons.find lesson = some row) (goes : gone row = true) :
    ((db.lessons.delete gone).find lesson).map Lesson.schoolId = none := by
  rw [Table.find_delete, found]
  simp [goes]

theorem Db.deleteStudent_takes {id : Id} {ref : Ref} (takes : (Removal.student id).Takes db ref)
    (done : db.deleteStudent id = .ok next) : next.home ref = none := by
  obtain ⟨-, rfl⟩ := deleteStudent_ok.mp done
  cases ref with
  | student other =>
      obtain rfl : other = id := takes
      show ((db.students.delete fun row => row.id == other).find other).map Student.schoolId = none
      rw [Table.find_delete]
      cases found : db.students.find other with
      | none => rfl
      | some row => simp [show row.id = other from (Table.find_eq_some.mp found).2]
  | lesson lesson =>
      obtain ⟨row, found, own⟩ := takes
      exact dropped_gone found (by simp [own])
  | _ => exact takes.elim

theorem Db.deleteGroup_takes {id : Id} {ref : Ref} (takes : (Removal.group id).Takes db ref)
    (done : db.deleteGroup id = .ok next) : next.home ref = none := by
  obtain ⟨-, rfl⟩ := deleteGroup_ok.mp done
  cases ref with
  | group other =>
      obtain rfl : other = id := takes
      show ((db.groups.delete fun row => row.id == other).find other).map Group.schoolId = none
      rw [Table.find_delete]
      cases found : db.groups.find other with
      | none => rfl
      | some row => simp [show row.id = other from (Table.find_eq_some.mp found).2]
  | lesson lesson =>
      obtain ⟨row, found, own⟩ := takes
      exact dropped_gone found (by simp [own])
  | _ => exact takes.elim

/-- The removal leaves nothing under what it takes. -/
theorem Removal.takes_gone {removal : Removal} {ref : Ref} {response : Response}
    (takes : removal.Takes world.db ref)
    (done : (removal.command.run platform user outside world).result = .ok response) :
    (removal.command.run platform user outside world).world.db.home ref = none := by
  cases removal with
  | student id =>
      simp only [command, Command.run] at done ⊢
      cases removed : StudentsService.remove user id world.db with
      | error reason => rw [removed] at done; cases done
      | ok next =>
          obtain ⟨row, found, deleted⟩ := StudentsService.remove_ok.mp removed
          have own : row.id = id :=
            (Table.find_eq_some.mp ((StudentsService.findOne_ok user).mp found).1).2
          rw [own] at deleted
          exact Db.deleteStudent_takes takes deleted
  | group id =>
      simp only [command, Command.run] at done ⊢
      cases removed : GroupsService.remove user id world.db with
      | error reason => rw [removed] at done; cases done
      | ok next =>
          obtain ⟨row, found, deleted⟩ := GroupsService.remove_ok.mp removed
          have own : row.id = id :=
            (Table.find_eq_some.mp ((GroupsService.findOne_ok user).mp found).1).2
          rw [own] at deleted
          exact Db.deleteGroup_takes takes deleted

theorem Removal.takes_kind {removal : Removal} {ref : Ref} (takes : removal.Takes db ref) :
    ∃ id, ref = .student id ∨ ref = .group id ∨ ref = .lesson id := by
  cases ref with
  | student id => exact ⟨id, .inl rfl⟩
  | group id => exact ⟨id, .inr (.inl rfl)⟩
  | lesson id => exact ⟨id, .inr (.inr rfl)⟩
  | _ => cases removal <;> exact takes.elim

/-- What is gone stays gone over a request that draws another id. -/
theorem Db.Brings.gone {ref : Ref} (brings : db.Brings drawn next) (other : ¬ ref.Drawn drawn)
    (kind : ∃ id, ref = .student id ∨ ref = .group id ∨ ref = .lesson id)
    (gone : db.home ref = none) : next.home ref = none := by
  obtain ⟨id, rfl | rfl | rfl⟩ := kind
  · have apart : id ≠ drawn := fun same => other (.inl (congrArg Ref.student same))
    exact Option.map_eq_none_iff.mpr
      (brings.students id apart (Option.map_eq_none_iff.mp gone))
  · have apart : id ≠ drawn := fun same => other (.inr (.inl (congrArg Ref.group same)))
    exact Option.map_eq_none_iff.mpr (brings.groups id apart (Option.map_eq_none_iff.mp gone))
  · have apart : id ≠ drawn := fun same => other (.inr (.inr (congrArg Ref.lesson same)))
    exact Option.map_eq_none_iff.mpr (brings.lessons id apart (Option.map_eq_none_iff.mp gone))

/-- What is gone stays gone over a run that never draws it again. -/
theorem World.after_gone {ref : Ref} (requests : List (Outside × Request))
    (kind : ∃ id, ref = .student id ∨ ref = .group id ∨ ref = .lesson id)
    (fresh : ∀ asked ∈ requests, ¬ ref.Drawn asked.1.draw.id) (gone : world.db.home ref = none) :
    (world.after platform requests).db.home ref = none := by
  induction requests generalizing world with
  | nil => exact gone
  | cons asked rest ih =>
      have brings : world.db.Brings asked.1.draw.id
          (asked.2.serve platform asked.1 world).world.db := asked.2.serve_brings
      have still := brings.gone (fresh asked List.mem_cons_self) kind gone
      exact ih (fun other member => fresh other (List.mem_cons_of_mem _ member)) still

/-- Over any run that draws none of their ids again, neither a student nor a group that was removed
comes back, nor a lesson held for it, and no row of any table refers to one of them. -/
theorem removals_are_final {removal : Removal} {userId : Id} {response : Response}
    (reachable : Reachable platform world)
    (removed : ((Request.command userId removal.command).serve platform outside world).result =
      .ok response)
    (requests : List (Outside × Request))
    (fresh : ∀ asked ∈ requests, ∀ ref, removal.Takes world.db ref →
      ¬ ref.Drawn asked.1.draw.id) {ref : Ref} (takes : removal.Takes world.db ref) :
    let later := World.after platform requests
      ((Request.command userId removal.command).serve platform outside world).world
    later.db.home ref = none ∧ ∀ row, later.db.Holds row → ref ∉ row.refs := by
  intro later
  have taken : ((Request.command userId removal.command).serve platform outside world).world.db.home
      ref = none := by
    unfold Request.serve at removed ⊢
    dsimp only at removed ⊢
    split at removed
    · cases removed
    · exact removal.takes_gone takes removed
  have gone : later.db.home ref = none :=
    World.after_gone requests (Removal.takes_kind takes)
      (fun asked member => fresh asked member ref takes) taken
  refine ⟨gone, fun row held refers => ?_⟩
  have kept : Reachable platform later :=
    Reachable.after platform (reachable.tail ⟨outside, _, rfl⟩) requests
  obtain ⟨tenant, belongs⟩ := kept.tenanted row held
  have leads : later.db.home ref = some tenant := belongs ref refers
  rw [gone] at leads
  cases leads

end

/-- A student with a lesson written up for him, a mark, a note and a file. -/
def attended : World := World.empty.after .plain [
  foxSchool,
  enrol "a1" "p1" "Tom",
  (.quiet "l1", .command "a1" (.createLesson
    ⟨.given "p1", .absent, .absent, "2026-03-01T10:00:00.000Z", 60⟩)),
  (.quiet "", .command "a1" (.writeJournal "l1"
    ⟨.absent, .absent, .given [⟨"p1", .present, .absent⟩], .absent⟩)),
  (.quiet "g1", .command "a1" (.addGradeForLesson "l1"
    ⟨.given "p1", .classic, some 5, .absent, none, .absent⟩)),
  (.quiet "n1", .command "a1" (.addNoteForStudent "p1" "Starts late")),
  (.quiet "f1" "f1", .command "a1" (.uploadForStudent "p1"
    ⟨"tom.txt", "text/plain", 5, [104, 101, 108, 108, 111]⟩))]

/-- Tom is removed, another student comes, and nothing is left of Tom or of his lesson. -/
theorem tom_stays_removed :
    let left := ((Request.command "a1" (.removeStudent "p1")).serve .plain (.quiet "x1")
      attended).world
    let later := World.after .plain [enrol "a1" "p2" "Ann"] left
    (∃ entry ∈ attended.db.attendances.rows, Ref.student "p1" ∈ (Row.attendance entry).refs) ∧
      (∃ grade ∈ attended.db.grades.rows, Ref.student "p1" ∈ (Row.grade grade).refs) ∧
      (∃ note ∈ attended.db.notes.rows, Ref.student "p1" ∈ (Row.note note).refs) ∧
      (∃ file ∈ attended.db.files.rows, Ref.student "p1" ∈ (Row.file file).refs) ∧
      later.db.home (.student "p1") = none ∧ later.db.home (.lesson "l1") = none ∧
      later.db.home (.student "p2") = some "s1" ∧
      ∀ row, later.db.Holds row → Ref.student "p1" ∉ row.refs ∧ Ref.lesson "l1" ∉ row.refs := by
  intro left later
  have reachable : Reachable .plain attended := Reachable.after _ .refl _
  have removed : ((Request.command "a1" (Removal.student "p1").command).serve .plain (.quiet "x1")
      attended).result = .ok .done := rfl
  have fresh : ∀ asked ∈ [enrol "a1" "p2" "Ann"], ∀ ref,
      (Removal.student "p1").Takes attended.db ref → ¬ ref.Drawn asked.1.draw.id := by
    intro asked member ref takes drawn
    obtain rfl := List.mem_singleton.mp member
    rcases drawn with rfl | rfl | rfl
    · exact absurd (show "p2" = "p1" from takes) (by decide)
    · exact takes.elim
    · obtain ⟨row, found, -⟩ := takes
      have missing : attended.db.lessons.find "p2" = none := by decide
      cases missing.symm.trans found
  have tom : (Removal.student "p1").Takes attended.db (.student "p1") := rfl
  have lesson : (Removal.student "p1").Takes attended.db (.lesson "l1") := by
    show ∃ row ∈ attended.db.lessons.find "l1", row.studentId = some "p1"
    decide
  obtain ⟨gone, unnamed⟩ := removals_are_final reachable removed _ fresh tom
  obtain ⟨dropped, unheld⟩ := removals_are_final reachable removed _ fresh lesson
  exact ⟨by decide, by decide, by decide, by decide, gone, dropped, by decide,
    fun row held => ⟨unnamed row held, unheld row held⟩⟩

end TutorApp
