import TutorApp.Ledger
import TutorApp.Writes

set_option autoImplicit false

namespace TutorApp

open Relational

/-- Everything hangs on exactly what it should; no column of the schema says so. -/
structure Db.Owned (db : Db) : Prop where
  lessons : ∀ row ∈ db.lessons.rows, row.studentId.isSome ↔ row.groupId = none
  notes : ∀ row ∈ db.notes.rows, row.studentId.isSome ↔ row.lessonId = none
  files : ∀ row ∈ db.files.rows, row.Placed
  grades : ∀ row ∈ db.grades.rows, db.Fits row.studentId row.lessonId

namespace Db

variable {db next : Db} {id : Id}

theorem owned_empty : Db.empty.Owned := by
  constructor <;> exact fun _ member => absurd member List.not_mem_nil

theorem Owned.same (owned : db.Owned) (lessons : next.lessons = db.lessons)
    (notes : next.notes = db.notes) (files : next.files = db.files)
    (grades : next.grades = db.grades) : next.Owned := by
  constructor
  · rw [lessons]
    exact owned.lessons
  · rw [notes]
    exact owned.notes
  · rw [files]
    exact owned.files
  · unfold Fits
    rw [lessons, grades]
    exact owned.grades

/-- Where fewer notes, files and marks are left, with the same lessons. -/
theorem Owned.shrink (owned : db.Owned) (lessons : next.lessons = db.lessons)
    (notes : ∀ row ∈ next.notes.rows, row ∈ db.notes.rows)
    (files : ∀ row ∈ next.files.rows, row ∈ db.files.rows)
    (grades : ∀ row ∈ next.grades.rows, row ∈ db.grades.rows) : next.Owned where
  lessons := by
    rw [lessons]
    exact owned.lessons
  notes row member := owned.notes row (notes row member)
  files row member := owned.files row (files row member)
  grades row member := by
    unfold Fits
    rw [lessons]
    exact owned.grades row (grades row member)

/-- A mark whose lesson goes loses the reference; the others keep a lesson that stays. -/
theorem Owned.dropLessons (owned : db.Owned) (gone : Lesson → Bool) :
    (db.dropLessons gone).Owned where
  lessons row member := owned.lessons row (Table.mem_delete.mp member).1
  notes row member := owned.notes row (Table.mem_delete.mp member).1
  files row member := owned.files row (Table.mem_delete.mp member).1
  grades row member := by
    obtain ⟨old, present, rfl⟩ := List.mem_map.mp member
    intro id filed
    by_cases dropped : old.lessonId.any (db.lessonGone gone) = true
    · rw [if_pos dropped] at filed
      cases filed
    · rw [if_neg dropped] at filed ⊢
      obtain ⟨lesson, found, own⟩ := owned.grades old present id filed
      rw [Option.mem_def] at filed
      rw [filed, Option.any_some, lessonGone, found, Option.any_some] at dropped
      refine ⟨lesson, ?_, own⟩
      rw [show (db.dropLessons gone).lessons = db.lessons.delete gone from rfl, Table.find_delete,
        found, Option.filter_some, if_pos]
      rw [Bool.eq_false_iff.mpr dropped]
      rfl

theorem Owned.deleteStudent (owned : db.Owned) (done : db.deleteStudent id = .ok next) :
    next.Owned := by
  rw [← (deleteStudent_ok.mp done).2]
  refine (owned.dropLessons _).shrink rfl ?_ ?_ ?_
  · exact fun row member => (Table.mem_delete.mp member).1
  · exact fun row member => (Table.mem_delete.mp member).1
  · exact fun row member => (Table.mem_delete.mp member).1

theorem Owned.deleteGroup (owned : db.Owned) (done : db.deleteGroup id = .ok next) :
    next.Owned := by
  rw [← (deleteGroup_ok.mp done).2]
  exact (owned.dropLessons _).same rfl rfl rfl rfl

theorem Owned.createLesson {row : Lesson} (owned : db.Owned)
    (one : row.studentId.isSome ↔ row.groupId = none) (done : db.createLesson row = .ok next) :
    next.Owned := by
  obtain ⟨-, lessons, inserted, rfl⟩ := Db.createLesson_ok.mp done
  refine ⟨fun other member => ?_, owned.notes, owned.files, fun mark member id filed => ?_⟩
  · rcases (Table.mem_insert inserted).mp member with old | rfl
    · exact owned.lessons other old
    · exact one
  · -- the lesson a mark is filed against was there before
    obtain ⟨lesson, found, own⟩ := owned.grades mark member id filed
    exact ⟨lesson, Table.find_after_insert inserted found, own⟩

theorem Owned.updateLesson {patch : LessonPatch} (owned : db.Owned)
    (done : db.updateLesson id patch = .ok next) : next.Owned := by
  obtain ⟨lessons, updated, rfl⟩ := Db.updateLesson_ok.mp done
  refine ⟨fun row member => ?_, owned.notes, owned.files, fun mark member other filed => ?_⟩
  · rcases of_mem_updateRow updated member with old | ⟨old, present, -, rfl⟩
    · exact owned.lessons row old
    · exact owned.lessons old present
  · obtain ⟨lesson, found, own⟩ := owned.grades mark member other filed
    obtain ⟨-, rfl⟩ := updateRow_ok.mp updated
    have later := Table.find_update_key db.lessons id patch.apply patch.key_apply other
    rw [found, Option.map_some] at later
    split at later
    · exact ⟨patch.apply lesson, later, own⟩
    · exact ⟨lesson, later, own⟩

theorem Owned.createNote {row : Note} (owned : db.Owned)
    (one : row.studentId.isSome ↔ row.lessonId = none) (done : db.createNote row = .ok next) :
    next.Owned := by
  obtain ⟨-, notes, inserted, rfl⟩ := Db.createNote_ok.mp done
  refine ⟨owned.lessons, fun other member => ?_, owned.files, owned.grades⟩
  rcases (Table.mem_insert inserted).mp member with old | rfl
  · exact owned.notes other old
  · exact one

theorem Owned.createGrade {row : Grade} (owned : db.Owned)
    (fits : db.Fits row.studentId row.lessonId) (done : db.createGrade row = .ok next) :
    next.Owned := by
  obtain ⟨-, grades, inserted, rfl⟩ := Db.createGrade_ok.mp done
  refine ⟨owned.lessons, owned.notes, owned.files, fun other member => ?_⟩
  rcases (Table.mem_insert inserted).mp member with old | rfl
  · exact owned.grades other old
  · exact fits

theorem Owned.updateGrade {data : GradeData} (owned : db.Owned)
    (done : db.updateGrade id data = .ok next) : next.Owned := by
  obtain ⟨grades, updated, rfl⟩ := Db.updateGrade_ok.mp done
  refine ⟨owned.lessons, owned.notes, owned.files, fun row member => ?_⟩
  rcases of_mem_updateRow updated member with old | ⟨old, present, -, rfl⟩
  · exact owned.grades row old
  · exact owned.grades old present

theorem Owned.createFile {row : File} (owned : db.Owned) (placed : row.Placed)
    (done : db.createFile row = .ok next) : next.Owned := by
  obtain ⟨-, -, -, files, inserted, rfl⟩ := Db.createFile_ok.mp done
  refine ⟨owned.lessons, owned.notes, fun other member => ?_, owned.grades⟩
  rcases (Table.mem_insert inserted).mp member with old | rfl
  · exact owned.files other old
  · exact placed

theorem Owned.finaliseFile {storageKey : String} {uploadedAt : Js.Instant} (owned : db.Owned)
    (done : db.finaliseFile id storageKey uploadedAt = .ok next) : next.Owned := by
  obtain ⟨-, files, updated, rfl⟩ := Db.finaliseFile_ok.mp done
  refine ⟨owned.lessons, owned.notes, fun row member => ?_, owned.grades⟩
  rcases of_mem_updateRow updated member with old | ⟨old, present, -, rfl⟩
  · exact owned.files row old
  · have placed := owned.files old present
    exact ⟨placed.student, placed.lesson⟩

theorem mem_of_deleteRow {ρ : Type} [Keyed ρ Id] {table rest : Table ρ} {row : ρ}
    (done : deleteRow table id = .ok rest) (member : row ∈ rest.rows) : row ∈ table.rows := by
  obtain ⟨-, rfl⟩ := deleteRow_ok.mp done
  exact (Table.mem_delete.mp member).1

theorem Founds.owned {school : School} {admin : User} (founds : db.Founds next school admin)
    (owned : db.Owned) : next.Owned := by
  obtain ⟨-, -, founded, created, joined⟩ := founds
  obtain ⟨-, schools, -, rfl⟩ := createSchool_ok.mp created
  obtain ⟨-, -, users, -, rfl⟩ := createUser_ok.mp joined
  exact owned.same rfl rfl rfl rfl

theorem Write.owned (write : db.Write next) (owned : db.Owned) : next.Owned := by
  cases write with
  | aside | respond => exact owned.same rfl rfl rfl rfl
  | updateSchool id name timezone done =>
      obtain ⟨schools, -, rfl⟩ := Db.updateSchool_ok.mp done
      exact owned.same rfl rfl rfl rfl
  | enlist row role done =>
      obtain ⟨-, -, users, -, rfl⟩ := createUser_ok.mp done
      exact owned.same rfl rfl rfl rfl
  | configure id config done =>
      obtain ⟨users, -, rfl⟩ := updateUserConfig_ok.mp done
      exact owned.same rfl rfl rfl rfl
  | invite row role done =>
      obtain ⟨-, -, stored⟩ := upsertInvitation_ok.mp done
      split at stored
      · rw [← stored]
        exact owned.same rfl rfl rfl rfl
      · obtain ⟨invitations, -, rfl⟩ := stored
        exact owned.same rfl rfl rfl rfl
  | book row one done => exact owned.createLesson one done
  | updateLesson id patch done => exact owned.updateLesson done
  | deleteStudent id done => exact owned.deleteStudent done
  | deleteGroup id done => exact owned.deleteGroup done
  | note row one done => exact owned.createNote one done
  | deleteNote id done =>
      obtain ⟨notes, deleted, rfl⟩ := Db.deleteNote_ok.mp done
      exact owned.shrink rfl (fun _ => mem_of_deleteRow deleted) (fun _ same => same)
        fun _ same => same
  | grade row fits done => exact owned.createGrade fits done
  | updateGrade id data done => exact owned.updateGrade done
  | deleteGrade id done =>
      obtain ⟨grades, deleted, rfl⟩ := Db.deleteGrade_ok.mp done
      exact owned.shrink rfl (fun _ same => same) (fun _ same => same)
        fun _ => mem_of_deleteRow deleted
  | file row placed done => exact owned.createFile placed done
  | finaliseFile id storageKey uploadedAt done => exact owned.finaliseFile done
  | deleteFile id done =>
      obtain ⟨files, deleted, rfl⟩ := Db.deleteFile_ok.mp done
      exact owned.shrink rfl (fun _ same => same) (fun _ => mem_of_deleteRow deleted)
        fun _ same => same

end Db

section

variable {platform : Platform} {world : World}

theorem Reachable.owned (reachable : Reachable platform world) : world.db.Owned :=
  reachable.preserve Db.Write.owned Db.Founds.owned Db.owned_empty

theorem one_of_two {first second : Option Id} (one : first.isSome ↔ second = none) :
    (first.isSome ∧ second = none) ∨ (first = none ∧ second.isSome) := by
  cases first with
  | some => exact .inl ⟨rfl, one.mp rfl⟩
  | none =>
      refine .inr ⟨rfl, ?_⟩
      rw [Option.isSome_iff_ne_none]
      intro neither
      cases one.mpr neither

/-- Whatever was asked for in whatever order, with everything deletions took along. -/
theorem exactly_one_owner (reachable : Reachable platform world) :
    (∀ lesson ∈ world.db.lessons.rows, (lesson.studentId.isSome ∧ lesson.groupId = none) ∨
      (lesson.studentId = none ∧ lesson.groupId.isSome)) ∧
    (∀ note ∈ world.db.notes.rows, (note.studentId.isSome ∧ note.lessonId = none) ∨
      (note.studentId = none ∧ note.lessonId.isSome)) ∧
    (∀ file ∈ world.db.files.rows, (file.studentId.isSome ↔ file.purpose = .studentAttachment) ∧
      (file.lessonId.isSome ↔ file.purpose = .lessonAttachment)) ∧
    (∀ left ∈ world.db.attendances.rows, ∀ right ∈ world.db.attendances.rows,
      left.lessonId = right.lessonId → left.studentId = right.studentId → left = right) ∧
    ∀ grade ∈ world.db.grades.rows, ∀ lesson ∈ world.db.lessons.rows,
      grade.lessonId = some lesson.id → ∀ studentId, lesson.studentId = some studentId →
        grade.studentId = studentId := by
  have owned := reachable.owned
  refine ⟨fun lesson member => one_of_two (owned.lessons lesson member),
    fun note member => one_of_two (owned.notes note member),
    fun file member => ⟨(owned.files file member).student, (owned.files file member).lesson⟩, ?_, ?_⟩
  · intro left first right second lesson student
    exact Table.key_injective first second (Prod.ext lesson student)
  · intro grade member lesson listed filed studentId names
    obtain ⟨found, lookup, own⟩ := owned.grades grade member lesson.id filed
    have itself : world.db.lessons.find lesson.id = some lesson := Table.find_key listed
    rw [itself] at lookup
    obtain rfl := Option.some.inj lookup
    exact own studentId names

end

def soloLesson : World := World.empty.after .plain [foxSchool, enrol "a1" "k1" "Kim",
  (.quiet "l1", .command "a1" (.createLesson
    ⟨.given "k1", .absent, .absent, "2026-03-01T10:00:00.000Z", 60⟩)),
  (.quiet "n1", .command "a1" (.addNoteForLesson "l1" "Fractions")),
  (.quiet "v1", .command "a1" (.addGradeForLesson "l1"
    ⟨.absent, .classic, some 10, .absent, none, .absent⟩))]

/-- The mark is the student's own, and the note hangs on the lesson alone. -/
theorem soloLesson_owners :
    (∃ grade ∈ soloLesson.db.grades.rows, grade.lessonId = some "l1" ∧ grade.studentId = "k1") ∧
    ∃ note ∈ soloLesson.db.notes.rows, note.lessonId = some "l1" ∧ note.studentId = none := by
  have reachable : Reachable .plain soloLesson := .after .plain .refl _
  obtain ⟨-, notes, -, -, grades⟩ := exactly_one_owner reachable
  have filed : (soloLesson.db.lessons.find "l1").any
      (fun row => row.studentId == some "k1") = true := by
    decide +kernel
  obtain ⟨lesson, found, own⟩ := (Option.any_eq_true ..).mp filed
  obtain ⟨listed, itself⟩ := Table.find_eq_some.mp found
  have marked : soloLesson.db.grades.rows.any (fun row => row.lessonId == some "l1") = true := by
    decide +kernel
  have noted : soloLesson.db.notes.rows.any (fun row => row.lessonId == some "l1") = true := by
    decide +kernel
  obtain ⟨grade, member, against⟩ := List.any_eq_true.mp marked
  obtain ⟨note, present, on⟩ := List.any_eq_true.mp noted
  rw [beq_iff_eq] at own against on
  refine ⟨⟨grade, member, against, ?_⟩, note, present, on, ?_⟩
  · refine grades grade member lesson listed ?_ "k1" own
    rw [against]
    exact congrArg some itself.symm
  · rcases notes note present with ⟨-, neither⟩ | ⟨none, -⟩
    · rw [on] at neither
      cases neither
    · exact none

end TutorApp
