import TutorApp.TenantIsolation
import TutorApp.Texts

set_option autoImplicit false

namespace TutorApp

open Relational

/-- The greatest value of a classic mark of a student: the scale of the school they go to. -/
def Db.scaleFor (db : Db) (studentId : Id) : Option Int :=
  ((db.home (.student studentId)).bind db.schools.find).map School.gradeScaleMax

/-- A mark whose contents go with its kind, under a count of characters. -/
structure Grade.WellFormed (characters : String → Nat) (scale : Option Int) (grade : Grade) :
    Prop where
  weight : 1 ≤ grade.weight ∧ grade.weight ≤ 20
  comment : ∀ text ∈ grade.comment, characters text ≤ 2000
  classic : grade.kind = .classic → ∃ value max, grade.value = some value ∧ scale = some max ∧
    0 ≤ value ∧ value ≤ max
  percentage : grade.kind = .percentage → ∃ value, grade.value = some value ∧
    0 ≤ value ∧ value ≤ 100
  descriptive : grade.kind = .descriptive → grade.value = none ∧
    ∃ text, grade.comment = some text ∧ Js.trim text ≠ ""

def Db.GradesWellFormed (characters : String → Nat) (db : Db) : Prop :=
  ∀ grade ∈ db.grades.rows, grade.WellFormed characters (db.scaleFor grade.studentId)

/-- What the validators of `WriteGradeDto` let through, given how they count characters. A
comment is only looked at on a descriptive mark, a value on the others. -/
structure WriteGradeDto.Admitted (characters : String → Nat) (dto : WriteGradeDto) : Prop where
  value : dto.kind ≠ .descriptive → ∃ value, dto.value = some value ∧ 0 ≤ value
  category : ∀ text, dto.category = .given text → characters text ≤ 80
  comment : dto.kind = .descriptive → ∃ text, dto.comment = some (.str text) ∧
    characters text ≤ 2000
  weight : ∀ weight, dto.weight = .given weight → 1 ≤ weight ∧ weight ≤ 20

/-- The words of a descriptive mark are there once trimmed, and those of another mark are not
too many. -/
def WriteGradeDto.Worded (characters : String → Nat) (dto : WriteGradeDto) : Prop :=
  ∀ text, dto.comment = some (.str text) →
    if dto.kind = .descriptive then Js.trim text ≠ ""
    else Js.trim text = "" ∨ characters (Js.trim text) ≤ 2000

namespace GradebookService

variable {characters : String → Nat} {platform : Platform} {user : User} {draw : Draw} {db next : Db}
  {dto : WriteGradeDto} {data : Db.GradeData} {view : GradeWithAuthor} {studentId : Id}

theorem commentColumn_ok {sent : Option Js.Json} {comment : Option String} :
    commentColumn sent = .ok comment ↔
      ((sent = none ∨ sent = some .null) ∧ comment = none) ∨
        ∃ text, sent = some (.str text) ∧ comment = Js.blankToNull (some text) := by
  unfold commentColumn
  split <;> simp_all [eq_comm]

theorem dataFrom_ok : dataFrom dto = .ok data ↔
    ∃ comment, commentColumn dto.comment = .ok comment ∧ data = {
      kind := dto.kind
      value := if dto.kind = .descriptive then none else dto.value
      category := Js.blankToNull dto.category.toOption
      comment
      weight := dto.weight.getD 1 } := by
  simp only [dataFrom, bind_ok, pure_ok]
  exact exists_congr fun _ => and_congr_right fun _ => eq_comm

/-- The value a payload brings is on the scale of its kind. -/
theorem assertValueInScale_ok (checked : assertValueInScale user dto db = .ok ()) {value : ℚ}
    (valued : dto.value = some value) :
    (dto.kind = .percentage → value ≤ 100) ∧
      (dto.kind = .classic → ∃ school, db.schools.find user.schoolId = some school ∧
        value ≤ school.gradeScaleMax) := by
  unfold assertValueInScale at checked
  rw [valued] at checked
  cases kind : dto.kind with
  | descriptive => exact ⟨nofun, nofun⟩
  | percentage =>
      rw [kind] at checked
      exact ⟨fun _ => of_decide_eq_true (require_ok.mp checked), nofun⟩
  | classic =>
      rw [kind] at checked
      refine ⟨nofun, fun _ => ?_⟩
      dsimp only at checked
      split at checked
      · cases checked
      · rename_i school found
        exact ⟨school, found, of_decide_eq_true (require_ok.mp checked)⟩

/-- The columns of an admitted payload that passes the scale check make a well-formed mark of
any row of a student of the school, exactly when the payload is worded. -/
theorem dataFrom_wellFormed (admitted : dto.Admitted characters)
    (trims : ∀ text, characters (Js.trim text) ≤ characters text)
    (checked : assertValueInScale user dto db = .ok ()) (made : dataFrom dto = .ok data)
    (row : Grade) (home : db.home (.student row.studentId) = some user.schoolId) :
    (data.apply row).WellFormed characters (db.scaleFor row.studentId) ↔ dto.Worded characters := by
  obtain ⟨comment, column, rfl⟩ := dataFrom_ok.mp made
  constructor
  · intro formed text sent
    have kept : comment = Js.blankToNull (some text) := by
      rw [sent] at column
      exact (Except.ok.inj column).symm
    split
    · rename_i descriptive
      obtain ⟨-, words, written, -⟩ := formed.descriptive descriptive
      exact (Js.blankToNull_some.mp (kept.symm.trans written)).1
    · by_cases blank : Js.trim text = ""
      · exact .inl blank
      · exact .inr (formed.comment (Js.trim text) (kept.trans (Js.blankToNull_some.mpr ⟨blank, rfl⟩)))
  · intro worded
    constructor
    case weight =>
      change 1 ≤ ((dto.weight.getD 1 : Nat) : Int) ∧ ((dto.weight.getD 1 : Nat) : Int) ≤ 20
      cases sent : dto.weight with
      | absent | null => exact ⟨le_rfl, by decide⟩
      | given weight =>
          obtain ⟨least, most⟩ := admitted.weight weight sent
          rw [Js.Field.getD_given]
          omega
    case comment =>
      intro words written
      have stored : comment = some words := written
      rcases commentColumn_ok.mp column with ⟨-, rfl⟩ | ⟨text, sent, rfl⟩
      · cases stored
      · obtain ⟨visible, rfl⟩ := Js.blankToNull_some.mp stored
        by_cases descriptive : dto.kind = .descriptive
        · obtain ⟨_, same, short⟩ := admitted.comment descriptive
          obtain rfl : text = _ := by simpa [sent] using same
          exact (trims text).trans short
        · have long := worded text sent
          rw [if_neg descriptive] at long
          exact long.resolve_left visible
    case classic =>
      intro classic
      change dto.kind = .classic at classic
      have numeric : dto.kind ≠ .descriptive := by
        rw [classic]
        nofun
      obtain ⟨value, valued, least⟩ := admitted.value numeric
      obtain ⟨school, found, most⟩ := (assertValueInScale_ok checked valued).2 classic
      refine ⟨value, school.gradeScaleMax, (if_neg numeric).trans valued, ?_, least, most⟩
      rw [Db.scaleFor, home, Option.bind_some, found, Option.map_some]
    case percentage =>
      intro percentage
      change dto.kind = .percentage at percentage
      have numeric : dto.kind ≠ .descriptive := by
        rw [percentage]
        nofun
      obtain ⟨value, valued, least⟩ := admitted.value numeric
      exact ⟨value, (if_neg numeric).trans valued, least,
        (assertValueInScale_ok checked valued).1 percentage⟩
    case descriptive =>
      intro descriptive
      change dto.kind = .descriptive at descriptive
      obtain ⟨text, sent, -⟩ := admitted.comment descriptive
      have visible := worded text sent
      rw [if_pos descriptive] at visible
      rw [sent] at column
      refine ⟨if_pos descriptive, Js.trim text, ?_, ?_⟩
      · exact (Except.ok.inj column).symm.trans (Js.blankToNull_some.mpr ⟨visible, rfl⟩)
      · rw [Js.trim_trim]
        exact visible

/-- A mark that is added is well formed exactly when its payload is worded. -/
theorem storeGrade_wellFormed {lessonId : Option Id} (formed : db.GradesWellFormed characters)
    (admitted : dto.Admitted characters)
    (trims : ∀ text, characters (Js.trim text) ≤ characters text)
    (home : db.home (.student studentId) = some user.schoolId)
    (success : storeGrade user draw dto studentId lessonId db = .ok (view, next)) :
    next.GradesWellFormed characters ↔ dto.Worded characters := by
  obtain ⟨checked, data, made, created, -⟩ := storeGrade_ok.mp success
  obtain ⟨-, grades, inserted, rfl⟩ := Db.createGrade_ok.mp created
  have row := dataFrom_wellFormed admitted trims checked made
    (gradeRow user draw data studentId lessonId) home
  refine Iff.trans ⟨fun every => ?_, fun stored grade member => ?_⟩ row
  · exact every _ ((Table.mem_insert inserted).mpr (.inr rfl))
  · rcases (Table.mem_insert inserted).mp member with old | rfl
    · exact formed grade old
    · exact stored

/-- So is one that is corrected, whatever its kind was. -/
theorem update_wellFormed {id : Id} (formed : db.GradesWellFormed characters)
    (admitted : dto.Admitted characters)
    (trims : ∀ text, characters (Js.trim text) ≤ characters text)
    (success : update user id dto db = .ok (view, next)) :
    next.GradesWellFormed characters ↔ dto.Worded characters := by
  obtain ⟨grade, writable, checked, data, made, updated, -⟩ := update_ok.mp success
  obtain ⟨found, ⟨student, reached⟩, -⟩ := findWritable_ok.mp writable
  obtain ⟨grades, rewritten, rfl⟩ := Db.updateGrade_ok.mp updated
  have itself : grade.id = id := (Table.find_eq_some.mp found).2
  have own : student.id = grade.studentId :=
    (Table.find_eq_some.mp ((StudentsService.findOne_ok user).mp reached).1).2
  have home := StudentsService.findOne_home reached
  rw [own] at home
  have row := dataFrom_wellFormed admitted trims checked made grade home
  refine Iff.trans ⟨fun every => ?_, fun stored other member => ?_⟩ row
  · have later := Table.find_update_key db.grades grade.id data.apply data.key_apply grade.id
    rw [if_pos rfl, itself, found, Option.map_some, ← itself] at later
    obtain ⟨-, rfl⟩ := updateRow_ok.mp rewritten
    exact every _ (Table.find_eq_some.mp later).1
  · rcases of_mem_updateRow rewritten member with old | ⟨old, present, same, rfl⟩
    · exact formed other old
    · have read : db.grades.find grade.id = some old := Table.find_eq_some.mpr ⟨present, same⟩
      rw [itself, found] at read
      obtain rfl := Option.some.inj read
      exact stored

/-- The calls that store a mark, with what they are sent. -/
inductive Marking where
  | addForStudent (studentId : Id) (dto : WriteGradeDto)
  | addForLesson (lessonId : Id) (dto : WriteGradeDto)
  | update (id : Id) (dto : WriteGradeDto)

def Marking.payload : Marking → WriteGradeDto
  | addForStudent _ dto | addForLesson _ dto | update _ dto => dto

def Marking.command : Marking → Command
  | addForStudent studentId dto => .addGradeForStudent studentId dto
  | addForLesson lessonId dto => .addGradeForLesson lessonId dto
  | update id dto => .updateGrade id dto

theorem Marking.run_wellFormed {world : World} {outside : Outside} {marking : Marking}
    (tenanted : world.db.Tenanted) (formed : world.db.GradesWellFormed characters)
    (trims : ∀ text, characters (Js.trim text) ≤ characters text)
    (admitted : marking.payload.Admitted characters) (worded : marking.payload.Worded characters) :
    (marking.command.run platform user outside world).world.db.GradesWellFormed characters := by
  cases marking with
  | addForStudent studentId dto =>
      refine World.commit_keeps (Db.GradesWellFormed characters) formed fun _ _ success => ?_
      obtain ⟨_, found, stored⟩ := GradebookService.addForStudent_ok.mp success
      exact (storeGrade_wellFormed formed admitted trims (StudentsService.findOne_home found)
        stored).mpr worded
  | addForLesson lessonId dto =>
      refine World.commit_keeps (Db.GradesWellFormed characters) formed fun _ _ success => ?_
      obtain ⟨lesson, found, _, marked, stored⟩ := GradebookService.addForLesson_ok.mp success
      have home := LessonsService.findReachable_home found
      obtain ⟨lookup, owned⟩ := (LessonsService.findReachable_ok user).mp found
      have belongs := Db.Tenanted.belongs_own tenanted (.lesson lesson)
        (Table.find_eq_some.mp lookup).1 List.mem_cons_self
      rw [User.owns_school owned] at belongs
      exact (storeGrade_wellFormed formed admitted trims
        (resolveMarked_home tenanted belongs home marked) stored).mpr worded
  | update id dto =>
      exact World.commit_keeps (Db.GradesWellFormed characters) formed fun _ _ success =>
        (update_wellFormed formed admitted trims success).mpr worded

end GradebookService

/-- Marks asked for one after the other, each by a user. -/
def markings (calls : List (Outside × Id × GradebookService.Marking)) : List (Outside × Request) :=
  calls.map fun call => (call.1, .command call.2.1 call.2.2.command)

theorem marks_well_formed {platform : Platform} {characters : String → Nat} {world : World}
    (reachable : Reachable platform world) (formed : world.db.GradesWellFormed characters)
    (trims : ∀ text, characters (Js.trim text) ≤ characters text)
    (calls : List (Outside × Id × GradebookService.Marking))
    (met : ∀ call ∈ calls, call.2.2.payload.Admitted characters ∧ call.2.2.payload.Worded characters) :
    (world.after platform (markings calls)).db.GradesWellFormed characters := by
  induction calls generalizing world with
  | nil => exact formed
  | cons call rest ih =>
      obtain ⟨⟨admitted, worded⟩, later⟩ := List.forall_mem_cons.mp met
      refine ih (reachable.tail ⟨call.1, .command call.2.1 call.2.2.command, rfl⟩) ?_ later
      simp only [Request.serve]
      split
      · exact formed
      · exact call.2.2.run_wellFormed reachable.tenanted formed trims admitted worded

/-- Kim has no marks yet. -/
def kimsSchool : World := World.empty.after .plain [foxSchool, enrol "a1" "k1" "Kim"]

theorem kim_unmarked : kimsSchool.db.GradesWellFormed String.length := by
  have none : kimsSchool.db.grades.rows = [] := by decide +kernel
  intro grade member
  rw [none] at member
  cases member

/-- Nine out of twelve, corrected into words. -/
def praise : List (Outside × Id × GradebookService.Marking) :=
  [(.quiet "g1", "a1", .addForStudent "k1" ⟨.absent, .classic, some 9, .absent, none, .given 3⟩),
    (.quiet "x", "a1", .update "g1" ⟨.absent, .descriptive, none, .absent, some (.str " fluent "), .absent⟩)]

theorem praise_well_formed :
    (kimsSchool.after .plain (markings praise)).db.GradesWellFormed String.length ∧
      (kimsSchool.after .plain (markings praise)).db.grades.rows.map Grade.comment =
        [some "fluent"] := by
  refine ⟨marks_well_formed ((Reachable.after .plain .refl _) : Reachable .plain kimsSchool)
    kim_unmarked Js.length_trim_le praise ?_, by decide +kernel⟩
  refine List.forall_mem_cons.mpr ⟨?_, List.forall_mem_cons.mpr ⟨?_, List.forall_mem_nil _⟩⟩
  · exact ⟨⟨fun _ => ⟨9, rfl, by decide⟩, nofun, nofun, fun _ same => by cases same; decide⟩, nofun⟩
  · refine ⟨⟨fun numeric => absurd rfl numeric, nofun, fun _ => ⟨" fluent ", rfl, by decide⟩, nofun⟩, ?_⟩
    rintro _ ⟨⟩
    decide

/-- Words that are blank pass the validators and are stored as none. -/
theorem blank_words_stored :
    let blank : GradebookService.Marking :=
      .addForStudent "k1" ⟨.absent, .descriptive, none, .absent, some (.str "  "), .absent⟩
    Reachable .plain kimsSchool ∧ kimsSchool.db.GradesWellFormed String.length ∧
      blank.payload.Admitted String.length ∧
      ¬ (kimsSchool.after .plain (markings [(.quiet "g1", "a1", blank)])).db.GradesWellFormed
        String.length := by
  intro blank
  refine ⟨Reachable.after .plain .refl _, kim_unmarked,
    ⟨fun numeric => absurd rfl numeric, nofun, fun _ => ⟨"  ", rfl, by decide⟩, nofun⟩, fun formed => ?_⟩
  have stored : ∃ grade ∈
      (kimsSchool.after .plain (markings [(.quiet "g1", "a1", blank)])).db.grades.rows,
      grade.kind = .descriptive ∧ grade.comment = none := by
    decide +kernel
  obtain ⟨grade, member, kind, silent⟩ := stored
  obtain ⟨-, words, written, -⟩ := (formed grade member).descriptive kind
  rw [silent] at written
  cases written

end TutorApp
