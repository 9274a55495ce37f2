import TutorApp.Schema

set_option autoImplicit false

namespace TutorApp

structure GradeLike where
  kind : GradeKind
  value : Option ℚ
  weight : ℚ
  deriving Repr, DecidableEq

structure GradeAverage where
  average : ℚ
  count : Nat
  deriving Repr, DecidableEq

structure GradeSummary where
  count : Nat
  classic : Option GradeAverage
  percentage : Option GradeAverage
  descriptiveCount : Nat
  deriving Repr, DecidableEq

structure AttendanceSummary where
  present : Nat
  late : Nat
  absentExcused : Nat
  absentUnexcused : Nat
  marked : Nat
  /-- `none` when nothing has been marked yet. -/
  rate : Option ℚ
  deriving Repr, DecidableEq

structure LessonCounts where
  total : Nat
  completed : Nat
  cancelled : Nat
  scheduled : Nat
  deriving Repr, DecidableEq

structure ProgressSummary where
  lessons : LessonCounts
  attendance : AttendanceSummary
  grades : GradeSummary
  deriving Repr, DecidableEq

/-- Two decimal places, halves upward as `Math.round` has them. -/
def round2 (value : ℚ) : ℚ := ⌊value * 100 + 1 / 2⌋ / 100

/-- The running sums of `averageOf`. -/
structure Weighing where
  weighted : ℚ
  weight : ℚ
  count : Nat
  deriving Repr, DecidableEq

/-- A grade without a value or with a weight that is not positive is passed over. -/
def Weighing.add (sums : Weighing) (grade : GradeLike) : Weighing :=
  match grade.value with
  | none => sums
  | some value =>
      if grade.weight ≤ 0 then sums
      else ⟨sums.weighted + value * grade.weight, sums.weight + grade.weight, sums.count + 1⟩

def averageOf (grades : List GradeLike) : Option GradeAverage :=
  let sums := grades.foldl Weighing.add ⟨0, 0, 0⟩
  if sums.weight = 0 then none else some ⟨round2 (sums.weighted / sums.weight), sums.count⟩

/-- The grades an average is over. -/
def GradeLike.weighs (grade : GradeLike) : Bool := grade.value.isSome && 0 < grade.weight

theorem GradeLike.weighs_iff {grade : GradeLike} :
    grade.weighs = true ↔ ∃ value, grade.value = some value ∧ 0 < grade.weight := by
  rw [weighs, Bool.and_eq_true, Option.isSome_iff_exists, decide_eq_true_eq, exists_and_right]

theorem Weighing.add_weighs (sums : Weighing) {grade : GradeLike} {value : ℚ}
    (valued : grade.value = some value) (heavy : 0 < grade.weight) :
    sums.add grade =
      ⟨sums.weighted + value * grade.weight, sums.weight + grade.weight, sums.count + 1⟩ := by
  rw [add, valued]
  exact if_neg heavy.not_ge

theorem Weighing.add_passed (sums : Weighing) {grade : GradeLike} (passed : ¬ grade.weighs = true) :
    sums.add grade = sums := by
  cases valued : grade.value with
  | none => rw [add, valued]
  | some value =>
      rw [GradeLike.weighs_iff] at passed
      rw [add, valued]
      exact if_pos (not_lt.mp fun heavy => passed ⟨value, valued, heavy⟩)

/-- Every counted grade has brought some weight. -/
theorem Weighing.foldl_count (grades : List GradeLike) (sums : Weighing)
    (heavy : 0 ≤ sums.weight) (counted : sums.weight = 0 ↔ sums.count = 0) :
    (grades.foldl add sums).count = sums.count + grades.countP GradeLike.weighs ∧
      ((grades.foldl add sums).weight = 0 ↔ (grades.foldl add sums).count = 0) := by
  induction grades generalizing sums with
  | nil => exact ⟨rfl, counted⟩
  | cons grade rest ih =>
      rw [List.foldl_cons, List.countP_cons]
      by_cases weighs : grade.weighs = true
      · obtain ⟨value, valued, heavier⟩ := GradeLike.weighs_iff.mp weighs
        rw [sums.add_weighs valued heavier, if_pos weighs]
        obtain ⟨count, weight⟩ := ih
          ⟨sums.weighted + value * grade.weight, sums.weight + grade.weight, sums.count + 1⟩
          (add_nonneg heavy heavier.le)
          ⟨fun none => absurd none (add_pos_of_nonneg_of_pos heavy heavier).ne',
            fun none => absurd none (Nat.succ_ne_zero _)⟩
        refine ⟨?_, weight⟩
        rw [count]
        exact Nat.add_right_comm _ _ _
      · rw [sums.add_passed weighs, if_neg weighs]
        exact ih sums heavy counted

/-- How many grades an average is over; no average is over none of them. -/
def averagedOver (average : Option GradeAverage) : Nat := average.elim 0 GradeAverage.count

theorem averagedOver_averageOf (grades : List GradeLike) :
    averagedOver (averageOf grades) = grades.countP GradeLike.weighs := by
  obtain ⟨count, heavy⟩ := Weighing.foldl_count grades ⟨0, 0, 0⟩ le_rfl ⟨fun _ => rfl, fun _ => rfl⟩
  simp only [averageOf]
  by_cases weightless : (grades.foldl Weighing.add ⟨0, 0, 0⟩).weight = 0
  · rw [if_pos weightless, averagedOver, Option.elim_none]
    have none := heavy.mp weightless
    omega
  · rw [if_neg weightless, averagedOver, Option.elim_some, count, Nat.zero_add]

def summariseGrades (grades : List GradeLike) : GradeSummary where
  count := grades.length
  classic := averageOf (grades.filter fun grade => grade.kind == .classic)
  percentage := averageOf (grades.filter fun grade => grade.kind == .percentage)
  descriptiveCount := (grades.filter fun grade => grade.kind == .descriptive).length

/-- Late counts as attended. -/
def summariseAttendance (attendances : List AttendanceStatus) : AttendanceSummary :=
  let count := fun status => (attendances.filter fun entry => entry == status).length
  let marked := count .present + count .late + count .absentExcused + count .absentUnexcused
  { present := count .present
    late := count .late
    absentExcused := count .absentExcused
    absentUnexcused := count .absentUnexcused
    marked
    rate := if marked = 0 then none
      else some (round2 (((count .present + count .late : Nat) : ℚ) / marked)) }

section

variable {α : Type} (parts : List α)

theorem length_filter_flatMap {β : Type} (rows : α → List β) (keep : β → Bool) :
    ((parts.flatMap rows).filter keep).length =
      (parts.map fun part => ((rows part).filter keep).length).sum := by
  rw [List.filter_flatMap, List.length_flatMap]

theorem averagedOver_flatMap (grades : α → List GradeLike) (keep : GradeLike → Bool) :
    averagedOver (averageOf ((parts.flatMap grades).filter keep)) =
      (parts.map fun part => averagedOver (averageOf ((grades part).filter keep))).sum := by
  simp only [averagedOver_averageOf, List.filter_flatMap, List.countP_flatMap]
  rfl

theorem summariseAttendance_perm {left right : List AttendanceStatus} (same : left.Perm right) :
    summariseAttendance left = summariseAttendance right := by
  simp only [summariseAttendance, (same.filter _).length_eq]

theorem averagedOver_perm {left right : List GradeLike} (same : left.Perm right)
    (keep : GradeLike → Bool) :
    averagedOver (averageOf (left.filter keep)) = averagedOver (averageOf (right.filter keep)) := by
  rw [averagedOver_averageOf, averagedOver_averageOf, (same.filter keep).countP_eq]

theorem marked_flatMap (marks : α → List AttendanceStatus) :
    (summariseAttendance (parts.flatMap marks)).marked =
      (parts.map fun part => (summariseAttendance (marks part)).marked).sum := by
  simp only [summariseAttendance, length_filter_flatMap, List.sum_map_add]

end

def summariseProgress (lessons : List LessonStatus) (grades : List GradeLike)
    (attendances : List AttendanceStatus) : ProgressSummary :=
  let withStatus := fun status => (lessons.filter fun lesson => lesson == status).length
  { lessons := ⟨lessons.length, withStatus .completed, withStatus .cancelled, withStatus .scheduled⟩
    attendance := summariseAttendance attendances
    grades := summariseGrades grades }

end TutorApp
