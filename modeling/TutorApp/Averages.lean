import Mathlib.Data.Finset.Max
import Mathlib.Data.Finset.Dedup
import TutorApp.Progress
import TutorApp.WeightedMean

set_option autoImplicit false

namespace TutorApp

/-- The value and the weight of each grade an average is over. -/
def weighing (grades : List GradeLike) : List (ℚ × ℚ) :=
  grades.filterMap fun grade =>
    if grade.weighs then grade.value.map fun value => (value, grade.weight) else none

@[simp] theorem weighing_nil : weighing [] = [] := rfl

@[simp] theorem weighing_append (left right : List GradeLike) :
    weighing (left ++ right) = weighing left ++ weighing right := List.filterMap_append

theorem weighing_weighs {grade : GradeLike} {value : ℚ} (rest : List GradeLike)
    (valued : grade.value = some value) (heavy : 0 < grade.weight) :
    weighing (grade :: rest) = (value, grade.weight) :: weighing rest := by
  refine List.filterMap_cons_some ?_
  rw [if_pos (GradeLike.weighs_iff.mpr ⟨value, valued, heavy⟩), valued]
  rfl

theorem weighing_passed {grade : GradeLike} (rest : List GradeLike)
    (passed : ¬ grade.weighs = true) : weighing (grade :: rest) = weighing rest :=
  List.filterMap_cons_none (if_neg passed)

theorem weighing_perm {left right : List GradeLike} (same : left.Perm right) :
    (weighing left).Perm (weighing right) := same.filterMap _

theorem mem_weighing {grades : List GradeLike} {mark : ℚ × ℚ} :
    mark ∈ weighing grades ↔
      ∃ grade ∈ grades, grade.value = some mark.1 ∧ grade.weight = mark.2 ∧ 0 < mark.2 := by
  induction grades with
  | nil => simp
  | cons grade rest ih =>
      rw [List.exists_mem_cons_iff, ← ih]
      by_cases weighs : grade.weighs = true
      · obtain ⟨value, valued, heavy⟩ := GradeLike.weighs_iff.mp weighs
        rw [weighing_weighs rest valued heavy, List.mem_cons]
        refine or_congr_left ⟨?_, ?_⟩
        · rintro rfl
          exact ⟨valued, rfl, heavy⟩
        · rintro ⟨same, weight, -⟩
          exact Prod.ext (Option.some.inj (same.symm.trans valued)) weight.symm
      · rw [weighing_passed rest weighs]
        refine (or_iff_right ?_).symm
        rintro ⟨valued, weight, heavy⟩
        exact weighs (GradeLike.weighs_iff.mpr ⟨mark.1, valued, weight ▸ heavy⟩)

theorem weighing_heavy {grades : List GradeLike} : ∀ mark ∈ weighing grades, 0 < mark.2 := by
  intro mark member
  obtain ⟨-, -, -, -, heavy⟩ := mem_weighing.mp member
  exact heavy

/-- The running sums are those of the marks that weigh. -/
theorem Weighing.foldl_add (grades : List GradeLike) (sums : Weighing) :
    grades.foldl add sums =
      ⟨sums.weighted + WeightedMean.weighted (weighing grades),
        sums.weight + WeightedMean.weight (weighing grades),
        sums.count + (weighing grades).length⟩ := by
  induction grades generalizing sums with
  | nil => simp
  | cons grade rest ih =>
      rw [List.foldl_cons, ih]
      by_cases weighs : grade.weighs = true
      · obtain ⟨value, valued, heavy⟩ := GradeLike.weighs_iff.mp weighs
        rw [sums.add_weighs valued heavy, weighing_weighs rest valued heavy,
          WeightedMean.weighted_cons, WeightedMean.weight_cons, List.length_cons]
        simp only [add_assoc, Nat.add_comm 1]
      · rw [sums.add_passed weighs, weighing_passed rest weighs]

theorem averageOf_eq (grades : List GradeLike) :
    averageOf grades = if weighing grades = [] then none
      else some ⟨round2 (WeightedMean.mean (weighing grades)), (weighing grades).length⟩ := by
  simp only [averageOf, Weighing.foldl_add, zero_add,
    WeightedMean.weight_eq_zero weighing_heavy, WeightedMean.mean]

theorem averageOf_some {grades : List GradeLike} {mean : GradeAverage}
    (averaged : averageOf grades = some mean) :
    weighing grades ≠ [] ∧ mean.average = round2 (WeightedMean.mean (weighing grades)) := by
  rw [averageOf_eq] at averaged
  split at averaged
  · cases averaged
  · cases averaged
    exact ⟨‹_›, rfl⟩

theorem averageOf_congr {left right : List GradeLike}
    (same : (weighing left).Perm (weighing right)) : averageOf left = averageOf right := by
  have empty : weighing left = [] ↔ weighing right = [] := by
    rw [← List.length_eq_zero_iff, same.length_eq, List.length_eq_zero_iff]
  rw [averageOf_eq, averageOf_eq, WeightedMean.mean_perm same, same.length_eq]
  exact if_congr empty rfl rfl

/-- Rounding to two places keeps the order. -/
theorem round2_mono {low high : ℚ} (le : low ≤ high) : round2 low ≤ round2 high := by
  unfold round2
  have scaled : low * 100 + 1 / 2 ≤ high * 100 + 1 / 2 := by linarith
  have rounded : ((⌊low * 100 + 1 / 2⌋ : ℤ) : ℚ) ≤ (⌊high * 100 + 1 / 2⌋ : ℤ) :=
    Int.cast_le.mpr (Int.floor_le_floor scaled)
  exact div_le_div_of_nonneg_right rounded (by norm_num)

/-- A finite set of marks that is not empty has a least and a greatest value. -/
theorem weighing_extremes {grades : List GradeLike} (some : weighing grades ≠ []) :
    ∃ low ∈ weighing grades, ∃ high ∈ weighing grades,
      ∀ mark ∈ weighing grades, low.1 ≤ mark.1 ∧ mark.1 ≤ high.1 := by
  have inhabited : (weighing grades).toFinset.Nonempty := (List.toFinset_nonempty_iff _).mpr some
  obtain ⟨low, lowest, least⟩ := Finset.exists_min_image _ Prod.fst inhabited
  obtain ⟨high, highest, greatest⟩ := Finset.exists_max_image _ Prod.fst inhabited
  refine ⟨low, List.mem_toFinset.mp lowest, high, List.mem_toFinset.mp highest, ?_⟩
  intro mark member
  exact ⟨least mark (List.mem_toFinset.mpr member), greatest mark (List.mem_toFinset.mpr member)⟩

/-- The values of the rows that have one and a positive weight. -/
def valuesOf (grades : List GradeLike) : Set ℚ :=
  {value | ∃ grade ∈ grades, grade.value = some value ∧ 0 < grade.weight}

theorem valuesOf_eq (grades : List GradeLike) :
    valuesOf grades = {value | ∃ mark ∈ weighing grades, mark.1 = value} := by
  ext value
  constructor
  · rintro ⟨grade, listed, valued, heavy⟩
    exact ⟨(value, grade.weight), mem_weighing.mpr ⟨grade, listed, valued, rfl, heavy⟩, rfl⟩
  · rintro ⟨mark, member, rfl⟩
    obtain ⟨grade, listed, valued, weight, heavy⟩ := mem_weighing.mp member
    exact ⟨grade, listed, valued, weight ▸ heavy⟩

theorem weighing_units {units : List GradeLike} {value : ℚ}
    (alike : ∀ unit ∈ units, unit.value = some value ∧ unit.weight = 1) :
    weighing units = List.replicate units.length (value, 1) := by
  induction units with
  | nil => rfl
  | cons unit rest ih =>
      rw [List.forall_mem_cons] at alike
      have one : 0 < unit.weight := by
        rw [alike.1.2]
        exact one_pos
      rw [weighing_weighs rest alike.1.1 one, ih alike.2, alike.1.2, List.length_cons,
        List.replicate_succ]

/-- A row of weight `count` weighs as much as `count` rows of weight one do together. -/
theorem averageOf_split {before after units : List GradeLike} {row : GradeLike}
    (whole : 0 < units.length) (weight : row.weight = units.length)
    (alike : ∀ unit ∈ units, unit.value = row.value ∧ unit.weight = 1) :
    (averageOf (before ++ units ++ after)).map GradeAverage.average =
      (averageOf (before ++ row :: after)).map GradeAverage.average := by
  have heavy : 0 < row.weight := by
    rw [weight]
    exact_mod_cast whole
  cases valued : row.value with
  | none =>
      -- none of them is in the average
      have passed : weighing units = [] := by
        rw [List.eq_nil_iff_forall_not_mem]
        intro mark member
        obtain ⟨unit, listed, value, -⟩ := mem_weighing.mp member
        rw [(alike unit listed).1, valued] at value
        cases value
      have row_passed : ¬ row.weighs = true := by
        rw [GradeLike.weighs_iff, valued]
        rintro ⟨_, none, _⟩
        cases none
      refine congrArg _ (averageOf_congr ?_)
      rw [weighing_append, weighing_append, weighing_append, weighing_passed _ row_passed, passed,
        List.append_nil]
  | some value =>
      have ones : weighing units = List.replicate units.length (value, 1) :=
        weighing_units fun unit listed => ⟨(alike unit listed).1.trans valued, (alike unit listed).2⟩
      have same : WeightedMean.mean (weighing (before ++ units ++ after)) =
          WeightedMean.mean (weighing (before ++ row :: after)) := by
        rw [weighing_append, weighing_append, weighing_append, weighing_weighs _ valued heavy, ones,
          weight, WeightedMean.mean_split]
      have some_left : weighing (before ++ units ++ after) ≠ [] := by
        rw [weighing_append, weighing_append, ones]
        intro empty
        rw [List.append_eq_nil_iff, List.append_eq_nil_iff, List.replicate_eq_nil_iff] at empty
        exact whole.ne' empty.1.2
      have some_right : weighing (before ++ row :: after) ≠ [] := by
        rw [weighing_append, weighing_weighs _ valued heavy]
        exact List.append_ne_nil_of_right_ne_nil _ (List.cons_ne_nil _ _)
      rw [averageOf_eq, averageOf_eq, if_neg some_left, if_neg some_right, Option.map_some,
        Option.map_some, same]

/-- What the average of a list of grades is. -/
structure SoundAverage (grades : List GradeLike) : Prop where
  absent : averageOf grades = none ↔ valuesOf grades = ∅
  /-- The quotient is only taken of a divisor that is positive. -/
  divides : ∀ mean, averageOf grades = some mean →
    0 < (grades.foldl Weighing.add ⟨0, 0, 0⟩).weight ∧
      mean.average = round2 ((grades.foldl Weighing.add ⟨0, 0, 0⟩).weighted /
        (grades.foldl Weighing.add ⟨0, 0, 0⟩).weight)
  between : ∀ mean, averageOf grades = some mean →
    ∃ low high, IsLeast (valuesOf grades) low ∧ IsGreatest (valuesOf grades) high ∧
      round2 low ≤ mean.average ∧ mean.average ≤ round2 high
  permuted : ∀ order, order.Perm grades → averageOf order = averageOf grades
  /-- A row without a value or a positive weight may come and go anywhere. -/
  passed : ∀ before row after, grades = before ++ row :: after →
    row.value = none ∨ row.weight ≤ 0 → averageOf grades = averageOf (before ++ after)
  split : ∀ before row after units, grades = before ++ row :: after →
    0 < units.length → row.weight = units.length →
      (∀ unit ∈ units, unit.value = row.value ∧ unit.weight = 1) →
        (averageOf (before ++ units ++ after)).map GradeAverage.average =
          (averageOf grades).map GradeAverage.average

theorem averageOf_sound (grades : List GradeLike) : SoundAverage grades where
  absent := by
    rw [averageOf_eq, ite_eq_left_iff, valuesOf_eq, Set.eq_empty_iff_forall_notMem]
    constructor
    · intro empty value
      rintro ⟨mark, member, -⟩
      have none : weighing grades = [] := by
        by_contra some
        cases empty some
      rw [none] at member
      cases member
    · intro empty some
      obtain ⟨mark, member⟩ := List.exists_mem_of_ne_nil _ some
      exact absurd ⟨mark, member, rfl⟩ (empty mark.1)
  divides := by
    intro mean averaged
    obtain ⟨some, average⟩ := averageOf_some averaged
    rw [Weighing.foldl_add]
    simp only [zero_add]
    exact ⟨WeightedMean.weight_pos weighing_heavy some, average⟩
  between := by
    intro mean averaged
    obtain ⟨some, average⟩ := averageOf_some averaged
    obtain ⟨low, lowest, high, highest, within⟩ := weighing_extremes some
    rw [average, valuesOf_eq]
    refine ⟨low.1, high.1, ⟨⟨low, lowest, rfl⟩, ?_⟩, ⟨⟨high, highest, rfl⟩, ?_⟩, ?_, ?_⟩
    · rintro _ ⟨mark, member, rfl⟩
      exact (within mark member).1
    · rintro _ ⟨mark, member, rfl⟩
      exact (within mark member).2
    · exact round2_mono
        (WeightedMean.le_mean weighing_heavy some fun mark member => (within mark member).1)
    · exact round2_mono
        (WeightedMean.mean_le weighing_heavy some fun mark member => (within mark member).2)
  permuted := fun _ same => averageOf_congr (weighing_perm same)
  passed := by
    rintro before row after rfl passed
    have weightless : ¬ row.weighs = true := by
      rw [GradeLike.weighs_iff]
      rintro ⟨value, valued, heavy⟩
      rcases passed with missing | light
      · rw [missing] at valued
        cases valued
      · exact heavy.not_ge light
    refine averageOf_congr ?_
    rw [weighing_append, weighing_append, weighing_passed after weightless]
  split := by
    rintro before row after units rfl whole weight alike
    exact averageOf_split whole weight alike

end TutorApp
