import Mathlib.Algebra.BigOperators.Group.List.Basic
import Mathlib.Algebra.Order.BigOperators.Group.List
import Mathlib.Algebra.Order.Field.Basic

set_option autoImplicit false

/-! Values with weights, their sums and their mean. -/

namespace WeightedMean

section

variable {K : Type} [Field K]

def weight (marks : List (K × K)) : K := (marks.map Prod.snd).sum

def weighted (marks : List (K × K)) : K := (marks.map fun mark => mark.1 * mark.2).sum

def mean (marks : List (K × K)) : K := weighted marks / weight marks

@[simp] theorem weight_nil : weight ([] : List (K × K)) = 0 := rfl

@[simp] theorem weighted_nil : weighted ([] : List (K × K)) = 0 := rfl

@[simp] theorem weight_cons (mark : K × K) (rest : List (K × K)) :
    weight (mark :: rest) = mark.2 + weight rest := List.sum_cons

@[simp] theorem weighted_cons (mark : K × K) (rest : List (K × K)) :
    weighted (mark :: rest) = mark.1 * mark.2 + weighted rest := List.sum_cons

@[simp] theorem weight_append (left right : List (K × K)) :
    weight (left ++ right) = weight left + weight right := by
  rw [weight, List.map_append, List.sum_append, weight, weight]

@[simp] theorem weighted_append (left right : List (K × K)) :
    weighted (left ++ right) = weighted left + weighted right := by
  rw [weighted, List.map_append, List.sum_append, weighted, weighted]

theorem weight_perm {left right : List (K × K)} (same : left.Perm right) :
    weight left = weight right := (same.map _).sum_eq

theorem weighted_perm {left right : List (K × K)} (same : left.Perm right) :
    weighted left = weighted right := (same.map _).sum_eq

theorem mean_perm {left right : List (K × K)} (same : left.Perm right) :
    mean left = mean right := by
  rw [mean, mean, weight_perm same, weighted_perm same]

@[simp] theorem weight_replicate_one (count : Nat) (value : K) :
    weight (List.replicate count (value, 1)) = count := by
  rw [weight, List.map_replicate, List.sum_replicate, nsmul_one]

@[simp] theorem weighted_replicate_one (count : Nat) (value : K) :
    weighted (List.replicate count (value, 1)) = value * count := by
  rw [weighted, List.map_replicate, List.sum_replicate, mul_one, nsmul_eq_mul, mul_comm]

/-- A mark of weight `count` stands for `count` marks of weight one. -/
theorem mean_split (before after : List (K × K)) (value : K) (count : Nat) :
    mean (before ++ List.replicate count (value, 1) ++ after) =
      mean (before ++ (value, (count : K)) :: after) := by
  simp only [mean, weight_append, weighted_append, weight_cons, weighted_cons,
    weight_replicate_one, weighted_replicate_one, add_assoc]

end

section

variable {K : Type} [Field K] [LinearOrder K] [IsStrictOrderedRing K]

theorem weight_nonneg {marks : List (K × K)} (heavy : ∀ mark ∈ marks, 0 < mark.2) :
    0 ≤ weight marks := by
  refine List.sum_nonneg fun weight listed => ?_
  obtain ⟨mark, member, rfl⟩ := List.mem_map.mp listed
  exact (heavy mark member).le

theorem weight_pos {marks : List (K × K)} (heavy : ∀ mark ∈ marks, 0 < mark.2)
    (some : marks ≠ []) : 0 < weight marks := by
  cases marks with
  | nil => exact absurd rfl some
  | cons mark rest =>
      rw [weight_cons]
      exact add_pos_of_pos_of_nonneg (heavy mark List.mem_cons_self)
        (weight_nonneg fun other member => heavy other (List.mem_cons_of_mem _ member))

theorem weight_eq_zero {marks : List (K × K)} (heavy : ∀ mark ∈ marks, 0 < mark.2) :
    weight marks = 0 ↔ marks = [] := by
  constructor
  · intro weightless
    by_contra some
    exact (weight_pos heavy some).ne' weightless
  · rintro rfl
    exact weight_nil

theorem mul_weight_le {marks : List (K × K)} {low : K} (heavy : ∀ mark ∈ marks, 0 < mark.2)
    (least : ∀ mark ∈ marks, low ≤ mark.1) : low * weight marks ≤ weighted marks := by
  induction marks with
  | nil => rw [weight_nil, weighted_nil, mul_zero]
  | cons mark rest ih =>
      rw [List.forall_mem_cons] at heavy least
      rw [weight_cons, weighted_cons, mul_add]
      exact add_le_add (mul_le_mul_of_nonneg_right least.1 heavy.1.le) (ih heavy.2 least.2)

theorem weighted_le_mul {marks : List (K × K)} {high : K} (heavy : ∀ mark ∈ marks, 0 < mark.2)
    (greatest : ∀ mark ∈ marks, mark.1 ≤ high) : weighted marks ≤ high * weight marks := by
  induction marks with
  | nil => rw [weight_nil, weighted_nil, mul_zero]
  | cons mark rest ih =>
      rw [List.forall_mem_cons] at heavy greatest
      rw [weight_cons, weighted_cons, mul_add]
      exact add_le_add (mul_le_mul_of_nonneg_right greatest.1 heavy.1.le) (ih heavy.2 greatest.2)

/-- A mean lies within its values. -/
theorem le_mean {marks : List (K × K)} {low : K} (heavy : ∀ mark ∈ marks, 0 < mark.2)
    (some : marks ≠ []) (least : ∀ mark ∈ marks, low ≤ mark.1) : low ≤ mean marks :=
  (le_div_iff₀ (weight_pos heavy some)).mpr (mul_weight_le heavy least)

theorem mean_le {marks : List (K × K)} {high : K} (heavy : ∀ mark ∈ marks, 0 < mark.2)
    (some : marks ≠ []) (greatest : ∀ mark ∈ marks, mark.1 ≤ high) : mean marks ≤ high :=
  (div_le_iff₀ (weight_pos heavy some)).mpr (weighted_le_mul heavy greatest)

end

end WeightedMean
