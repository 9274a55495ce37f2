import Mathlib.Data.List.DropRight

set_option autoImplicit false

/-! Lists cut at both ends of what a predicate holds of. -/

namespace Trimming

variable {α : Type} (drop : α → Bool)

def trimmed (text : List α) : List α := (text.dropWhile drop).rdropWhile drop

variable {drop} {text : List α}

theorem trimmed_infix : trimmed drop text <:+: text :=
  (List.rdropWhile_prefix drop _).isInfix.trans (List.dropWhile_suffix drop).isInfix

theorem length_trimmed_le : (trimmed drop text).length ≤ text.length := trimmed_infix.length_le

theorem dropWhile_head_not {x : α} (head : x ∈ (text.dropWhile drop).head?) : ¬ drop x = true := by
  have kept := List.head?_dropWhile_not drop text
  rw [Option.mem_def.mp head] at kept
  exact Bool.not_eq_true _ ▸ kept

theorem trimmed_eq_nil : trimmed drop text = [] ↔ ∀ x ∈ text, drop x = true := by
  rw [trimmed, List.rdropWhile_eq_nil_iff]
  constructor
  · intro dropped
    rw [← List.dropWhile_eq_nil_iff, List.eq_nil_iff_forall_not_mem]
    intro x member
    have some : text.dropWhile drop ≠ [] := List.ne_nil_of_mem member
    exact dropWhile_head_not (List.head?_eq_some_head some) (dropped _ (List.head_mem some))
  · exact fun every x member => every x ((List.dropWhile_sublist drop).mem member)

theorem trimmed_head_not {x : α} (head : x ∈ (trimmed drop text).head?) : ¬ drop x = true := by
  obtain ⟨rest, cut⟩ := List.rdropWhile_prefix drop (text.dropWhile drop)
  refine @dropWhile_head_not _ _ text _ ?_
  rw [← cut, List.head?_append, ← trimmed, Option.mem_def.mp head]
  rfl

theorem trimmed_last_not {x : α} (last : x ∈ (trimmed drop text).getLast?) : ¬ drop x = true := by
  have some : trimmed drop text ≠ [] := by
    intro empty
    rw [empty] at last
    cases last
  rw [List.getLast?_eq_some_getLast some, Option.mem_some_iff] at last
  rw [← last]
  exact List.rdropWhile_last_not drop _ some

/-- What is dropped at neither end is dropped nowhere. -/
theorem trimmed_of_ends (head : ∀ x ∈ text.head?, ¬ drop x = true)
    (last : ∀ x ∈ text.getLast?, ¬ drop x = true) : trimmed drop text = text := by
  have front : text.dropWhile drop = text := by
    cases text with
    | nil => rfl
    | cons first rest => exact List.dropWhile_cons_of_neg (head first rfl)
  rw [trimmed, front, List.rdropWhile_eq_self_iff]
  exact fun some => last _ (List.getLast?_eq_some_getLast some)

theorem trimmed_trimmed : trimmed drop (trimmed drop text) = trimmed drop text :=
  trimmed_of_ends (fun _ => trimmed_head_not) fun _ => trimmed_last_not

variable (drop)

theorem trimmed_dropWhile : trimmed drop (text.dropWhile drop) = trimmed drop text := by
  rw [trimmed, List.dropWhile_idempotent, trimmed]

theorem trimmed_cons_drop {x : α} (dropped : drop x = true) :
    trimmed drop (x :: text) = trimmed drop text := by
  rw [trimmed, List.dropWhile_cons_of_pos dropped, trimmed]

theorem rdropWhile_cons_keep {x : α} (kept : ¬ drop x = true) :
    (x :: text).rdropWhile drop = x :: text.rdropWhile drop := by
  rw [List.rdropWhile, List.reverse_cons, List.dropWhile_append, List.dropWhile_cons_of_neg kept,
    List.rdropWhile]
  split
  · rename_i all
    rw [List.isEmpty_iff.mp all]
    rfl
  · rw [List.reverse_append, List.reverse_singleton, List.singleton_append]

theorem rdropWhile_cons_drop {x : α} (dropped : drop x = true) :
    (x :: text).rdropWhile drop =
      if text.rdropWhile drop = [] then [] else x :: text.rdropWhile drop := by
  rw [List.rdropWhile, List.reverse_cons, List.dropWhile_append, List.dropWhile_cons_of_pos dropped,
    List.rdropWhile]
  simp only [List.isEmpty_iff, List.reverse_eq_nil_iff]
  split
  · rfl
  · rw [List.reverse_append, List.reverse_singleton, List.singleton_append]

theorem trimmed_cons_keep {x : α} (kept : ¬ drop x = true) :
    trimmed drop (x :: text) = x :: text.rdropWhile drop := by
  rw [trimmed, List.dropWhile_cons_of_neg kept, rdropWhile_cons_keep drop kept]

end Trimming
