import Mathlib.Data.List.Dedup
import Mathlib.Data.List.Nodup

set_option autoImplicit false

/-! Rows derived from the distinct values among those mentioned. -/

namespace DerivedRows

variable {μ ρ κ : Type} [DecidableEq μ]

/-- A row for each distinct value that gives one. -/
def collect (build : μ → Option ρ) (values : List μ) : List ρ := values.dedup.filterMap build

variable {build : μ → Option ρ} {values : List μ} {row : ρ} {mention : μ}

theorem mem_collect : row ∈ collect build values ↔ ∃ mention ∈ values, build mention = some row := by
  rw [collect, List.mem_filterMap]
  simp only [List.mem_dedup]

section

variable {value : ρ → μ} (reads : ∀ mention row, build mention = some row → value row = mention)

include reads

theorem collect_nodup : (collect build values).Nodup := by
  refine (List.nodup_dedup values).filterMap fun left right row fromLeft fromRight => ?_
  rw [← reads left row fromLeft, ← reads right row fromRight]

/-- No value has two rows. -/
theorem eq_of_value_eq {left right : ρ} (first : left ∈ collect build values)
    (second : right ∈ collect build values) (same : value left = value right) : left = right := by
  obtain ⟨mention, -, built⟩ := mem_collect.mp first
  obtain ⟨other, -, alike⟩ := mem_collect.mp second
  rw [reads mention left built, reads other right alike] at same
  rw [same, alike] at built
  exact (Option.some.inj built).symm

theorem values_nodup : ((collect build values).map value).Nodup :=
  (collect_nodup reads).map_on fun _ first _ second => eq_of_value_eq reads first second

/-- Keys that tell the rows apart are keys. -/
theorem keys_nodup {key : ρ → κ}
    (apart : ∀ left ∈ collect build values, ∀ right ∈ collect build values,
      key left = key right → left = right) : ((collect build values).map key).Nodup :=
  (collect_nodup reads).map_on apart

end

/-- Two parts put together by a separator can be told apart when the first has none of its own. -/
theorem append_separator_inj {α : Type} {separator : α} {left right first second : List α}
    (plain : separator ∉ left) (otherPlain : separator ∉ right)
    (same : left ++ separator :: first = right ++ separator :: second) :
    left = right ∧ first = second := by
  induction left generalizing right with
  | nil =>
      cases right with
      | nil => exact ⟨rfl, (List.cons.inj same).2⟩
      | cons x rest =>
          obtain ⟨rfl, -⟩ := List.cons.inj same
          exact absurd List.mem_cons_self otherPlain
  | cons x rest ih =>
      cases right with
      | nil =>
          obtain ⟨rfl, -⟩ := List.cons.inj same
          exact absurd List.mem_cons_self plain
      | cons y others =>
          obtain ⟨rfl, tails⟩ := List.cons.inj same
          obtain ⟨rfl, rfl⟩ := ih (fun inside => plain (List.mem_cons_of_mem _ inside))
            (fun inside => otherPlain (List.mem_cons_of_mem _ inside)) tails
          exact ⟨rfl, rfl⟩

end DerivedRows
