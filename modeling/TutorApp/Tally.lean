import Mathlib.Algebra.BigOperators.Group.List.Basic
import Mathlib.Data.List.Dedup
import Mathlib.Data.List.Induction
import Mathlib.Data.List.Sort

set_option autoImplicit false

/-- How entries are tallied into rows: the row a new key opens, and what another entry of its key
makes of it. -/
structure Tally (α ρ κ : Type) where
  keyOf : α → κ
  key : ρ → κ
  opening : α → ρ
  adding : ρ → α → ρ
  key_opening : ∀ entry, key (opening entry) = keyOf entry
  key_adding : ∀ row entry, key (adding row entry) = key row

namespace Tally

variable {α ρ κ : Type} [DecidableEq κ] (tally : Tally α ρ κ)

/-- An entry goes to the row of its key, or opens one at the end. -/
def enter (entry : α) : List ρ → List ρ
  | [] => [tally.opening entry]
  | row :: rest =>
      if tally.key row = tally.keyOf entry then tally.adding row entry :: rest
      else row :: enter entry rest

def rows (entries : List α) : List ρ :=
  entries.foldl (fun rows entry => tally.enter entry rows) []

theorem rows_snoc (entries : List α) (entry : α) :
    tally.rows (entries ++ [entry]) = tally.enter entry (tally.rows entries) := by
  rw [rows, List.foldl_append]
  rfl

theorem keys_enter (entry : α) (rows : List ρ) :
    (tally.enter entry rows).map tally.key =
      if tally.keyOf entry ∈ rows.map tally.key then rows.map tally.key
      else rows.map tally.key ++ [tally.keyOf entry] := by
  induction rows with
  | nil => simp [enter, tally.key_opening]
  | cons row rest ih =>
      by_cases same : tally.key row = tally.keyOf entry
      · simp [enter, same, tally.key_adding]
      · have other : tally.keyOf entry ∈ (row :: rest).map tally.key ↔
            tally.keyOf entry ∈ rest.map tally.key := by
          rw [List.map_cons, List.mem_cons, or_iff_right (Ne.symm same)]
        rw [enter, if_neg same, List.map_cons, ih]
        by_cases known : tally.keyOf entry ∈ rest.map tally.key
        · rw [if_pos known, if_pos (other.mpr known), List.map_cons]
        · rw [if_neg known, if_neg (mt other.mp known), List.map_cons, List.cons_append]

theorem nodup_keys (entries : List α) : ((tally.rows entries).map tally.key).Nodup := by
  induction entries using List.reverseRecOn with
  | nil => exact List.nodup_nil
  | append_singleton entries entry ih =>
      rw [rows_snoc, keys_enter]
      split
      · exact ih
      · rename_i fresh
        exact List.nodup_append.mpr ⟨ih, List.nodup_singleton _, fun key old new single => by
          rw [List.mem_singleton] at single
          rintro rfl
          exact fresh (single ▸ old)⟩

theorem mem_keys {entries : List α} {key : κ} :
    key ∈ (tally.rows entries).map tally.key ↔ key ∈ entries.map tally.keyOf := by
  induction entries using List.reverseRecOn with
  | nil => simp [rows]
  | append_singleton entries entry ih =>
      rw [rows_snoc, keys_enter, List.map_append, List.mem_append, ← ih, List.map_singleton,
        List.mem_singleton]
      split
      · rename_i known
        refine ⟨.inl, fun either => either.elim id fun same => ?_⟩
        rw [same]
        exact known
      · rw [List.mem_append, List.mem_singleton]

theorem length_rows (entries : List α) :
    (tally.rows entries).length = (entries.map tally.keyOf).dedup.length := by
  have perm : ((tally.rows entries).map tally.key).Perm (entries.map tally.keyOf).dedup :=
    (List.perm_ext_iff_of_nodup (tally.nodup_keys entries) (List.nodup_dedup _)).mpr
      fun key => by rw [mem_keys, List.mem_dedup]
  rw [← perm.length_eq, List.length_map]

theorem mem_enter {entry : α} {rows : List ρ} {row : ρ} (distinct : (rows.map tally.key).Nodup)
    (member : row ∈ tally.enter entry rows) :
    (row ∈ rows ∧ tally.key row ≠ tally.keyOf entry) ∨
      (∃ old ∈ rows, tally.key old = tally.keyOf entry ∧ row = tally.adding old entry) ∨
      (tally.keyOf entry ∉ rows.map tally.key ∧ row = tally.opening entry) := by
  induction rows with
  | nil =>
      rw [enter, List.mem_singleton] at member
      exact .inr (.inr ⟨List.not_mem_nil, member⟩)
  | cons first rest ih =>
      rw [List.map_cons, List.nodup_cons] at distinct
      by_cases same : tally.key first = tally.keyOf entry
      · rw [enter, if_pos same, List.mem_cons] at member
        rcases member with rfl | later
        · exact .inr (.inl ⟨first, List.mem_cons_self, same, rfl⟩)
        · refine .inl ⟨List.mem_cons_of_mem _ later, fun again => distinct.1 ?_⟩
          rw [same, ← again]
          exact List.mem_map_of_mem later
      · rw [enter, if_neg same, List.mem_cons] at member
        rcases member with rfl | later
        · exact .inl ⟨List.mem_cons_self, same⟩
        · rcases ih distinct.2 later with ⟨old, apart⟩ | ⟨old, held, key, made⟩ | ⟨fresh, made⟩
          · exact .inl ⟨List.mem_cons_of_mem _ old, apart⟩
          · exact .inr (.inl ⟨old, List.mem_cons_of_mem _ held, key, made⟩)
          · refine .inr (.inr ⟨?_, made⟩)
            rw [List.map_cons, List.mem_cons, not_or]
            exact ⟨Ne.symm same, fresh⟩

/-- What no further entry changes in a row, its first entry has set. -/
theorem opened_by {β : Type} (mark : ρ → β)
    (keeps : ∀ row entry, mark (tally.adding row entry) = mark row) {entries : List α} {row : ρ}
    (member : row ∈ tally.rows entries) :
    ∃ entry ∈ entries, tally.keyOf entry = tally.key row ∧ mark row = mark (tally.opening entry) := by
  induction entries using List.reverseRecOn generalizing row with
  | nil => cases member
  | append_singleton entries entry ih =>
      rw [rows_snoc] at member
      rcases tally.mem_enter (tally.nodup_keys entries) member with
        ⟨old, -⟩ | ⟨old, held, -, rfl⟩ | ⟨-, rfl⟩
      · obtain ⟨first, listed, key, set⟩ := ih old
        exact ⟨first, List.mem_append_left _ listed, key, set⟩
      · obtain ⟨first, listed, key, set⟩ := ih held
        refine ⟨first, List.mem_append_left _ listed, ?_, ?_⟩
        · rw [key, tally.key_adding]
        · rw [keeps, set]
      · exact ⟨entry, List.mem_append_right _ (List.mem_singleton_self _),
          (tally.key_opening entry).symm, rfl⟩

/-- A figure every entry adds its amount to. -/
structure Figure (M : Type) [AddCommMonoid M] where
  total : ρ → M
  amount : α → M
  total_opening : ∀ entry, total (tally.opening entry) = amount entry
  total_adding : ∀ row entry, total (tally.adding row entry) = total row + amount entry

section

variable {tally} {M : Type} [AddCommMonoid M] (figure : tally.Figure M)

/-- The row of a key has the amounts of the entries of that key. -/
theorem Figure.total_row {entries : List α} {row : ρ} (member : row ∈ tally.rows entries) :
    figure.total row =
      ((entries.filter fun entry => tally.keyOf entry = tally.key row).map figure.amount).sum := by
  induction entries using List.reverseRecOn generalizing row with
  | nil => cases member
  | append_singleton entries entry ih =>
      rw [rows_snoc] at member
      rw [List.filter_append, List.map_append, List.sum_append]
      rcases tally.mem_enter (tally.nodup_keys entries) member with
        ⟨old, apart⟩ | ⟨old, held, key, rfl⟩ | ⟨fresh, rfl⟩
      · simp [ih old, Ne.symm apart]
      · rw [figure.total_adding, tally.key_adding, ih held]
        simp [key]
      · have none : entries.filter (fun other => tally.keyOf other =
            tally.key (tally.opening entry)) = [] := by
          rw [List.filter_eq_nil_iff]
          intro other listed same
          rw [decide_eq_true_eq, tally.key_opening] at same
          exact fresh (tally.mem_keys.mpr (List.mem_map.mpr ⟨other, listed, same⟩))
        rw [none, figure.total_opening]
        simp [tally.key_opening]

theorem Figure.sum_enter (entry : α) (rows : List ρ) :
    ((tally.enter entry rows).map figure.total).sum =
      (rows.map figure.total).sum + figure.amount entry := by
  induction rows with
  | nil => simp [enter, figure.total_opening]
  | cons row rest ih =>
      rw [enter]
      split
      · rw [List.map_cons, List.sum_cons, figure.total_adding, List.map_cons, List.sum_cons,
          add_right_comm]
      · rw [List.map_cons, List.sum_cons, ih, List.map_cons, List.sum_cons, add_assoc]

/-- All rows together have the amounts of all entries. -/
theorem Figure.sum_rows (entries : List α) :
    ((tally.rows entries).map figure.total).sum = (entries.map figure.amount).sum := by
  induction entries using List.reverseRecOn with
  | nil => rfl
  | append_singleton entries entry ih =>
      rw [rows_snoc, figure.sum_enter, ih, List.map_append, List.sum_append, List.map_singleton,
        List.sum_singleton]

end

section

variable (limit : Nat)

/-- What a sort puts past a limit comes after everything within it. -/
theorem le_of_cut {le : ρ → ρ → Prop} [DecidableRel le] [Std.Total le] [IsTrans ρ le]
    {rows : List ρ} {kept left : ρ} (within : kept ∈ (rows.insertionSort le).take limit)
    (member : left ∈ rows) (cut : left ∉ (rows.insertionSort le).take limit) : le kept left := by
  have sorted := List.pairwise_insertionSort le rows
  have listed : left ∈ rows.insertionSort le := (List.mem_insertionSort le).mpr member
  rw [← List.take_append_drop limit (rows.insertionSort le), List.mem_append] at listed
  rw [← List.take_append_drop limit (rows.insertionSort le), List.pairwise_append] at sorted
  exact sorted.2.2 kept within left (listed.resolve_left cut)

/-- Rows that all fit are all kept. -/
theorem take_perm (le : ρ → ρ → Prop) [DecidableRel le] {rows : List ρ} (fits : rows.length ≤ limit) :
    ((rows.insertionSort le).take limit).Perm rows := by
  rw [List.take_of_length_le (by rwa [List.length_insertionSort])]
  exact List.perm_insertionSort le rows

end

end Tally
