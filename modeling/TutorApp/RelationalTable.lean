import Mathlib.Data.List.Nodup
import Mathlib.Data.List.Basic

set_option autoImplicit false

namespace Relational

/-- A type of rows and the columns its primary key is made of. -/
class Keyed (ρ : Type) (κ : outParam Type) where
  key : ρ → κ

export Keyed (key)

/-- The rows of a table in the order they were inserted, no two under one key. -/
@[ext]
structure Table (ρ : Type) {κ : Type} [Keyed ρ κ] where
  rows : List ρ
  unique : (rows.map key).Nodup

namespace Table

variable {ρ κ : Type} [Keyed ρ κ]

instance [DecidableEq ρ] : DecidableEq (Table ρ) := fun _ _ =>
  decidable_of_iff _ Table.ext_iff.symm

def empty : Table ρ := ⟨[], List.nodup_nil⟩

def select (table : Table ρ) (keep : ρ → Bool) : List ρ :=
  table.rows.filter keep

/-- Rewrites the rows that `hit` selects; no rewriting may move a row to another key. -/
def update (table : Table ρ) (hit : ρ → Bool) (change : ρ → ρ)
    (keeps : ∀ row, key (change row) = key row) : Table ρ :=
  ⟨table.rows.map fun row => if hit row then change row else row, by
    have same : (table.rows.map fun row => if hit row then change row else row).map key =
        table.rows.map key := by
      rw [List.map_map]
      apply List.map_congr_left
      intro row _
      simp only [Function.comp_apply]
      split
      · exact keeps row
      · rfl
    rw [same]
    exact table.unique⟩

def restrict (table : Table ρ) (keep : ρ → Bool) : Table ρ :=
  ⟨table.rows.filter keep, table.unique.sublist (List.filter_sublist.map _)⟩

def delete (table : Table ρ) (hit : ρ → Bool) : Table ρ :=
  table.restrict fun row => !hit row

/-- The rows in another shape, each under the key it had. -/
def convert {σ : Type} [Keyed σ κ] (table : Table ρ) (change : ρ → σ)
    (keeps : ∀ row, key (change row) = key row) : Table σ :=
  ⟨table.rows.map change, by
    have same : (table.rows.map change).map key = table.rows.map key := by
      rw [List.map_map]
      exact List.map_congr_left fun row _ => keeps row
    rw [same]
    exact table.unique⟩

@[simp] theorem rows_empty : (empty : Table ρ).rows = [] := rfl

@[simp] theorem rows_restrict (table : Table ρ) (keep : ρ → Bool) :
    (table.restrict keep).rows = table.rows.filter keep := rfl

@[simp] theorem rows_update (table : Table ρ) (hit : ρ → Bool) (change : ρ → ρ)
    (keeps : ∀ row, key (change row) = key row) :
    (table.update hit change keeps).rows =
      table.rows.map fun row => if hit row then change row else row := rfl

/-- What does not show a change shows the rows as they were. -/
theorem map_rows_update {β : Type} {table : Table ρ} {hit : ρ → Bool} {change : ρ → ρ}
    {shown : ρ → β} (keeps : ∀ row, key (change row) = key row)
    (unseen : ∀ row, shown (change row) = shown row) :
    (table.update hit change keeps).rows.map shown = table.rows.map shown := by
  rw [rows_update, List.map_map]
  apply List.map_congr_left
  intro row _
  rw [Function.comp_apply]
  split
  · exact unseen row
  · rfl

@[simp] theorem mem_restrict {table : Table ρ} {keep : ρ → Bool} {row : ρ} :
    row ∈ (table.restrict keep).rows ↔ row ∈ table.rows ∧ keep row = true :=
  List.mem_filter

@[simp] theorem mem_delete {table : Table ρ} {hit : ρ → Bool} {row : ρ} :
    row ∈ (table.delete hit).rows ↔ row ∈ table.rows ∧ hit row = false := by
  simp only [delete, mem_restrict, Bool.not_eq_true']

/-- An update is decided by which of the rows it hits. -/
theorem update_congr {table : Table ρ} {left right : ρ → Bool} {change : ρ → ρ}
    {keeps : ∀ row, key (change row) = key row} (same : ∀ row ∈ table.rows, left row = right row) :
    table.update left change keeps = table.update right change keeps := by
  apply Table.ext
  rw [rows_update, rows_update]
  apply List.map_congr_left
  intro row member
  rw [same row member]

/-- A row after a rewriting is an old one, or what became of one that was hit. -/
theorem of_mem_update {table : Table ρ} {hit : ρ → Bool} {change : ρ → ρ}
    {keeps : ∀ row, key (change row) = key row} {row : ρ}
    (member : row ∈ (table.update hit change keeps).rows) :
    row ∈ table.rows ∨ ∃ old ∈ table.rows, hit old = true ∧ row = change old := by
  obtain ⟨old, present, rfl⟩ := List.mem_map.mp member
  split
  · rename_i selected
    exact .inr ⟨old, present, selected, rfl⟩
  · exact .inl present

theorem mem_update_or_hit {table : Table ρ} {hit : ρ → Bool} {change : ρ → ρ}
    {keeps : ∀ row, key (change row) = key row} {row : ρ} (member : row ∈ table.rows) :
    row ∈ (table.update hit change keeps).rows ∨ hit row = true := by
  by_cases selected : hit row = true
  · exact .inr selected
  · exact .inl (List.mem_map.mpr ⟨row, member, if_neg selected⟩)

theorem mem_select {table : Table ρ} {keep : ρ → Bool} {row : ρ} :
    row ∈ table.select keep ↔ row ∈ table.rows ∧ keep row = true :=
  List.mem_filter

theorem key_injective {table : Table ρ} {left right : ρ} (first : left ∈ table.rows)
    (second : right ∈ table.rows) (same : key left = key right) : left = right :=
  List.inj_on_of_nodup_map table.unique first second same

/-- The rows with a value in one of their columns, gathered value by value. -/
theorem select_perm_flatMap {γ : Type} [BEq γ] [LawfulBEq γ] {table : Table ρ} {keep : ρ → Bool}
    {column : ρ → γ} {values : List γ} (once : values.Nodup)
    (covered : ∀ row ∈ table.rows, keep row = true ↔ column row ∈ values) :
    (table.select keep).Perm (values.flatMap fun value => table.select fun row => column row == value) := by
  have distinct : table.rows.Nodup := List.Nodup.of_map _ table.unique
  have gathered : (values.flatMap fun value => table.select fun row => column row == value).Nodup := by
    rw [List.nodup_flatMap]
    refine ⟨fun value _ => distinct.filter _, once.imp fun apart => ?_⟩
    intro row first second
    simp only [mem_select, beq_iff_eq] at first second
    exact apart (first.2.symm.trans second.2)
  rw [select, List.perm_ext_iff_of_nodup (distinct.filter _) gathered]
  intro row
  simp only [List.mem_filter, mem_select, List.mem_flatMap, beq_iff_eq]
  constructor
  · rintro ⟨member, kept⟩
    exact ⟨column row, (covered row member).mp kept, member, rfl⟩
  · rintro ⟨value, listed, member, rfl⟩
    exact ⟨member, (covered row member).mpr listed⟩

/-- What is picked out of a part in two steps, when the second one does not leave the part. -/
theorem filter_restrict {table : Table ρ} {hit keep more : ρ → Bool}
    (inside : ∀ row ∈ table.rows, more row = true → keep row = true) :
    ((table.restrict keep).select hit).filter more = (table.select hit).filter more := by
  simp only [select, rows_restrict, List.filter_filter]
  apply List.filter_congr
  intro row member
  by_cases selected : more row = true
  · simp only [inside row member selected, Bool.and_true]
  · simp only [selected, Bool.false_and]

theorem any_restrict {table : Table ρ} {hit keep : ρ → Bool}
    (inside : ∀ row ∈ table.rows, hit row = true → keep row = true) :
    (table.restrict keep).rows.any hit = table.rows.any hit := by
  rw [Bool.eq_iff_iff, List.any_eq_true, List.any_eq_true]
  constructor
  · rintro ⟨row, member, selected⟩
    exact ⟨row, (mem_restrict.mp member).1, selected⟩
  · rintro ⟨row, member, selected⟩
    exact ⟨row, mem_restrict.mpr ⟨member, inside row member selected⟩, selected⟩

theorem all_restrict {table : Table ρ} {check keep : ρ → Bool}
    (inside : ∀ row ∈ table.rows, check row = false → keep row = true) :
    (table.restrict keep).rows.all check = table.rows.all check := by
  rw [Bool.eq_iff_iff, List.all_eq_true, List.all_eq_true]
  constructor
  · intro passes row member
    by_contra fails
    exact fails (passes row (mem_restrict.mpr
      ⟨member, inside row member ((Bool.not_eq_true _).mp fails)⟩))
  · intro passes row member
    exact passes row (mem_restrict.mp member).1

/-- The first row that is asked for, when it is in the part. -/
theorem find?_restrict {table : Table ρ} {hit keep : ρ → Bool}
    (inside : ∀ row ∈ table.rows.find? hit, keep row = true) :
    (table.restrict keep).rows.find? hit = table.rows.find? hit := by
  rw [rows_restrict]
  generalize table.rows = rows at inside ⊢
  induction rows with
  | nil => rfl
  | cons row rest ih =>
      cases selected : hit row with
      | true =>
          rw [List.find?_cons_of_pos selected] at inside ⊢
          rw [List.filter_cons_of_pos (inside row rfl), List.find?_cons_of_pos selected]
      | false =>
          have skipped : ¬hit row = true := by simp only [selected, Bool.false_eq_true, not_false_eq_true]
          rw [List.find?_cons_of_neg skipped] at inside ⊢
          rw [List.filter_cons]
          split
          · rw [List.find?_cons_of_neg skipped, ih inside]
          · exact ih inside

/-- A selection inside a part of the table does not read the rest of it. -/
theorem select_restrict {table : Table ρ} {hit keep : ρ → Bool}
    (inside : ∀ row ∈ table.rows, hit row = true → keep row = true) :
    (table.restrict keep).select hit = table.select hit := by
  simp only [select, rows_restrict, List.filter_filter]
  apply List.filter_congr
  intro row member
  by_cases selected : hit row = true
  · simp only [inside row member selected, Bool.and_true]
  · simp only [Bool.not_eq_true] at selected
    simp only [selected, Bool.false_and]

/-- The same for two selections that agree on the part. -/
theorem select_restrict_congr {table : Table ρ} {hit other keep : ρ → Bool}
    (inside : ∀ row ∈ table.rows, hit row = true → keep row = true)
    (same : ∀ row ∈ table.rows, keep row = true → other row = hit row) :
    (table.restrict keep).select other = table.select hit := by
  rw [← select_restrict inside]
  apply List.filter_congr
  intro row member
  obtain ⟨present, kept⟩ := mem_restrict.mp member
  exact same row present kept

theorem restrict_congr {table : Table ρ} {keep other : ρ → Bool}
    (same : ∀ row ∈ table.rows, keep row = other row) :
    table.restrict keep = table.restrict other :=
  Table.ext (List.filter_congr same)

/-- Deleting from a part of the table is deleting from the table and taking the part. -/
theorem restrict_delete {table : Table ρ} {hit other before after : ρ → Bool}
    (stays : ∀ row ∈ table.rows, hit row = false → after row = before row)
    (agree : ∀ row ∈ table.rows, before row = true → other row = hit row) :
    (table.delete hit).restrict after = (table.restrict before).delete other := by
  apply Table.ext
  simp only [delete, rows_restrict, List.filter_filter]
  apply List.filter_congr
  intro row member
  cases part : before row with
  | true =>
      rw [agree row member part, Bool.and_true]
      cases selected : hit row with
      | true => rw [Bool.not_true, Bool.and_false]
      | false => rw [stays row member selected, part, Bool.not_false, Bool.and_true]
  | false =>
      rw [Bool.and_false]
      cases selected : hit row with
      | true => rw [Bool.not_true, Bool.and_false]
      | false => rw [stays row member selected, part, Bool.false_and]

theorem restrict_update {table : Table ρ} {hit other before after : ρ → Bool} {change : ρ → ρ}
    {keeps : ∀ row, key (change row) = key row}
    (stays : ∀ row ∈ table.rows, after (if hit row then change row else row) = before row)
    (agree : ∀ row ∈ table.rows, before row = true → other row = hit row) :
    (table.update hit change keeps).restrict after =
      (table.restrict before).update other change keeps := by
  apply Table.ext
  simp only [rows_restrict, rows_update, List.filter_map]
  have kept : table.rows.filter (after ∘ fun row => if hit row then change row else row) =
      table.rows.filter before := List.filter_congr stays
  rw [kept]
  apply List.map_congr_left
  intro row member
  obtain ⟨present, part⟩ := List.mem_filter.mp member
  rw [agree row present part]

theorem delete_none {table : Table ρ} {hit : ρ → Bool}
    (untouched : ∀ row ∈ table.rows, hit row = false) : table.delete hit = table := by
  apply Table.ext
  rw [delete, rows_restrict, List.filter_eq_self]
  intro row member
  rw [untouched row member]
  rfl

theorem delete_eq_self {table : Table ρ} {hit : ρ → Bool} :
    table.delete hit = table ↔ ∀ row ∈ table.rows, hit row = false := by
  constructor
  · intro same row member
    exact (mem_delete.mp (same ▸ member)).2
  · exact delete_none

/-- A count no deleted row takes part in. -/
theorem countP_delete {table : Table ρ} {hit : ρ → Bool} (p : ρ → Bool)
    (outside : ∀ row ∈ table.rows, hit row = true → p row = false) :
    (table.delete hit).rows.countP p = table.rows.countP p := by
  rw [delete, rows_restrict, List.countP_filter]
  apply List.countP_congr
  intro row member
  by_cases selected : hit row = true
  · rw [outside row member selected, Bool.false_and]
  · rw [Bool.not_eq_true] at selected
    rw [selected, Bool.not_false, Bool.and_true]

theorem update_eq_self {table : Table ρ} {hit : ρ → Bool} {change : ρ → ρ}
    {keeps : ∀ row, key (change row) = key row}
    (settled : ∀ row ∈ table.rows, hit row = true → change row = row) :
    table.update hit change keeps = table := by
  apply Table.ext
  rw [rows_update]
  conv_rhs => rw [← List.map_id table.rows]
  apply List.map_congr_left
  intro row member
  by_cases selected : hit row = true
  · rw [if_pos selected, settled row member selected, id_eq]
  · rw [if_neg selected, id_eq]

variable [DecidableEq κ]

def find (table : Table ρ) (k : κ) : Option ρ :=
  table.rows.find? fun row => decide (key row = k)

/-- An insertion under a key that is taken is refused. -/
def insert? (table : Table ρ) (row : ρ) : Option (Table ρ) :=
  if absent : key row ∈ table.rows.map key then none
  else some ⟨table.rows ++ [row], by
    rw [List.map_append]
    refine table.unique.append (List.nodup_singleton _) ?_
    intro k member taken
    rw [List.map_singleton, List.mem_singleton] at taken
    exact absent (taken ▸ member)⟩

/-- Inserts a row, or rewrites the one that holds its key. -/
def upsert (table : Table ρ) (row : ρ) (change : ρ → ρ)
    (keeps : ∀ row, key (change row) = key row) : Table ρ :=
  match table.insert? row with
  | some next => next
  | none => table.update (fun other => decide (key other = key row)) change keeps

@[simp] theorem find_empty (k : κ) : (empty : Table ρ).find k = none := rfl

/-- A lookup by key answers exactly the membership of the row it returns. -/
theorem find_eq_some {table : Table ρ} {k : κ} {row : ρ} :
    table.find k = some row ↔ row ∈ table.rows ∧ key row = k := by
  constructor
  · intro found
    exact ⟨List.mem_of_find?_eq_some found, by simpa using List.find?_some found⟩
  · rintro ⟨member, rfl⟩
    have present : (table.find (key row)).isSome := by
      rw [find, List.find?_isSome]
      exact ⟨row, member, by simp⟩
    obtain ⟨other, found⟩ := Option.isSome_iff_exists.mp present
    have same : key other = key row := by simpa using List.find?_some found
    rw [found, key_injective (List.mem_of_find?_eq_some found) member same]

theorem find_eq_none {table : Table ρ} {k : κ} :
    table.find k = none ↔ ∀ row ∈ table.rows, key row ≠ k := by
  simp only [find, List.find?_eq_none, decide_eq_true_eq, ne_eq]

theorem find_key {table : Table ρ} {row : ρ} (member : row ∈ table.rows) :
    table.find (key row) = some row :=
  find_eq_some.mpr ⟨member, rfl⟩

/-- What a successful insertion did: the key was free and the row is now the last one. -/
theorem insert?_eq_some {table next : Table ρ} {row : ρ} :
    table.insert? row = some next ↔
      table.find (key row) = none ∧ next.rows = table.rows ++ [row] := by
  have free : key row ∉ table.rows.map key ↔ table.find (key row) = none := by
    rw [find_eq_none]
    simp only [List.mem_map, not_exists, not_and, ne_eq]
  rw [← free, insert?]
  split
  · rename_i taken
    simp only [taken, not_true_eq_false, false_and, reduceCtorEq]
  · rename_i absent
    simp only [Option.some.injEq, absent, not_false_eq_true, true_and]
    constructor
    · rintro rfl
      rfl
    · intro rows
      exact Table.ext rows.symm

theorem find_of_insert {table next : Table ρ} {row : ρ} (done : table.insert? row = some next)
    (k : κ) : next.find k = if key row = k then some row else table.find k := by
  obtain ⟨free, rows⟩ := insert?_eq_some.mp done
  simp only [find, rows, List.find?_append] at free ⊢
  split
  · rename_i same
    rw [← same, free]
    simp
  · rename_i other
    simp [other]

/-- An insertion moves nothing that was found before. -/
theorem find_after_insert {table next : Table ρ} {row found : ρ} {k : κ}
    (done : table.insert? row = some next) (before : table.find k = some found) :
    next.find k = some found := by
  rw [find_of_insert done, if_neg, before]
  rintro rfl
  rw [(insert?_eq_some.mp done).1] at before
  cases before

theorem find_update (table : Table ρ) (hit : ρ → Bool) (change : ρ → ρ)
    (keeps : ∀ row, key (change row) = key row) (k : κ) :
    (table.update hit change keeps).find k =
      (table.find k).map fun row => if hit row then change row else row := by
  have same : ((fun row => decide (key row = k)) ∘ fun row => if hit row then change row else row) =
      fun row => decide (key row = k) := by
    funext row
    simp only [Function.comp_apply]
    split
    · rw [keeps]
    · rfl
  simp only [find, rows_update, List.find?_map, same]

/-- Rewriting the row under one key leaves what is found under the others. -/
theorem find_update_key (table : Table ρ) (k : κ) (change : ρ → ρ)
    (keeps : ∀ row, key (change row) = key row) (other : κ) :
    (table.update (fun row => decide (key row = k)) change keeps).find other =
      if other = k then (table.find other).map change else table.find other := by
  rw [find_update]
  cases found : table.find other with
  | none => simp only [Option.map_none, ite_self]
  | some row =>
      have named : key row = other := (find_eq_some.mp found).2
      simp only [Option.map_some, named, decide_eq_true_eq]
      split <;> rfl

/-- A column no rewriting touches reads the same under every key. -/
theorem map_find_update {γ : Type} {table : Table ρ} {hit : ρ → Bool} {change : ρ → ρ}
    {keeps : ∀ row, key (change row) = key row} {column : ρ → γ}
    (untouched : ∀ row, column (change row) = column row) (k : κ) :
    ((table.update hit change keeps).find k).map column = (table.find k).map column := by
  rw [find_update, Option.map_map]
  congr 1
  funext row
  simp only [Function.comp_apply]
  split
  · exact untouched row
  · rfl

/-- A column that led somewhere before an insertion still does. -/
theorem map_find_after_insert {γ : Type} {table next : Table ρ} {row : ρ} {column : ρ → γ} {k : κ}
    {value : γ} (done : table.insert? row = some next)
    (before : (table.find k).map column = some value) :
    (next.find k).map column = some value := by
  obtain ⟨found, lookup, rfl⟩ := Option.map_eq_some_iff.mp before
  rw [find_after_insert done lookup, Option.map_some]

theorem mem_insert {table next : Table ρ} {row other : ρ} (done : table.insert? row = some next) :
    other ∈ next.rows ↔ other ∈ table.rows ∨ other = row := by
  rw [(insert?_eq_some.mp done).2, List.mem_append, List.mem_singleton]

/-- What no row has stays of one row when it is inserted. -/
theorem insert_unique {β : Type} {table next : Table ρ} {row : ρ} (value : ρ → β)
    (done : table.insert? row = some next) (free : ∀ other ∈ table.rows, value other ≠ value row)
    (unique : ∀ left ∈ table.rows, ∀ right ∈ table.rows, value left = value right → left = right) :
    ∀ left ∈ next.rows, ∀ right ∈ next.rows, value left = value right → left = right := by
  intro left first right second same
  rcases (mem_insert done).mp first with old | rfl
  · rcases (mem_insert done).mp second with other | rfl
    · exact unique left old right other same
    · exact absurd same (free left old)
  · rcases (mem_insert done).mp second with other | rfl
    · exact absurd same.symm (free right other)
    · rfl

theorem find_restrict (table : Table ρ) (keep : ρ → Bool) (k : κ) :
    (table.restrict keep).find k = (table.find k).filter keep := by
  apply Option.ext
  intro row
  simp only [find_eq_some, mem_restrict, Option.filter_eq_some_iff]
  exact and_right_comm

theorem find_delete (table : Table ρ) (hit : ρ → Bool) (k : κ) :
    (table.delete hit).find k = (table.find k).filter fun row => !hit row :=
  find_restrict table _ k

theorem insert?_eq_none {table : Table ρ} {row : ρ} :
    table.insert? row = none ↔ (table.find (key row)).isSome = true := by
  cases inserted : table.insert? row with
  | none =>
      simp only [insert?] at inserted
      split at inserted
      · rename_i taken
        obtain ⟨other, member, same⟩ := List.mem_map.mp taken
        rw [← same, find_key member]
        simp
      · cases inserted
  | some next =>
      rw [(insert?_eq_some.mp inserted).1]
      simp

/-- What goes into the table goes into a part of it that takes the row. -/
theorem insert_restrict {table next : Table ρ} {row : ρ} {before after : ρ → Bool}
    (done : table.insert? row = some next) (takes : after row = true)
    (same : ∀ other ∈ table.rows, after other = before other) :
    (table.restrict before).insert? row = some (next.restrict after) := by
  obtain ⟨free, rows⟩ := insert?_eq_some.mp done
  rw [insert?_eq_some, find_restrict, free, Option.filter_none]
  refine ⟨rfl, ?_⟩
  rw [rows_restrict, rows, List.filter_append, List.filter_cons_of_pos takes, List.filter_nil,
    rows_restrict, List.filter_congr same]

theorem exists_insert {table : Table ρ} {row : ρ} (free : table.find (key row) = none) :
    ∃ next, table.insert? row = some next := by
  cases inserted : table.insert? row with
  | some next => exact ⟨next, rfl⟩
  | none =>
      have taken := insert?_eq_none.mp inserted
      rw [free] at taken
      cases taken

/-- An insertion that is dropped when its key is taken. -/
theorem find_insert_getD (table : Table ρ) (row : ρ) (k : κ) :
    ((table.insert? row).getD table).find k =
      (table.find k).or (if key row = k then some row else none) := by
  cases inserted : table.insert? row with
  | some next =>
      rw [Option.getD_some, find_of_insert inserted]
      split
      · rename_i same
        rw [← same, (insert?_eq_some.mp inserted).1, Option.none_or]
      · rw [Option.or_none]
  | none =>
      have taken := insert?_eq_none.mp inserted
      rw [Option.getD_none]
      split
      · rename_i same
        obtain ⟨old, found⟩ := Option.isSome_iff_exists.mp taken
        rw [← same, found, Option.some_or]
      · rw [Option.or_none]

theorem find_upsert (table : Table ρ) (row : ρ) (change : ρ → ρ)
    (keeps : ∀ row, key (change row) = key row) (k : κ) :
    (table.upsert row change keeps).find k =
      if key row = k then some ((table.find k).elim row change) else table.find k := by
  unfold upsert
  split
  · rename_i next inserted
    rw [find_of_insert inserted]
    by_cases same : key row = k
    · rw [if_pos same, if_pos same, ← same, (insert?_eq_some.mp inserted).1, Option.elim_none]
    · rw [if_neg same, if_neg same]
  · rename_i taken
    rw [find_update_key]
    by_cases same : key row = k
    · subst same
      obtain ⟨old, found⟩ := Option.isSome_iff_exists.mp (insert?_eq_none.mp taken)
      rw [if_pos rfl, if_pos rfl, found, Option.map_some, Option.elim_some]
    · rw [if_neg (Ne.symm same), if_neg same]

theorem countP_insert {table next : Table ρ} {row : ρ} (p : ρ → Bool)
    (done : table.insert? row = some next) :
    next.rows.countP p = table.rows.countP p + if p row then 1 else 0 := by
  rw [(insert?_eq_some.mp done).2, List.countP_append, List.countP_singleton]

/-- Rewriting the row under one key changes a count by that row alone. -/
theorem countP_update {table : Table ρ} {k : κ} {old : ρ} {change : ρ → ρ}
    {keeps : ∀ row, key (change row) = key row} (p : ρ → Bool) (found : table.find k = some old) :
    (table.update (fun row => decide (key row = k)) change keeps).rows.countP p +
        (if p old then 1 else 0) =
      table.rows.countP p + if p (change old) then 1 else 0 := by
  obtain ⟨member, rfl⟩ := find_eq_some.mp found
  rw [rows_update]
  have unique := table.unique
  generalize table.rows = rows at member unique ⊢
  induction rows with
  | nil => cases member
  | cons row rest ih =>
      rw [List.map_cons, List.nodup_cons] at unique
      obtain ⟨absent, distinct⟩ := unique
      rcases List.mem_cons.mp member with rfl | later
      · have untouched : rest.map (fun row => if decide (key row = key old) = true
            then change row else row) = rest := by
          conv_rhs => rw [← List.map_id rest]
          apply List.map_congr_left
          intro row listed
          rw [if_neg, id]
          intro same
          exact absent (of_decide_eq_true same ▸ List.mem_map_of_mem listed)
        rw [List.map_cons, untouched, decide_eq_true rfl, if_pos rfl, List.countP_cons,
          List.countP_cons]
        omega
      · have other : key row ≠ key old := fun same => absent (same ▸ List.mem_map_of_mem later)
        have tail := ih later distinct
        rw [List.map_cons, decide_eq_false other, if_neg Bool.false_ne_true, List.countP_cons,
          List.countP_cons]
        omega

/-- An upsert that finds its row as it would leave it. -/
theorem upsert_eq_self {table : Table ρ} {row old : ρ} {change : ρ → ρ}
    {keeps : ∀ row, key (change row) = key row} (found : table.find (key row) = some old)
    (settled : change old = old) : table.upsert row change keeps = table := by
  have taken : table.insert? row = none := insert?_eq_none.mpr (Option.isSome_of_eq_some found)
  rw [upsert, taken]
  apply update_eq_self
  intro other member hit
  rw [← of_decide_eq_true hit] at found
  have same := Option.some.inj ((find_key member).symm.trans found)
  rw [same, settled]

theorem countP_upsert {table : Table ρ} {row : ρ} {change : ρ → ρ}
    {keeps : ∀ row, key (change row) = key row} (p : ρ → Bool) :
    (table.upsert row change keeps).rows.countP p +
        (if (table.find (key row)).any p then 1 else 0) =
      table.rows.countP p + if p ((table.find (key row)).elim row change) then 1 else 0 := by
  unfold upsert
  split
  · rename_i next inserted
    rw [(insert?_eq_some.mp inserted).1, countP_insert p inserted]
    rfl
  · rename_i taken
    obtain ⟨old, found⟩ := Option.isSome_iff_exists.mp (insert?_eq_none.mp taken)
    rw [found]
    exact countP_update p found

end Table

end Relational
