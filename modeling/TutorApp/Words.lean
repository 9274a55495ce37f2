import Mathlib.Computability.Language
import TutorApp.Trimming

set_option autoImplicit false

/-! The words of a text, the phrases they make with one separator between each two, and what is
left of a phrase that is cut short. -/

namespace Words

open Computability

variable {α : Type}

/-- `k+`, of a class `k` of characters. -/
def run (keep : α → Bool) : Language α := {word | word ≠ [] ∧ ∀ x ∈ word, keep x = true}

/-- `w(?:-w)*`, of a language `w`. -/
def phrase (word : Language α) (separator : α) : Language α := word * ({[separator]} * word)∗

/-- The longest runs of what is kept. -/
def words (keep : α → Bool) (text : List α) : List (List α) :=
  (text.splitOnP fun x => !keep x).filter fun word => !word.isEmpty

/-- The first few words end, with the separator behind them, at the limit, and more follow. -/
def EndsAt (limit : Nat) (pieces : List (List α)) : Prop :=
  ∃ count < pieces.length, (pieces.take count).flatten.length + count = limit

instance (limit : Nat) (pieces : List (List α)) : Decidable (EndsAt limit pieces) :=
  inferInstanceAs (Decidable (∃ count < _, _))

/-- Every run of what is not kept as one separator. -/
def collapse [DecidableEq α] (keep : α → Bool) (separator : α) : List α → List α
  | [] => []
  | x :: rest =>
      if keep x then x :: collapse keep separator rest
      else separator :: (collapse keep separator rest).dropWhile (· == separator)

variable {keep : α → Bool} {separator : α} {word : Language α} {text : List α}

theorem intercalate_cons (piece : List α) (pieces : List (List α)) :
    [separator].intercalate (piece :: pieces) =
      piece ++ (pieces.map fun piece => separator :: piece).flatten := by
  induction pieces generalizing piece with
  | nil => rw [List.intercalate_singleton, List.map_nil, List.flatten_nil, List.append_nil]
  | cons next rest ih =>
      rw [List.intercalate_cons_cons, ih, List.map_cons, List.flatten_cons, List.append_assoc,
        List.singleton_append, List.cons_append]

theorem separator_ne [DecidableEq α] (apart : keep separator = false) {x : α}
    (kept : keep x = true) : ¬ (x == separator) = true := by
  rw [beq_iff_eq]
  rintro rfl
  rw [kept] at apart
  cases apart

theorem separator_not_mem (apart : keep separator = false) {piece : List α}
    (good : piece ∈ run keep) : separator ∉ piece := by
  intro member
  rw [good.2 separator member] at apart
  cases apart

section

variable [DecidableEq α]

theorem mem_phrase (whole : ∀ piece ∈ word, separator ∉ piece) :
    text ∈ phrase word separator ↔ ∀ piece ∈ text.splitOn separator, piece ∈ word := by
  rw [phrase, Language.mem_mul]
  constructor
  · rintro ⟨first, good, _, ⟨more, rfl, tails⟩, rfl⟩
    induction more generalizing first with
    | nil =>
        rw [List.flatten_nil, List.append_nil, List.splitOn_eq_singleton (whole first good)]
        exact fun piece member => List.mem_singleton.mp member ▸ good
    | cons tail more ih =>
        obtain ⟨_, rfl, next, fair, rfl⟩ := Language.mem_mul.mp (tails tail List.mem_cons_self)
        rw [List.flatten_cons, List.singleton_append, List.cons_append,
          List.splitOn_append_cons_self_of_not_mem (whole first good)]
        intro piece member
        rcases List.mem_cons.mp member with rfl | member
        · exact good
        · exact ih next fair (fun other listed => tails other (List.mem_cons_of_mem _ listed))
            piece member
  · intro good
    obtain ⟨first, more, split⟩ :=
      List.exists_cons_of_ne_nil (List.splitOn_ne_nil separator text)
    have joined : [separator].intercalate (text.splitOn separator) = text :=
      List.intercalate_splitOn separator
    rw [split] at good
    rw [split, intercalate_cons] at joined
    refine ⟨first, good first List.mem_cons_self, _, ⟨_, rfl, ?_⟩, joined⟩
    intro tail member
    obtain ⟨piece, listed, rfl⟩ := List.mem_map.mp member
    exact Language.append_mem_mul (Set.mem_singleton [separator])
      (good piece (List.mem_cons_of_mem _ listed))

theorem mem_phrase_run (apart : keep separator = false) :
    text ∈ phrase (run keep) separator ↔
      ∀ piece ∈ text.splitOn separator, piece ∈ run keep :=
  mem_phrase fun _ good => separator_not_mem apart good

theorem run_mem_phrase (apart : keep separator = false) {piece : List α}
    (good : piece ∈ run keep) : piece ∈ phrase (run keep) separator := by
  rw [mem_phrase_run apart, List.splitOn_eq_singleton (separator_not_mem apart good)]
  exact fun other member => List.mem_singleton.mp member ▸ good

theorem nil_not_mem_phrase (apart : keep separator = false) :
    [] ∉ phrase (run keep) separator := by
  rw [mem_phrase_run apart, List.splitOn_nil]
  exact fun good => (good [] (List.mem_singleton_self _)).1 rfl

theorem append_mem_phrase (apart : keep separator = false) {piece : List α}
    (good : piece ∈ run keep) (rest : List α) :
    piece ++ separator :: rest ∈ phrase (run keep) separator ↔
      rest ∈ phrase (run keep) separator := by
  rw [mem_phrase_run apart, mem_phrase_run apart,
    List.splitOn_append_cons_self_of_not_mem (separator_not_mem apart good), List.forall_mem_cons,
    and_iff_right good]

end

theorem intercalate_ne_nil {pieces : List (List α)} (some : pieces ≠ [])
    (good : ∀ piece ∈ pieces, piece ∈ run keep) : [separator].intercalate pieces ≠ [] := by
  obtain ⟨piece, more, rfl⟩ := List.exists_cons_of_ne_nil some
  rw [intercalate_cons]
  exact List.append_ne_nil_of_left_ne_nil (good piece List.mem_cons_self).1 _

theorem words_cons_skip {x : α} (skipped : keep x = false) (rest : List α) :
    words keep (x :: rest) = words keep rest := by
  rw [words, words, List.splitOnP_cons_eq_if_modifyHead, skipped]
  rfl

theorem words_cons_open {x : α} (kept : keep x = true) {rest : List α}
    (ends : ∀ y ∈ rest.head?, keep y = false) : words keep (x :: rest) = [x] :: words keep rest := by
  rw [words, words, List.splitOnP_cons_eq_if_modifyHead, kept]
  cases rest with
  | nil => rfl
  | cons y rest =>
      rw [List.splitOnP_cons_eq_if_modifyHead, ends y rfl]
      rfl

theorem words_cons_cons {x y : α} (kept : keep x = true) (next : keep y = true) (rest : List α) :
    ∃ word more, words keep (y :: rest) = word :: more ∧
      words keep (x :: y :: rest) = (x :: word) :: more := by
  obtain ⟨word, more, split⟩ := List.exists_cons_of_ne_nil
    (List.splitOnP_ne_nil (fun x => !keep x) rest)
  refine ⟨y :: word, more.filter fun word => !word.isEmpty, ?_, ?_⟩
  · rw [words, List.splitOnP_cons_eq_if_modifyHead, next, split]
    rfl
  · rw [words, List.splitOnP_cons_eq_if_modifyHead, List.splitOnP_cons_eq_if_modifyHead, kept, next,
      split]
    rfl

theorem words_run : ∀ word ∈ words keep text, word ∈ run keep := by
  induction text with
  | nil =>
      intro word member
      cases member
  | cons x rest ih =>
      cases kept : keep x
      · rwa [words_cons_skip kept]
      · have alone : [x] ∈ run keep :=
          ⟨List.cons_ne_nil _ _, fun _ member => List.mem_singleton.mp member ▸ kept⟩
        rcases rest with _ | ⟨y, rest⟩
        · rw [words_cons_open kept (by rintro _ ⟨⟩)]
          exact List.forall_mem_cons.mpr ⟨alone, ih⟩
        · cases next : keep y
          · rw [words_cons_open kept (by rintro _ ⟨⟩; exact next)]
            exact List.forall_mem_cons.mpr ⟨alone, ih⟩
          · obtain ⟨word, more, before, after⟩ := words_cons_cons kept next rest
            rw [before] at ih
            obtain ⟨fair, good⟩ := List.forall_mem_cons.mp ih
            rw [after]
            refine List.forall_mem_cons.mpr ⟨⟨List.cons_ne_nil _ _, ?_⟩, good⟩
            exact List.forall_mem_cons.mpr ⟨kept, fair.2⟩

/-- No separator comes after one. -/
theorem dropWhile_collapse [DecidableEq α] (apart : keep separator = false) {others : List α}
    (led : collapse keep separator text = separator :: others) :
    others.dropWhile (· == separator) = others := by
  cases text with
  | nil => cases led
  | cons x rest =>
      rw [collapse] at led
      split at led
      · rename_i kept
        obtain ⟨rfl, -⟩ := List.cons.inj led
        rw [kept] at apart
        cases apart
      · rw [← List.tail_eq_of_cons_eq led, List.dropWhile_idempotent]

/-- Collapsed, and cut at both ends of separators, a text is its words with one separator between
each two. -/
theorem trimmed_collapse [DecidableEq α] (apart : keep separator = false) :
    Trimming.trimmed (· == separator) (collapse keep separator text) =
      [separator].intercalate (words keep text) := by
  induction text with
  | nil => rfl
  | cons x rest ih =>
      cases kept : keep x
      · rw [words_cons_skip kept, ← ih, collapse, kept, if_neg (by decide),
          Trimming.trimmed_cons_drop (· == separator) (beq_self_eq_true _), Trimming.trimmed_dropWhile]
      · rw [collapse, if_pos kept, Trimming.trimmed_cons_keep (· == separator) (separator_ne apart kept)]
        rcases rest with _ | ⟨y, rest⟩
        · rw [words_cons_open kept (by rintro _ ⟨⟩)]
          rfl
        · cases next : keep y
          · -- the separator behind `x` stays where a word comes after it
            rw [words_cons_skip next, collapse, next, if_neg (by decide),
              Trimming.trimmed_cons_drop (· == separator) (beq_self_eq_true _), Trimming.trimmed_dropWhile] at ih
            rw [words_cons_open kept (by rintro _ ⟨⟩; exact next), words_cons_skip next, collapse,
              next, if_neg (by decide), Trimming.rdropWhile_cons_drop (· == separator) (beq_self_eq_true _),
              ← Trimming.trimmed, ih]
            by_cases none : words keep rest = []
            · rw [none, if_pos List.intercalate_nil]
              rfl
            · rw [if_neg (intercalate_ne_nil none words_run), List.intercalate_cons_of_ne_nil none]
              rfl
          · obtain ⟨word, more, before, after⟩ := words_cons_cons kept next rest
            rw [before, intercalate_cons] at ih
            rw [after, intercalate_cons, List.cons_append, ← ih, collapse, if_pos next,
              Trimming.trimmed_cons_keep (· == separator) (separator_ne apart next),
              Trimming.rdropWhile_cons_keep (· == separator) (separator_ne apart next)]

theorem take_run {piece : List α} (good : piece ∈ run keep) {limit : Nat} (positive : 0 < limit) :
    piece.take limit ∈ run keep := by
  refine ⟨fun none => ?_, fun x member => good.2 x (List.mem_of_mem_take member)⟩
  rcases List.take_eq_nil_iff.mp none with zero | empty
  · omega
  · exact good.1 empty

theorem not_endsAt_nil {limit : Nat} : ¬ EndsAt limit ([] : List (List α)) :=
  fun ⟨_, short, _⟩ => absurd short (Nat.not_lt_zero _)

theorem endsAt_cons {limit : Nat} (positive : 0 < limit) {piece : List α}
    {pieces : List (List α)} (more : pieces ≠ []) :
    EndsAt limit (piece :: pieces) ↔
      piece.length + 1 ≤ limit ∧
        (limit = piece.length + 1 ∨ EndsAt (limit - (piece.length + 1)) pieces) := by
  constructor
  · rintro ⟨count, short, fill⟩
    cases count with
    | zero =>
        rw [List.take_zero, List.flatten_nil, List.length_nil] at fill
        omega
    | succ count =>
        rw [List.take_succ_cons, List.flatten_cons, List.length_append] at fill
        rw [List.length_cons] at short
        exact ⟨by omega, .inr ⟨count, by omega, by omega⟩⟩
  · rintro ⟨long, rfl | ⟨count, short, fill⟩⟩
    · have some := List.length_pos_of_ne_nil more
      exact ⟨1, by rw [List.length_cons]; omega, by simp⟩
    · refine ⟨count + 1, by rw [List.length_cons]; omega, ?_⟩
      rw [List.take_succ_cons, List.flatten_cons, List.length_append]
      omega

/-- A phrase cut short is a phrase, unless the cut falls behind a separator. -/
theorem take_mem_phrase [DecidableEq α] (apart : keep separator = false) {pieces : List (List α)}
    (some : pieces ≠ []) (good : ∀ piece ∈ pieces, piece ∈ run keep) {limit : Nat}
    (positive : 0 < limit) :
    ([separator].intercalate pieces).take limit ∈ phrase (run keep) separator ↔
      ¬ EndsAt limit pieces := by
  induction pieces generalizing limit with
  | nil => exact absurd rfl some
  | cons piece pieces ih =>
      obtain ⟨fair, rest⟩ := List.forall_mem_cons.mp good
      by_cases last : pieces = []
      · subst last
        rw [List.intercalate_singleton]
        refine iff_of_true (run_mem_phrase apart (take_run fair positive)) ?_
        rintro ⟨count, short, fill⟩
        obtain rfl : count = 0 := Nat.lt_one_iff.mp short
        rw [List.take_zero, List.flatten_nil, List.length_nil] at fill
        omega
      · rw [List.intercalate_cons_of_ne_nil last, endsAt_cons positive last, List.append_assoc,
          List.singleton_append]
        by_cases long : piece.length + 1 ≤ limit
        · obtain ⟨left, rfl⟩ := Nat.exists_eq_add_of_le long
          have cut : (piece ++ separator :: [separator].intercalate pieces).take
              (piece.length + 1 + left) =
                piece ++ separator :: ([separator].intercalate pieces).take left := by
            rw [Nat.add_assoc, List.take_length_add_append, Nat.add_comm 1, List.take_succ_cons]
          rw [cut, append_mem_phrase apart fair, and_iff_right long, Nat.add_sub_cancel_left]
          rcases Nat.eq_zero_or_pos left with rfl | beyond
          · rw [List.take_zero]
            exact iff_of_false (nil_not_mem_phrase apart) (not_not_intro (.inl rfl))
          · rw [ih last rest beyond, or_iff_right (by omega)]
        · rw [List.take_append_of_le_length (by omega)]
          exact iff_of_true (run_mem_phrase apart (take_run fair positive)) fun ends => long ends.1

end Words
