import Mathlib.Data.List.Induction

set_option autoImplicit false

namespace Possession

variable {ε κ ω : Type}

/-- What the events of a history do to a thing with at most one holder: some give it to a holder,
some take it away from one. -/
structure Rules (ε κ ω : Type) where
  gives : ε → κ → Option ω
  takes : ε → κ → ω → Prop

/-- The last time the thing was given away it went to the holder, and these events came after. -/
def Rules.GivenLast (rules : Rules ε κ ω) (history : List ε) (k : κ) (holder : ω) (later : List ε) :
    Prop :=
  ∃ earlier event, history = earlier ++ event :: later ∧ rules.gives event k = some holder ∧
    ∀ other ∈ later, rules.gives other k = none

/-- The thing was last given to the holder, and not taken away since. -/
def Rules.Held (rules : Rules ε κ ω) (history : List ε) (k : κ) (holder : ω) : Prop :=
  ∃ later, rules.GivenLast history k holder later ∧ ∀ event ∈ later, ¬ rules.takes event k holder

/-- One event moves a register of holders as the rules say. -/
def Rules.Moves (rules : Rules ε κ ω) (event : ε) (before after : κ → Option ω) : Prop :=
  ∀ k holder, after k = some holder ↔ rules.gives event k = some holder ∨
    rules.gives event k = none ∧ before k = some holder ∧ ¬ rules.takes event k holder

namespace Rules

variable {rules : Rules ε κ ω} {history later : List ε} {event : ε} {k : κ} {holder other : ω}

theorem givenLast_of_gives (given : rules.gives event k = some holder) :
    rules.GivenLast (history ++ [event]) k holder [] :=
  ⟨history, event, rfl, given, fun _ member => absurd member List.not_mem_nil⟩

theorem GivenLast.snoc (last : rules.GivenLast history k holder later)
    (silent : rules.gives event k = none) :
    rules.GivenLast (history ++ [event]) k holder (later ++ [event]) := by
  obtain ⟨earlier, first, rfl, given, none⟩ := last
  refine ⟨earlier, first, by rw [List.append_assoc, List.cons_append], given, fun next member => ?_⟩
  rw [List.mem_append, List.mem_singleton] at member
  rcases member with old | rfl
  · exact none next old
  · exact silent

/-- The last of the events either gave the thing away itself or came after what did. -/
theorem givenLast_snoc (last : rules.GivenLast (history ++ [event]) k holder later) :
    rules.gives event k = some holder ∧ later = [] ∨
      rules.gives event k = none ∧
        ∃ before, later = before ++ [event] ∧ rules.GivenLast history k holder before := by
  obtain ⟨earlier, first, shape, given, none⟩ := last
  rcases List.eq_nil_or_concat later with rfl | ⟨before, ending, rfl⟩
  · obtain ⟨-, same⟩ := List.append_inj' shape rfl
    obtain rfl := List.singleton_inj.mp same
    exact .inl ⟨given, rfl⟩
  · rw [List.concat_eq_append] at shape none ⊢
    rw [← List.cons_append, ← List.append_assoc] at shape
    obtain ⟨split, same⟩ := List.append_inj' shape rfl
    obtain rfl := List.singleton_inj.mp same
    refine .inr ⟨none event (List.mem_append_right before List.mem_cons_self), before, rfl, ?_⟩
    exact ⟨earlier, first, split, given, fun next member => none next (List.mem_append_left _ member)⟩

theorem not_held_nil : ¬ rules.Held [] k holder := by
  rintro ⟨later, ⟨earlier, first, shape, -⟩, -⟩
  exact List.append_ne_nil_of_right_ne_nil earlier (List.cons_ne_nil first later) shape.symm

/-- Who holds the thing after one more event. -/
theorem held_snoc : rules.Held (history ++ [event]) k holder ↔ rules.gives event k = some holder ∨
    rules.gives event k = none ∧ rules.Held history k holder ∧ ¬ rules.takes event k holder := by
  constructor
  · rintro ⟨later, last, kept⟩
    rcases givenLast_snoc last with ⟨given, -⟩ | ⟨silent, before, rfl, earlier⟩
    · exact .inl given
    · refine .inr ⟨silent, ⟨before, earlier, fun next member => ?_⟩, ?_⟩
      · exact kept next (List.mem_append_left _ member)
      · exact kept event (List.mem_append_right before List.mem_cons_self)
  · rintro (given | ⟨silent, ⟨later, last, kept⟩, kept'⟩)
    · exact ⟨[], givenLast_of_gives given, fun _ member => absurd member List.not_mem_nil⟩
    · refine ⟨later ++ [event], last.snoc silent, fun next member => ?_⟩
      rw [List.mem_append, List.mem_singleton] at member
      rcases member with old | rfl
      · exact kept next old
      · exact kept'

/-- A thing is given last to one holder only. -/
theorem GivenLast.unique {others : List ε} (last : rules.GivenLast history k holder later)
    (last' : rules.GivenLast history k other others) : holder = other := by
  induction history using List.reverseRecOn generalizing later others with
  | nil =>
      obtain ⟨earlier, first, shape, -⟩ := last
      exact absurd shape.symm
        (List.append_ne_nil_of_right_ne_nil earlier (List.cons_ne_nil first later))
  | append_singleton history event ih =>
      rcases givenLast_snoc last with ⟨given, -⟩ | ⟨silent, before, -, last⟩
      · rcases givenLast_snoc last' with ⟨given', -⟩ | ⟨silent, -⟩
        · rw [given] at given'
          exact Option.some.inj given'
        · rw [given] at silent
          cases silent
      · rcases givenLast_snoc last' with ⟨given, -⟩ | ⟨-, before', -, last'⟩
        · rw [silent] at given
          cases given
        · exact ih last last'

/-- A register the events move by the rules holds what the history says. -/
theorem Moves.held {before after : κ → Option ω} (moves : rules.Moves event before after)
    (register : ∀ k holder, before k = some holder ↔ rules.Held history k holder) (k : κ)
    (holder : ω) : after k = some holder ↔ rules.Held (history ++ [event]) k holder := by
  rw [moves k holder, held_snoc, register]

end Rules

end Possession
