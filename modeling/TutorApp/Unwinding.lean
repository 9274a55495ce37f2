import Mathlib.Data.List.Basic

set_option autoImplicit false

namespace Unwinding

/-- A computation on a part ends as the one on the whole does, in the part of what that ends in. -/
def Follows {ε α β : Type} (part : α → β) (onPart : Except ε β) (onWhole : Except ε α) : Prop :=
  onPart = onWhole.map part

section

variable {ε α β γ δ : Type} {part : α → β} {later : γ → δ}

theorem Follows.ok (value : α) :
    Follows part (.ok (part value) : Except ε β) (.ok value) := rfl

theorem Follows.error (reason : ε) : Follows part (.error reason) (.error reason) := rfl

/-- What only reads the part reads the same on the whole. -/
theorem Follows.of_eq {onPart onWhole : Except ε α} (same : onPart = onWhole) :
    Follows id onPart onWhole := by
  subst same
  cases onPart <;> rfl

theorem Follows.eq {onPart onWhole : Except ε α} (follows : Follows id onPart onWhole) :
    onPart = onWhole := by
  rw [follows]
  cases onWhole <;> rfl

theorem Follows.bind {onPart : Except ε β} {onWhole : Except ε α} {nextPart : β → Except ε δ}
    {nextWhole : α → Except ε γ} (first : Follows part onPart onWhole)
    (rest : ∀ value, onWhole = .ok value →
      Follows later (nextPart (part value)) (nextWhole value)) :
    Follows later (onPart >>= nextPart) (onWhole >>= nextWhole) := by
  rw [first]
  cases onWhole with
  | error reason => rfl
  | ok value => exact rest value rfl

/-- A step that reads the same on the part. -/
theorem Follows.read {onPart onWhole : Except ε α} {nextPart : α → Except ε δ}
    {nextWhole : α → Except ε γ} (same : onPart = onWhole)
    (rest : ∀ value, onWhole = .ok value → Follows later (nextPart value) (nextWhole value)) :
    Follows later (onPart >>= nextPart) (onWhole >>= nextWhole) :=
  (Follows.of_eq same).bind rest

end

/-- A machine that answers requests one at a time. -/
structure Machine (State Request Answer : Type) where
  answer : State → Request → Answer
  next : State → Request → State

namespace Machine

variable {State Request Answer Seen : Type} (machine : Machine State Request Answer)

def run : List Request → State → State
  | [], state => state
  | request :: rest, state => run rest (machine.next state request)

/-- The observer's own requests of a run, each with its answer. -/
def heard (own : State → Request → Prop) [∀ state request, Decidable (own state request)] :
    List Request → State → List (Request × Answer)
  | [], _ => []
  | request :: rest, state =>
      if own state request then
        (request, machine.answer state request) :: heard own rest (machine.next state request)
      else heard own rest (machine.next state request)

/-- Every step of a run is one of those considered. -/
def Within (considered : State → Request → Prop) : List Request → State → Prop
  | [], _ => True
  | request :: rest, state =>
      considered state request ∧ Within considered rest (machine.next state request)

instance decidableWithin (considered : State → Request → Prop)
    [∀ state request, Decidable (considered state request)] :
    (requests : List Request) → (state : State) →
      Decidable (machine.Within considered requests state)
  | [], _ => isTrue trivial
  | request :: rest, state =>
      have := decidableWithin considered rest (machine.next state request)
      inferInstanceAs (Decidable (_ ∧ _))

/-- The unwinding conditions: the others' steps leave what the observer sees, and the observer's
own depend on nothing else. -/
structure Unwinds (own considered : State → Request → Prop) (safe : State → Prop)
    (seen : State → Seen) : Prop where
  kept : ∀ state request, safe state → safe (machine.next state request)
  apart : ∀ state request, safe state → considered state request → ¬own state request →
    seen (machine.next state request) = seen state
  consistent : ∀ state other request, safe state → safe other → seen state = seen other →
    own state request → own other request → considered state request → considered other request →
      machine.answer state request = machine.answer other request ∧
        seen (machine.next state request) = seen (machine.next other request)

variable {machine} {own considered : State → Request → Prop} {safe : State → Prop}
  {seen : State → Seen} [∀ state request, Decidable (own state request)]

/-- A run without requests of the observer's leaves what the observer sees. -/
theorem Unwinds.unseen (unwinds : machine.Unwinds own considered safe seen)
    {requests : List Request} {state : State} (sound : safe state)
    (within : machine.Within considered requests state)
    (none : machine.heard own requests state = []) :
    seen (machine.run requests state) = seen state := by
  induction requests generalizing state with
  | nil => rfl
  | cons request rest ih =>
      by_cases mine : own state request
      · rw [heard, if_pos mine] at none
        cases none
      · rw [heard, if_neg mine] at none
        rw [run, ih (unwinds.kept state request sound) within.2 none,
          unwinds.apart state request sound within.1 mine]

/-- The requests of the others before the observer's next one. -/
theorem Unwinds.next_own (unwinds : machine.Unwinds own considered safe seen)
    {requests : List Request} {state : State} {request : Request} {answer : Answer}
    {rest : List (Request × Answer)} (sound : safe state)
    (within : machine.Within considered requests state)
    (first : machine.heard own requests state = (request, answer) :: rest) :
    ∃ reached remaining, safe reached ∧ seen reached = seen state ∧ own reached request ∧
      considered reached request ∧ machine.answer reached request = answer ∧
        machine.Within considered remaining (machine.next reached request) ∧
          machine.heard own remaining (machine.next reached request) = rest ∧
            machine.run requests state = machine.run remaining (machine.next reached request) := by
  induction requests generalizing state with
  | nil => cases first
  | cons asked others ih =>
      by_cases mine : own state asked
      · rw [heard, if_pos mine] at first
        obtain ⟨⟨rfl, rfl⟩, rfl⟩ := (List.cons.injEq ..).mp first |>.imp_left Prod.mk.inj
        exact ⟨state, others, sound, rfl, mine, within.1, rfl, within.2, rfl, rfl⟩
      · rw [heard, if_neg mine] at first
        obtain ⟨reached, remaining, safe, same, rest⟩ :=
          ih (unwinds.kept state asked sound) within.2 first
        exact ⟨reached, remaining, safe,
          same.trans (unwinds.apart state asked sound within.1 mine), rest⟩

/-- Two runs in which the observer asks the same, from states that look the same to the observer,
answer the same and end in states that look the same. -/
theorem Unwinds.noninterference (unwinds : machine.Unwinds own considered safe seen)
    {left right : List Request} {state other : State} (sound : safe state) (valid : safe other)
    (alike : seen state = seen other) (within : machine.Within considered left state)
    (inside : machine.Within considered right other)
    (same : (machine.heard own left state).map Prod.fst =
      (machine.heard own right other).map Prod.fst) :
    machine.heard own left state = machine.heard own right other ∧
      seen (machine.run left state) = seen (machine.run right other) := by
  generalize trace : machine.heard own left state = asked
  induction asked generalizing left right state other with
  | nil =>
      rw [trace, List.map_nil, eq_comm, List.map_eq_nil_iff] at same
      rw [same, unwinds.unseen sound within trace, unwinds.unseen valid inside same]
      exact ⟨rfl, alike⟩
  | cons head rest ih =>
      obtain ⟨request, answer⟩ := head
      obtain ⟨reached, remaining, soundly, looks, mine, fine, answers, onward, tail, ends⟩ :=
        unwinds.next_own sound within trace
      rw [trace, List.map_cons] at same
      cases second : machine.heard own right other with
      | nil =>
          rw [second] at same
          cases same
      | cons head others =>
          obtain ⟨asked, reply⟩ := head
          rw [second, List.map_cons, List.cons.injEq] at same
          obtain ⟨rfl, same⟩ := same
          obtain ⟨arrived, left, validly, appears, yours, good, replies, ahead, last, closes⟩ :=
            unwinds.next_own valid inside second
          obtain ⟨equal, after⟩ := unwinds.consistent reached arrived request soundly validly
            (looks.trans (alike.trans appears.symm)) mine yours fine good
          obtain ⟨agree, finally_⟩ := ih (unwinds.kept reached request soundly)
            (unwinds.kept arrived request validly) after onward ahead
            (by rw [tail, last]; exact same) tail
          refine ⟨?_, by rw [ends, closes]; exact finally_⟩
          rw [← answers, ← replies, equal, agree, last]

end Machine

end Unwinding
