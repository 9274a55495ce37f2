import Mathlib.Logic.Relation
import Mathlib.Data.List.Basic
import Mathlib.Order.Basic
import Mathlib.Tactic.Push

set_option autoImplicit false

namespace Rounds

/-- A task of a round, and what it came to once it is done. -/
structure Call (α γ ε : Type) where
  item : α
  result : Option (Except ε (Option γ))
  deriving Repr

/-- Where a loop over rounds stands: at its condition, awaiting the tasks of a round, or over. -/
inductive Stage (α γ ε : Type) where
  | between
  | waiting (calls : List (Call α γ ε))
  | ended (result : Except ε (List γ))
  deriving Repr

structure State (α γ ε : Type) where
  index : Nat
  started : List α
  kept : List γ
  stage : Stage α γ ε
  deriving Repr

section

variable {α γ ε : Type}

def State.initial : State α γ ε := ⟨0, [], [], .between⟩

/-- What the tasks of a round gave, if all of them are done and none has failed. -/
def resolved : List (Call α γ ε) → Option (List (Option γ))
  | [] => some []
  | ⟨_, some (.ok value)⟩ :: rest => (resolved rest).map (value :: ·)
  | ⟨_, some (.error _)⟩ :: _ => none
  | ⟨_, none⟩ :: _ => none

variable (size : Nat) (items : List α) (task : α → Except ε (Option γ))

/-- The items of the round that begins at `index`. -/
def round (index : Nat) : List α := (items.drop index).take size

/-- The tasks of a round start together, in order, and are done in any order. A round all of whose
tasks succeed adds what they give; a task that fails ends the loop. -/
inductive Step : State α γ ε → State α γ ε → Prop where
  | launch {index : Nat} {started : List α} {kept : List γ} (more : index < items.length) :
      Step ⟨index, started, kept, .between⟩
        ⟨index, started ++ round size items index, kept,
          .waiting ((round size items index).map (Call.mk · none))⟩
  | settle {index slot : Nat} {started : List α} {kept : List γ} {calls : List (Call α γ ε)}
      {item : α} (pending : calls[slot]? = some ⟨item, none⟩) :
      Step ⟨index, started, kept, .waiting calls⟩
        ⟨index, started, kept, .waiting (calls.set slot ⟨item, some (task item)⟩)⟩
  | gather {index : Nat} {started : List α} {kept : List γ} {calls : List (Call α γ ε)}
      {values : List (Option γ)} (done : resolved calls = some values) :
      Step ⟨index, started, kept, .waiting calls⟩
        ⟨index + size, started, kept ++ values.filterMap id, .between⟩
  | fail {index : Nat} {started : List α} {kept : List γ} {calls : List (Call α γ ε)} {item : α}
      {failure : ε} (failed : ⟨item, some (.error failure)⟩ ∈ calls) :
      Step ⟨index, started, kept, .waiting calls⟩ ⟨index, started, kept, .ended (.error failure)⟩
  | finish {index : Nat} {started : List α} {kept : List γ} (through : ¬ index < items.length) :
      Step ⟨index, started, kept, .between⟩ ⟨index, started, kept, .ended (.ok kept)⟩

/-- Any number of steps, with the tasks of a round done in any order. -/
def Runs : State α γ ε → State α γ ε → Prop := Relation.ReflTransGen (Step size items task)

end

section

variable {α γ ε : Type} {calls : List (Call α γ ε)}

/-- A round is over when each of its tasks is done: it gives their values, or one has failed. -/
theorem resolved_or_failed (done : ∀ call ∈ calls, call.result ≠ none) :
    (∃ values, resolved calls = some values) ∨
      ∃ item failure, ⟨item, some (.error failure)⟩ ∈ calls := by
  induction calls with
  | nil => exact .inl ⟨[], rfl⟩
  | cons head rest ih =>
      obtain ⟨item, result⟩ := head
      rcases result with _ | failure | value
      · exact absurd rfl (done ⟨item, none⟩ List.mem_cons_self)
      · exact .inr ⟨item, failure, List.mem_cons_self⟩
      · rcases ih fun call member => done call (List.mem_cons_of_mem _ member) with
          ⟨values, given⟩ | ⟨other, failure, failed⟩
        · exact .inl ⟨value :: values, by rw [resolved, given, Option.map_some]⟩
        · exact .inr ⟨other, failure, List.mem_cons_of_mem _ failed⟩

/-- The values are those of the items, in their order, whatever order the tasks were done in. -/
theorem resolved_values {outcome : α → Option γ} {values : List (Option γ)}
    (agrees : ∀ call ∈ calls, ∀ result ∈ call.result, result = .ok (outcome call.item))
    (done : resolved calls = some values) :
    values = (calls.map Call.item).map outcome := by
  induction calls generalizing values with
  | nil =>
      cases done
      rfl
  | cons head rest ih =>
      obtain ⟨item, result⟩ := head
      rcases result with _ | failure | value
      · cases done
      · cases done
      · obtain ⟨others, given, rfl⟩ := Option.map_eq_some_iff.mp done
        have same : value = outcome item :=
          Except.ok.inj (agrees ⟨item, some (.ok value)⟩ List.mem_cons_self _ rfl)
        rw [ih (fun call member => agrees call (List.mem_cons_of_mem _ member)) given, same]
        rfl

end

section

variable {α γ ε : Type} {size : Nat} {items : List α} {task : α → Except ε (Option γ)}
  {outcome : α → Option γ} {state next : State α γ ε}

theorem take_add_round (index : Nat) :
    items.take index ++ round size items index = items.take (index + size) :=
  List.take_add.symm

/-- The tasks begun are those of the rounds so far, and what is kept is what they gave. -/
def State.Sound (size : Nat) (items : List α) (outcome : α → Option γ) (state : State α γ ε) :
    Prop :=
  match state.stage with
  | .between =>
      state.started = items.take state.index ∧
        state.kept = (items.take state.index).filterMap outcome
  | .waiting calls =>
      state.started = items.take (state.index + size) ∧
        state.kept = (items.take state.index).filterMap outcome ∧
        calls.map Call.item = round size items state.index ∧
        ∀ call ∈ calls, ∀ result ∈ call.result, result = .ok (outcome call.item)
  | .ended result => state.started = items ∧ result = .ok (items.filterMap outcome)

section

variable {index : Nat} {started : List α} {kept : List γ}

theorem sound_between :
    State.Sound size items outcome (⟨index, started, kept, .between⟩ : State α γ ε) ↔
      started = items.take index ∧ kept = (items.take index).filterMap outcome := Iff.rfl

theorem sound_waiting {calls : List (Call α γ ε)} :
    State.Sound size items outcome ⟨index, started, kept, .waiting calls⟩ ↔
      started = items.take (index + size) ∧ kept = (items.take index).filterMap outcome ∧
        calls.map Call.item = round size items index ∧
        ∀ call ∈ calls, ∀ result ∈ call.result, result = .ok (outcome call.item) := Iff.rfl

theorem sound_ended {result : Except ε (List γ)} :
    State.Sound size items outcome ⟨index, started, kept, .ended result⟩ ↔
      started = items ∧ result = .ok (items.filterMap outcome) := Iff.rfl

end

theorem initial_sound : (State.initial : State α γ ε).Sound size items outcome :=
  sound_between.mpr ⟨List.take_zero.symm, by rw [List.take_zero, List.filterMap_nil]⟩

theorem step_sound (succeeds : ∀ item, task item = .ok (outcome item))
    (sound : state.Sound size items outcome) (step : Step size items task state next) :
    next.Sound size items outcome := by
  cases step with
  | @launch index started kept more =>
      obtain ⟨begun, gathered⟩ := sound_between.mp sound
      refine sound_waiting.mpr ⟨?_, gathered, ?_, ?_⟩
      · rw [begun, take_add_round]
      · rw [List.map_map]
        exact List.map_id _
      · intro call member result given
        obtain ⟨item, -, rfl⟩ := List.mem_map.mp member
        cases given
  | @settle index slot started kept calls item pending =>
      obtain ⟨begun, gathered, listed, agrees⟩ := sound_waiting.mp sound
      refine sound_waiting.mpr ⟨begun, gathered, ?_, ?_⟩
      · -- the call keeps its item
        have same : (calls.map Call.item)[slot]? = some item := by
          rw [List.getElem?_map, pending, Option.map_some]
        obtain ⟨inside, held⟩ := List.getElem?_eq_some_iff.mp same
        rw [List.map_set, ← held, List.set_getElem_self, listed]
      · intro call member result given
        rcases List.mem_or_eq_of_mem_set member with old | rfl
        · exact agrees call old result given
        · obtain rfl := Option.some.inj given
          exact succeeds item
  | @gather index started kept calls values done =>
      obtain ⟨begun, gathered, listed, agrees⟩ := sound_waiting.mp sound
      have given := resolved_values agrees done
      refine sound_between.mpr ⟨begun, ?_⟩
      rw [gathered, given, listed, List.filterMap_map, Function.id_comp, ← List.filterMap_append,
        take_add_round]
  | @fail index started kept calls item failure failed =>
      obtain ⟨-, -, -, agrees⟩ := sound_waiting.mp sound
      cases agrees _ failed _ rfl
  | @finish index started kept through =>
      obtain ⟨begun, gathered⟩ := sound_between.mp sound
      rw [List.take_of_length_le (Nat.not_lt.mp through)] at begun gathered
      exact sound_ended.mpr ⟨begun, by rw [gathered]⟩

theorem runs_sound (succeeds : ∀ item, task item = .ok (outcome item))
    (sound : state.Sound size items outcome) (runs : Runs size items task state next) :
    next.Sound size items outcome := by
  induction runs with
  | refl => exact sound
  | tail _ step ih => exact step_sound succeeds ih step

/-- No item is begun twice, and none out of order. -/
theorem State.Sound.started_in_order (sound : state.Sound size items outcome) : state.started <+: items := by
  obtain ⟨index, started, kept, stage⟩ := state
  cases stage with
  | between =>
      obtain ⟨rfl, -⟩ := sound_between.mp sound
      exact List.take_prefix _ _
  | waiting calls =>
      obtain ⟨rfl, -⟩ := sound_waiting.mp sound
      exact List.take_prefix _ _
  | ended result =>
      obtain ⟨rfl, -⟩ := sound_ended.mp sound
      exact List.prefix_refl _

end

section

variable {α γ ε : Type} {size : Nat} {items : List α} {task : α → Except ε (Option γ)}
  {state next : State α γ ε}

/-- How many steps are left at most. -/
def State.rank (size : Nat) (items : List α) (state : State α γ ε) : Nat :=
  match state.stage with
  | .between => 3 * (items.length - state.index) + 1
  | .waiting calls =>
      calls.countP (fun call => call.result.isNone) +
        3 * (items.length - (state.index + size)) + 2
  | .ended _ => 0

/-- A task that is done is not pending any more. -/
theorem countP_set_done {calls : List (Call α γ ε)} {slot : Nat} {item : α}
    (result : Except ε (Option γ)) (pending : calls[slot]? = some ⟨item, none⟩) :
    (calls.set slot ⟨item, some result⟩).countP (fun call => call.result.isNone) <
      calls.countP (fun call => call.result.isNone) := by
  obtain ⟨inside, held⟩ := List.getElem?_eq_some_iff.mp pending
  have some_pending : 0 < calls.countP (fun call => call.result.isNone) :=
    List.countP_pos_iff.mpr ⟨_, List.getElem_mem inside, by rw [held]; rfl⟩
  rw [List.countP_set inside, held]
  simp only [Option.isNone_none, if_true, Option.isNone_some, Bool.false_eq_true, if_false]
  omega

theorem rank_step (positive : 0 < size) (step : Step size items task state next) :
    next.rank size items < state.rank size items := by
  cases step with
  | @launch index started kept more =>
      have counted : ((round size items index).map (Call.mk · none : α → Call α γ ε)).countP
          (fun call => call.result.isNone) ≤ min size (items.length - index) := by
        refine Nat.le_trans List.countP_le_length ?_
        simp only [round, List.length_map, List.length_take, List.length_drop]
        omega
      simp only [State.rank]
      omega
  | @settle index slot started kept calls item pending =>
      have fewer := countP_set_done (task item) pending
      simp only [State.rank]
      omega
  | gather done =>
      simp only [State.rank]
      omega
  | fail failed =>
      simp only [State.rank]
      omega
  | finish through =>
      simp only [State.rank]
      omega

theorem exists_step (ending : ∀ result, state.stage ≠ .ended result) :
    ∃ next, Step size items task state next := by
  obtain ⟨index, started, kept, stage⟩ := state
  cases stage with
  | between =>
      by_cases more : index < items.length
      · exact ⟨_, .launch more⟩
      · exact ⟨_, .finish more⟩
  | waiting calls =>
      by_cases done : ∀ call ∈ calls, call.result ≠ none
      · rcases resolved_or_failed done with ⟨values, given⟩ | ⟨item, failure, failed⟩
        · exact ⟨_, .gather given⟩
        · exact ⟨_, .fail failed⟩
      · push Not at done
        obtain ⟨⟨item, result⟩, member, pending⟩ := done
        obtain rfl : result = none := pending
        obtain ⟨slot, held⟩ := List.getElem?_of_mem member
        exact ⟨_, .settle held⟩
  | ended result => exact absurd rfl (ending result)

/-- There is no run without an end. -/
theorem no_endless_run (positive : 0 < size) (states : Nat → State α γ ε) :
    ¬ ∀ n, Step size items task (states n) (states (n + 1)) := by
  intro endless
  have descends (n : Nat) : (states n).rank size items + n ≤ (states 0).rank size items := by
    induction n with
    | zero => exact Nat.le_refl _
    | succ n ih =>
        have fewer := rank_step positive (endless n)
        omega
  have below := descends ((states 0).rank size items + 1)
  omega

end

section

variable {α γ ε : Type} {size : Nat} {items : List α} {task : α → Except ε (Option γ)}
  {outcome : α → Option γ} {start state : State α γ ε}

/-- A run that is over has begun every task, and gives what the plain loop over the items gives. -/
theorem ended_eq_loop {result : Except ε (List γ)}
    (succeeds : ∀ item, task item = .ok (outcome item))
    (sound : start.Sound size items outcome) (runs : Runs size items task start state)
    (ended : state.stage = .ended result) :
    state.started = items ∧ result = .ok (items.filterMap outcome) := by
  obtain ⟨index, started, kept, stage⟩ := state
  obtain rfl : stage = .ended result := ended
  exact sound_ended.mp (runs_sound succeeds sound runs)

/-- From every state there is a run to an end. -/
theorem exists_ended (positive : 0 < size) (state : State α γ ε) :
    ∃ last result, Runs size items task state last ∧ last.stage = .ended result := by
  induction left : state.rank size items using Nat.strongRecOn generalizing state with
  | ind left' ih =>
      by_cases finished : ∃ result, state.stage = .ended result
      · obtain ⟨result, ended⟩ := finished
        exact ⟨state, result, .refl, ended⟩
      · push Not at finished
        obtain ⟨next, step⟩ : ∃ next, Step size items task state next := exists_step finished
        obtain ⟨last, result, runs, ended⟩ := ih _ (left ▸ rank_step positive step) next rfl
        exact ⟨last, result, .head step runs, ended⟩

/-- Nothing happens once a run is over. -/
theorem runs_ended {result : Except ε (List γ)} (ended : start.stage = .ended result)
    (runs : Runs size items task start state) : state = start := by
  cases Relation.ReflTransGen.cases_head runs with
  | inl same => exact same.symm
  | inr stepped =>
      obtain ⟨next, step, -⟩ := stepped
      cases step <;> cases ended

/-- A run that can go no further is over. -/
theorem stuck_ended (stuck : ∀ next, ¬ Step size items task state next) :
    ∃ result, state.stage = .ended result := by
  by_contra going
  push Not at going
  obtain ⟨next, step⟩ : ∃ next, Step size items task state next := exists_step going
  exact stuck next step

end

end Rounds
