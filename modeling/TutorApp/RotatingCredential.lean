import Mathlib.Logic.Function.Basic
import Mathlib.Logic.Relation
import Mathlib.Data.Option.Basic

set_option autoImplicit false

namespace RotatingCredential

/-- A stored credential under the id of its row; an unreadable one is `none`. -/
structure Stored (ι α : Type) where
  id : ι
  token : Option α
  deriving Repr, DecidableEq

/-- Where a party that uses or renews the credential stands. -/
inductive Phase (ι α : Type) where
  | reading
  | spending (id : ι) (token : α)
  | replacing (id : ι) (token : α)
  | deleting (id : ι)
  | authorising
  | installing (token : α)
  | finished
  deriving Repr, DecidableEq

/-- The store, the issuer, which accepts the token it issued last, and the parties. -/
structure State (ι α τ : Type) where
  stored : Option (Stored ι α)
  accepted : α
  issued : List α
  parties : τ → Phase ι α

section

variable {ι α τ : Type}

/-- The issuer answers with a token it has not issued before. -/
def State.rotate (state : State ι α τ) (fresh : α) : State ι α τ :=
  { state with accepted := fresh, issued := fresh :: state.issued }

def State.store (state : State ι α τ) (stored : Option (Stored ι α)) : State ι α τ :=
  { state with stored }

/-- Nothing overwrites or deletes the accepted token, nor deletes the row it is on its way to. -/
def State.Harmless (state : State ι α τ) : Phase ι α → Prop
  | .replacing id _ => ∀ row ∈ state.stored, row.id = id → row.token ≠ some state.accepted
  | .installing _ => ∀ row ∈ state.stored, row.token ≠ some state.accepted
  | .deleting id => ∀ row ∈ state.stored, row.id = id → row.token ≠ some state.accepted ∧
      ∀ other, state.parties other ≠ .replacing id state.accepted
  | _ => True

/-- The token a party was issued and has not stored yet. -/
def Phase.carried : Phase ι α → Option α
  | .replacing _ token | .installing token => some token
  | _ => none

/-- The accepted token is in the store, or carried by a party that can still store it. -/
inductive State.Covered (state : State ι α τ) : Prop where
  | stored {id : ι} (row : state.stored = some ⟨id, some state.accepted⟩)
  | replacing {t : τ} {id : ι} (party : state.parties t = .replacing id state.accepted)
      (row : state.stored.map Stored.id = some id)
  | installing {t : τ} (party : state.parties t = .installing state.accepted)

/-- Carried tokens are nowhere else, and a token that was read is found under the id it was
read from, if at all. -/
structure State.Invariant (state : State ι α τ) : Prop where
  covered : state.Covered
  accepted : state.accepted ∈ state.issued
  carriedIssued : ∀ t token, (state.parties t).carried = some token → token ∈ state.issued
  spentIssued : ∀ t id token, state.parties t = .spending id token → token ∈ state.issued
  storedIssued : ∀ row ∈ state.stored, ∀ token ∈ row.token, token ∈ state.issued
  carriedOnce : ∀ t other token, (state.parties t).carried = some token →
    (state.parties other).carried = some token → t = other
  carriedUnspent : ∀ t other token id, (state.parties t).carried = some token →
    state.parties other ≠ .spending id token
  carriedUnstored : ∀ t token, (state.parties t).carried = some token →
    ∀ row ∈ state.stored, row.token ≠ some token
  spentStored : ∀ t id token, state.parties t = .spending id token →
    ∀ row ∈ state.stored, row.token = some token → row.id = id

variable {state : State ι α τ} {t : τ}

/-- A token that is accepted when it is spent is the one in the store. -/
theorem State.Invariant.spent_stored (invariant : state.Invariant) {id : ι}
    (spending : state.parties t = .spending id state.accepted) :
    state.stored.map Stored.id = some id := by
  cases invariant.covered with
  | stored row =>
      rw [row, Option.map_some]
      exact congrArg some (invariant.spentStored t id _ spending _ row rfl)
  | replacing party row =>
      exact absurd spending (invariant.carriedUnspent _ t _ id (by rw [party]; rfl))
  | installing party =>
      exact absurd spending (invariant.carriedUnspent _ t _ id (by rw [party]; rfl))

/-- Once every party has finished, the accepted token is in the store. -/
theorem State.Invariant.finished (invariant : state.Invariant)
    (finished : ∀ t, state.parties t = .finished) :
    ∃ id, state.stored = some ⟨id, some state.accepted⟩ := by
  cases invariant.covered with
  | stored row => exact ⟨_, row⟩
  | @replacing t _ party row =>
      rw [finished t] at party
      cases party
  | @installing t party =>
      rw [finished t] at party
      cases party

/-- Parties that have not begun, over a store that holds the accepted token. -/
theorem State.Invariant.start (parties : τ → Phase ι α)
    (unbegun : ∀ t, parties t = .reading ∨ parties t = .authorising) (id : ι) {accepted : α}
    {issued : List α} (known : accepted ∈ issued) :
    (⟨some ⟨id, some accepted⟩, accepted, issued, parties⟩ : State ι α τ).Invariant := by
  have quiet : ∀ t, (parties t).carried = none := by
    intro t
    rcases unbegun t with begun | begun <;> rw [begun] <;> rfl
  have idle : ∀ t id token, parties t ≠ .spending id token := by
    intro t id token
    rcases unbegun t with begun | begun <;> rw [begun] <;> intro same <;> cases same
  constructor
  case covered => exact .stored rfl
  case accepted => exact known
  case carriedIssued =>
    intro t token carries
    rw [quiet t] at carries
    cases carries
  case spentIssued => exact fun t id token spends => absurd spends (idle t id token)
  case storedIssued =>
    intro row member token holds
    obtain rfl := Option.mem_some_iff.mp member
    obtain rfl := Option.mem_some_iff.mp holds
    exact known
  case carriedOnce =>
    intro t other token carries
    rw [quiet t] at carries
    cases carries
  case carriedUnspent => exact fun t other token id _ => idle other id token
  case carriedUnstored =>
    intro t token carries
    rw [quiet t] at carries
    cases carries
  case spentStored => exact fun t id token spends => absurd spends (idle t id token)

variable [DecidableEq τ]

def State.put (state : State ι α τ) (t : τ) (phase : Phase ι α) : State ι α τ :=
  { state with parties := Function.update state.parties t phase }

variable {before after : State ι α τ} {phase : Phase ι α}

@[simp] theorem State.put_stored : (state.put t phase).stored = state.stored := rfl

@[simp] theorem State.put_accepted : (state.put t phase).accepted = state.accepted := rfl

@[simp] theorem State.put_issued : (state.put t phase).issued = state.issued := rfl

@[simp] theorem State.put_self : (state.put t phase).parties t = phase := Function.update_self ..

theorem State.put_other {other : τ} (different : other ≠ t) :
    (state.put t phase).parties other = state.parties other := Function.update_of_ne different ..

/-- A phase another party is in after a move was its phase before. -/
theorem State.put_carried {other : τ} {token : α} (quiet : phase.carried = none)
    (carries : ((state.put t phase).parties other).carried = some token) :
    other ≠ t ∧ (state.parties other).carried = some token := by
  by_cases same : other = t
  · subst same
    rw [put_self, quiet] at carries
    cases carries
  · rw [put_other same] at carries
    exact ⟨same, carries⟩

theorem State.put_spending {other : τ} {id : ι} {token : α}
    (idle : ∀ id token, phase ≠ .spending id token)
    (spends : (state.put t phase).parties other = .spending id token) :
    other ≠ t ∧ state.parties other = .spending id token := by
  by_cases same : other = t
  · subst same
    rw [put_self] at spends
    exact absurd spends (idle id token)
  · rw [put_other same] at spends
    exact ⟨same, spends⟩

/-- A party that carries nothing can move without uncovering the accepted token. -/
theorem State.Covered.put (covered : state.Covered) (quiet : (state.parties t).carried = none) :
    (state.put t phase).Covered := by
  cases covered with
  | stored row => exact .stored row
  | @replacing other id party row =>
      have different : other ≠ t := by
        rintro rfl
        rw [party] at quiet
        cases quiet
      exact .replacing ((put_other different).trans party) row
  | @installing other party =>
      have different : other ≠ t := by
        rintro rfl
        rw [party] at quiet
        cases quiet
      exact .installing ((put_other different).trans party)

/-- A party moves to where it neither spends nor carries, and may have changed the store. -/
theorem State.Invariant.settle (invariant : state.Invariant) {stored : Option (Stored ι α)}
    (quiet : phase.carried = none) (idle : ∀ id token, phase ≠ .spending id token)
    (covered : ((state.store stored).put t phase).Covered)
    (storedIssued : ∀ row ∈ stored, ∀ token ∈ row.token, token ∈ state.issued)
    (carriedUnstored : ∀ other token, other ≠ t → (state.parties other).carried = some token →
      ∀ row ∈ stored, row.token ≠ some token)
    (spentStored : ∀ other id token, other ≠ t → state.parties other = .spending id token →
      ∀ row ∈ stored, row.token = some token → row.id = id) :
    ((state.store stored).put t phase).Invariant where
  covered := covered
  accepted := invariant.accepted
  carriedIssued other token carries :=
    invariant.carriedIssued other token (put_carried quiet carries).2
  spentIssued other id token spends :=
    invariant.spentIssued other id token (put_spending idle spends).2
  storedIssued := storedIssued
  carriedOnce other third token first second :=
    invariant.carriedOnce other third token (put_carried quiet first).2 (put_carried quiet second).2
  carriedUnspent other third token id carries spends :=
    invariant.carriedUnspent other third token id (put_carried quiet carries).2
      (put_spending idle spends).2
  carriedUnstored other token carries :=
    carriedUnstored other token (put_carried quiet carries).1 (put_carried quiet carries).2
  spentStored other id token spends :=
    spentStored other id token (put_spending idle spends).1 (put_spending idle spends).2

/-- A party moves on without touching the store. -/
theorem State.Invariant.move (invariant : state.Invariant) (was : (state.parties t).carried = none)
    (quiet : phase.carried = none) (idle : ∀ id token, phase ≠ .spending id token) :
    (state.put t phase).Invariant :=
  invariant.settle quiet idle (invariant.covered.put was) invariant.storedIssued
    (fun other token _ => invariant.carriedUnstored other token)
    (fun other id token _ => invariant.spentStored other id token)

/-- A new token is carried by the party it was issued to and known to nobody else. -/
theorem State.Invariant.renew (invariant : state.Invariant) {fresh : α} (new : fresh ∉ state.issued)
    (carries : phase.carried = some fresh)
    (covered : ((state.rotate fresh).put t phase).Covered) :
    ((state.rotate fresh).put t phase).Invariant := by
  have idle : ∀ id token, phase ≠ .spending id token := by
    rintro id token rfl
    cases carries
  have known : ∀ other token, (((state.rotate fresh).put t phase).parties other).carried =
      some token → (other = t ∧ token = fresh) ∨
        (other ≠ t ∧ (state.parties other).carried = some token) := by
    intro other token carried
    by_cases same : other = t
    · subst same
      rw [put_self, carries, Option.some.injEq] at carried
      exact .inl ⟨rfl, carried.symm⟩
    · rw [put_other same] at carried
      exact .inr ⟨same, carried⟩
  constructor
  case covered => exact covered
  case accepted => exact List.mem_cons_self
  case carriedIssued =>
    intro other token carried
    rcases known other token carried with ⟨-, rfl⟩ | ⟨-, before⟩
    · exact List.mem_cons_self
    · exact List.mem_cons_of_mem _ (invariant.carriedIssued other token before)
  case spentIssued =>
    intro other id token spends
    exact List.mem_cons_of_mem _ (invariant.spentIssued other id token (put_spending idle spends).2)
  case storedIssued =>
    intro row stored token held
    exact List.mem_cons_of_mem _ (invariant.storedIssued row stored token held)
  case carriedOnce =>
    intro other third token first second
    rcases known other token first with ⟨rfl, rfl⟩ | ⟨-, before⟩
    · rcases known third token second with ⟨rfl, -⟩ | ⟨-, before⟩
      · rfl
      · exact absurd (invariant.carriedIssued third token before) new
    · rcases known third token second with ⟨-, rfl⟩ | ⟨-, before'⟩
      · exact absurd (invariant.carriedIssued other token before) new
      · exact invariant.carriedOnce other third token before before'
  case carriedUnspent =>
    intro other third token id carried spends
    have spent := (put_spending idle spends).2
    rcases known other token carried with ⟨-, rfl⟩ | ⟨-, before⟩
    · exact new (invariant.spentIssued third id token spent)
    · exact invariant.carriedUnspent other third token id before spent
  case carriedUnstored =>
    intro other token carried row stored held
    rcases known other token carried with ⟨-, rfl⟩ | ⟨-, before⟩
    · exact new (invariant.storedIssued row stored token held)
    · exact invariant.carriedUnstored other token before row stored held
  case spentStored =>
    intro other id token spends
    exact invariant.spentStored other id token (put_spending idle spends).2

/-- A party that has just read a token has read it from its row. -/
theorem State.Invariant.read (invariant : state.Invariant) {id : ι} {token : α}
    (reading : state.parties t = .reading) (row : state.stored = some ⟨id, some token⟩) :
    (state.put t (.spending id token)).Invariant := by
  have quiet : (Phase.spending id token).carried = none := rfl
  have was : (state.parties t).carried = none := by
    rw [reading]
    rfl
  have known : ∀ other at_ spent, (state.put t (.spending id token)).parties other =
      .spending at_ spent → (at_ = id ∧ spent = token) ∨ state.parties other = .spending at_ spent := by
    intro other at_ spent spends
    by_cases same : other = t
    · subst same
      rw [put_self] at spends
      obtain ⟨rfl, rfl⟩ := Phase.spending.inj spends
      exact .inl ⟨rfl, rfl⟩
    · rw [put_other same] at spends
      exact .inr spends
  constructor
  case covered => exact invariant.covered.put was
  case accepted => exact invariant.accepted
  case carriedIssued =>
    intro other held carries
    exact invariant.carriedIssued other held (put_carried quiet carries).2
  case spentIssued =>
    intro other at_ spent spends
    rcases known other at_ spent spends with ⟨-, rfl⟩ | before
    · exact invariant.storedIssued _ row _ rfl
    · exact invariant.spentIssued other at_ spent before
  case storedIssued => exact invariant.storedIssued
  case carriedOnce =>
    intro other third held first second
    exact invariant.carriedOnce other third held (put_carried quiet first).2
      (put_carried quiet second).2
  case carriedUnspent =>
    intro other third held at_ carries spends
    have carried := (put_carried quiet carries).2
    rcases known third at_ held spends with ⟨-, rfl⟩ | before
    · exact invariant.carriedUnstored other held carried _ row rfl
    · exact invariant.carriedUnspent other third held at_ carried before
  case carriedUnstored =>
    intro other held carries
    exact invariant.carriedUnstored other held (put_carried quiet carries).2
  case spentStored =>
    intro other at_ spent spends found member held
    rcases known other at_ spent spends with ⟨rfl, rfl⟩ | before
    · rw [put_stored, row, Option.mem_some_iff] at member
      rw [← member]
    · exact invariant.spentStored other at_ spent before found member held

theorem State.Invariant.install (invariant : state.Invariant) {token : α} {newId : ι}
    (installing : state.parties t = .installing token)
    (harmless : ∀ row ∈ state.stored, row.token ≠ some state.accepted) :
    ((state.store (some ⟨(state.stored.map Stored.id).getD newId, some token⟩)).put t
      .finished).Invariant := by
  have carries : (state.parties t).carried = some token := by
    rw [installing]
    rfl
  apply invariant.settle rfl (fun _ _ same => by cases same)
  · cases invariant.covered with
    | stored row => exact absurd rfl (harmless _ row)
    | @replacing other at_ party row =>
        have different : other ≠ t := by
          rintro rfl
          rw [installing] at party
          cases party
        refine .replacing ((State.put_other different).trans party) ?_
        show some ((state.stored.map Stored.id).getD newId) = some at_
        rw [row, Option.getD_some]
    | @installing other party =>
        by_cases same : other = t
        · subst same
          obtain rfl := Phase.installing.inj (installing.symm.trans party)
          exact .stored rfl
        · exact .installing ((State.put_other same).trans party)
  · intro row member held holds
    obtain rfl := Option.mem_some_iff.mp member
    obtain rfl := Option.mem_some_iff.mp holds
    exact invariant.carriedIssued t token carries
  · intro other held different carried row member holds
    obtain rfl := Option.mem_some_iff.mp member
    obtain rfl := Option.some.inj holds
    exact different (invariant.carriedOnce other t token carried carries)
  · intro other at_ held different spends row member holds
    obtain rfl := Option.mem_some_iff.mp member
    obtain rfl := Option.some.inj holds
    exact absurd spends (invariant.carriedUnspent t other token at_ carries)

variable [DecidableEq ι]

/-- An update of the row under an id; a missing row is left missing. -/
def Stored.replace (id : ι) (token : α) (row : Stored ι α) : Stored ι α :=
  if row.id = id then { row with token := some token } else row

inductive Step (t : τ) (state : State ι α τ) : State ι α τ → Prop where
  | leave (reading : state.parties t = .reading) : Step t state (state.put t .finished)
  | read {id : ι} {token : α} (reading : state.parties t = .reading)
      (row : state.stored = some ⟨id, some token⟩) : Step t state (state.put t (.spending id token))
  | unreadable {id : ι} (reading : state.parties t = .reading)
      (row : state.stored = some ⟨id, none⟩) : Step t state (state.put t (.deleting id))
  | rotate {id : ι} {fresh : α} (spending : state.parties t = .spending id state.accepted)
      (new : fresh ∉ state.issued) :
      Step t state ((state.rotate fresh).put t (.replacing id fresh))
  | refuse {id : ι} {token : α} (spending : state.parties t = .spending id token)
      (stale : token ≠ state.accepted) : Step t state (state.put t (.deleting id))
  | replace {id : ι} {token : α} (replacing : state.parties t = .replacing id token) :
      Step t state ((state.store (state.stored.map (Stored.replace id token))).put t .finished)
  | delete {id : ι} (deleting : state.parties t = .deleting id) :
      Step t state ((state.store (state.stored.filter fun row => row.id != id)).put t .finished)
  | authorise {fresh : α} (authorising : state.parties t = .authorising)
      (new : fresh ∉ state.issued) :
      Step t state ((state.rotate fresh).put t (.installing fresh))
  | install {token : α} (installing : state.parties t = .installing token) (newId : ι) :
      Step t state ((state.store (some ⟨(state.stored.map Stored.id).getD newId, some token⟩)).put t
        .finished)

def Guarded (before after : State ι α τ) : Prop :=
  ∃ t, Step t before after ∧ before.Harmless (before.parties t)

/-- Any interleaving of the parties' moves, all of them harmless. -/
def Run (before after : State ι α τ) : Prop := Relation.ReflTransGen Guarded before after

theorem Stored.replace_id (id : ι) (token : α) (row : Stored ι α) :
    (row.replace id token).id = row.id := by
  unfold replace
  split <;> rfl

/-- What is in the store after an update, for a token other than the one written. -/
theorem Stored.of_replace {id : ι} {token held : α} {row : Stored ι α}
    (holds : (row.replace id token).token = some held) (other : held ≠ token) :
    row.token = some held := by
  unfold replace at holds
  split at holds
  · exact absurd (Option.some.inj holds).symm other
  · exact holds

theorem State.Invariant.replace (invariant : state.Invariant) {id : ι} {token : α}
    (replacing : state.parties t = .replacing id token)
    (harmless : ∀ row ∈ state.stored, row.id = id → row.token ≠ some state.accepted) :
    ((state.store (state.stored.map (Stored.replace id token))).put t .finished).Invariant := by
  have carries : (state.parties t).carried = some token := by
    rw [replacing]
    rfl
  have differ : ∀ other held, other ≠ t → (state.parties other).carried = some held →
      held ≠ token := by
    rintro other held different carried rfl
    exact different (invariant.carriedOnce other t held carried carries)
  apply invariant.settle rfl (fun _ _ same => by cases same)
  · cases invariant.covered with
    | @stored at_ row =>
        have elsewhere : at_ ≠ id := fun same => harmless _ row same rfl
        have stays : state.stored.map (Stored.replace id token) =
            some ⟨at_, some state.accepted⟩ := by
          rw [row, Option.map_some, Stored.replace, if_neg elsewhere]
        exact .stored stays
    | @replacing other at_ party row =>
        by_cases same : other = t
        · subst same
          obtain ⟨rfl, rfl⟩ := Phase.replacing.inj (replacing.symm.trans party)
          obtain ⟨found, stored, named⟩ := Option.map_eq_some_iff.mp row
          have written : state.stored.map (Stored.replace id state.accepted) =
              some ⟨id, some state.accepted⟩ := by
            rw [stored, Option.map_some, Stored.replace, if_pos named, ← named]
          exact .stored written
        · refine .replacing ((State.put_other same).trans party) ?_
          show (state.stored.map (Stored.replace id token)).map Stored.id = some at_
          rw [Option.map_map, ← row]
          congr 1
          funext found
          exact Stored.replace_id id token found
    | @installing other party =>
        have different : other ≠ t := by
          rintro rfl
          rw [replacing] at party
          cases party
        exact .installing ((State.put_other different).trans party)
  · intro row member held holds
    obtain ⟨found, stored, rfl⟩ := Option.mem_map.mp member
    by_cases same : held = token
    · exact same ▸ invariant.carriedIssued t token carries
    · exact invariant.storedIssued found stored held (Stored.of_replace holds same)
  · intro other held different carried row member holds
    obtain ⟨found, stored, rfl⟩ := Option.mem_map.mp member
    exact invariant.carriedUnstored other held carried found stored
      (Stored.of_replace holds (differ other held different carried))
  · intro other at_ held different spends row member holds
    obtain ⟨found, stored, rfl⟩ := Option.mem_map.mp member
    have unspent : held ≠ token := by
      rintro rfl
      exact invariant.carriedUnspent t other held at_ carries spends
    rw [Stored.replace_id]
    exact invariant.spentStored other at_ held spends found stored (Stored.of_replace holds unspent)

theorem State.Invariant.delete (invariant : state.Invariant) {id : ι}
    (deleting : state.parties t = .deleting id)
    (harmless : ∀ row ∈ state.stored, row.id = id → row.token ≠ some state.accepted ∧
      ∀ other, state.parties other ≠ .replacing id state.accepted) :
    ((state.store (state.stored.filter fun row => row.id != id)).put t .finished).Invariant := by
  have quiet : (state.parties t).carried = none := by
    rw [deleting]
    rfl
  apply invariant.settle rfl (fun _ _ same => by cases same)
  · have kept : ∀ row, state.stored = some row → row.id ≠ id →
        state.stored.filter (fun row => row.id != id) = some row := by
      intro row stored elsewhere
      rw [stored, Option.filter_some_pos (by simpa using elsewhere)]
    cases invariant.covered with
    | stored row => exact .stored (kept _ row fun same => (harmless _ row same).1 rfl)
    | @replacing other at_ party row =>
        have different : other ≠ t := by
          rintro rfl
          rw [party] at quiet
          cases quiet
        obtain ⟨found, stored, rfl⟩ := Option.map_eq_some_iff.mp row
        have elsewhere : found.id ≠ id := fun same =>
          (harmless found stored same).2 other (same ▸ party)
        refine .replacing ((State.put_other different).trans party) ?_
        show (state.stored.filter fun row => row.id != id).map Stored.id = _
        rw [kept found stored elsewhere, Option.map_some]
    | @installing other party =>
        have different : other ≠ t := by
          rintro rfl
          rw [party] at quiet
          cases quiet
        exact .installing ((State.put_other different).trans party)
  · intro row member
    exact invariant.storedIssued row (Option.filter_eq_some_iff.mp member).1
  · intro other held different carried row member
    exact invariant.carriedUnstored other held carried row (Option.filter_eq_some_iff.mp member).1
  · intro other at_ held different spends row member
    exact invariant.spentStored other at_ held spends row (Option.filter_eq_some_iff.mp member).1

theorem Guarded.invariant (step : Guarded before after) (invariant : before.Invariant) :
    after.Invariant := by
  obtain ⟨t, moved, harmless⟩ := step
  cases moved with
  | leave reading => exact invariant.move (by rw [reading]; rfl) rfl fun _ _ same => by cases same
  | read reading row => exact invariant.read reading row
  | unreadable reading row =>
      exact invariant.move (by rw [reading]; rfl) rfl fun _ _ same => by cases same
  | rotate spending new =>
      exact invariant.renew new rfl (.replacing State.put_self (invariant.spent_stored spending))
  | refuse spending stale =>
      exact invariant.move (by rw [spending]; rfl) rfl fun _ _ same => by cases same
  | replace replacing =>
      rw [replacing] at harmless
      exact invariant.replace replacing harmless
  | delete deleting =>
      rw [deleting] at harmless
      exact invariant.delete deleting harmless
  | authorise authorising new => exact invariant.renew new rfl (.installing State.put_self)
  | install installing newId =>
      rw [installing] at harmless
      exact invariant.install installing harmless

theorem Run.invariant (run : Run before after) (invariant : before.Invariant) :
    after.Invariant := by
  induction run with
  | refl => exact invariant
  | tail _ step ih => exact step.invariant ih

end

end RotatingCredential
