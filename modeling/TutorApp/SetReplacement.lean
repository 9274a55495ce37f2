import Mathlib.Data.Finset.Basic
import Mathlib.Logic.Function.Basic
import Mathlib.Logic.Relation

set_option autoImplicit false

namespace SetReplacement

variable {κ : Type}

/-- Two transactions that replace one set of rows side by side, each by a delete of what it does
not want and an insert that passes over what is there. This is where one of them stands: the rows
its delete saw and has yet to come to, the keys its insert has yet to come to, and what it has
deleted and inserted so far. -/
inductive Session (κ : Type) where
  | waiting
  | deleting (left deleted : Finset κ)
  | inserting (rest : List κ) (deleted inserted : Finset κ)
  | committed
  | aborted
  deriving DecidableEq

namespace Session

/-- Begun, and neither committed nor undone. -/
def running : Session κ → Bool
  | deleting _ _ | inserting _ _ _ => true
  | _ => false

def deleted : Session κ → Finset κ
  | deleting _ deleted | inserting _ deleted _ => deleted
  | _ => ∅

def inserted : Session κ → Finset κ
  | inserting _ _ inserted => inserted
  | _ => ∅

/-- What the delete saw and has not come to. -/
def left : Session κ → Finset κ
  | deleting left _ => left
  | _ => ∅

/-- What the insert has not come to. -/
def rest : Session κ → List κ
  | inserting rest _ _ => rest
  | _ => []

/-- The insert has come to a wanted key, and gone on. -/
def Passed (wanted : List κ) (k : κ) : Session κ → Prop
  | inserting rest _ _ => k ∈ wanted ∧ k ∉ rest
  | _ => False

end Session

structure State (κ : Type) where
  rows : Finset κ
  sessions : Bool → Session κ

namespace State

def start (rows : Finset κ) : State κ := ⟨rows, fun _ => .waiting⟩

def put (state : State κ) (t : Bool) (session : Session κ) : State κ :=
  { state with sessions := Function.update state.sessions t session }

@[simp] theorem put_rows (state : State κ) (t : Bool) (session : Session κ) :
    (state.put t session).rows = state.rows := rfl

@[simp] theorem put_self (state : State κ) (t : Bool) (session : Session κ) :
    (state.put t session).sessions t = session := Function.update_self ..

@[simp] theorem put_other (state : State κ) (t : Bool) (session : Session κ) :
    (state.put t session).sessions (!t) = state.sessions (!t) :=
  Function.update_of_ne (Bool.not_ne_self t) ..

end State

variable [DecidableEq κ]

inductive Action (κ : Type) where
  | look
  | delete (k : κ)
  | skip (k : κ)
  | turn
  | insert (k : κ)
  | find (k : κ)
  | commit
  | abort

/-- One move of a transaction under READ COMMITTED. The delete sees the rows that are committed
when it begins, and comes to them one by one; a row that the other has deleted is waited for,
and is passed over once it is gone. The insert waits for a key that the other has written, and
passes over one that is there. -/
inductive Step (wanted : Bool → List κ) (t : Bool) (state : State κ) : Action κ → State κ → Prop where
  | look (begins : state.sessions t = .waiting) : Step wanted t state .look
      (state.put t (.deleting (state.rows.filter (· ∉ wanted t)) ∅))
  | delete {k : κ} {left deleted : Finset κ} (stands : state.sessions t = .deleting left deleted)
      (seen : k ∈ left) (free : k ∉ (state.sessions !t).deleted) (there : k ∈ state.rows) :
      Step wanted t state (.delete k) (state.put t (.deleting (left.erase k) (insert k deleted)))
  | skip {k : κ} {left deleted : Finset κ} (stands : state.sessions t = .deleting left deleted)
      (seen : k ∈ left) (gone : k ∉ state.rows) :
      Step wanted t state (.skip k) (state.put t (.deleting (left.erase k) deleted))
  | turn {deleted : Finset κ} (stands : state.sessions t = .deleting ∅ deleted) :
      Step wanted t state .turn (state.put t (.inserting (wanted t) deleted ∅))
  | insert {k : κ} {rest : List κ} {deleted inserted : Finset κ}
      (stands : state.sessions t = .inserting (k :: rest) deleted inserted)
      (free : k ∉ (state.sessions !t).deleted ∧ k ∉ (state.sessions !t).inserted)
      (absent : k ∉ (state.rows \ deleted) ∪ inserted) :
      Step wanted t state (.insert k) (state.put t (.inserting rest deleted (insert k inserted)))
  | find {k : κ} {rest : List κ} {deleted inserted : Finset κ}
      (stands : state.sessions t = .inserting (k :: rest) deleted inserted)
      (free : k ∉ (state.sessions !t).deleted ∧ k ∉ (state.sessions !t).inserted)
      (there : k ∈ (state.rows \ deleted) ∪ inserted) :
      Step wanted t state (.find k) (state.put t (.inserting rest deleted inserted))
  | commit {deleted inserted : Finset κ}
      (stands : state.sessions t = .inserting [] deleted inserted) :
      Step wanted t state .commit
        (State.put ⟨(state.rows \ deleted) ∪ inserted, state.sessions⟩ t .committed)
  | abort (runs : (state.sessions t).running = true) :
      Step wanted t state .abort (state.put t .aborted)

/-- An interleaving of the two whose every move meets a condition. -/
def Run (wanted : Bool → List κ) (guard : State κ → Bool → Action κ → Prop) :
    State κ → State κ → Prop :=
  Relation.ReflTransGen fun before after =>
    ∃ t action, Step wanted t before action after ∧ guard before t action

/-- The moves that do not cross the other transaction: a delete that begins while the other's
uncommitted rows are all wanted, an insert of what the other wants too or is not there to miss,
and a delete of what the other does not count on. -/
def Apart (wanted : Bool → List κ) (state : State κ) (t : Bool) : Action κ → Prop
  | .look => ∀ k ∈ (state.sessions !t).inserted, k ∈ wanted t
  | .insert k => (state.sessions !t).running = true → k ∈ wanted !t
  | .delete k => ¬ (state.sessions !t).Passed (wanted !t) k
  | _ => True

/-- What holds of a transaction that has begun. Unwanted rows are still to be deleted or are; a
wanted key that the insert has passed is inserted, or is there and stays there; and what the
other has inserted is wanted. -/
structure Session.Sound (session : Session κ) (wanted : List κ) (rows : Finset κ)
    (other : Session κ) : Prop where
  left : ∀ k ∈ session.left, k ∉ wanted
  rest : ∀ k ∈ session.rest, k ∈ wanted
  deleted : ∀ k ∈ session.deleted, k ∉ wanted
  inserted : ∀ k ∈ session.inserted, k ∈ wanted
  unwanted : ∀ k ∈ rows, k ∉ wanted → k ∈ session.left ∨ k ∈ session.deleted
  passed : ∀ k, session.Passed wanted k →
    k ∈ session.inserted ∨ k ∈ rows ∧ k ∉ other.deleted
  beside : ∀ k ∈ other.inserted, k ∈ wanted

/-- After a commit, the rows are what some transaction that has committed wanted. -/
structure State.Sound (wanted : Bool → List κ) (state : State κ) : Prop where
  running : ∀ t, (state.sessions t).running = true →
    (state.sessions t).Sound (wanted t) state.rows (state.sessions !t)
  done : (∃ t, state.sessions t = .committed) →
    ∃ t, state.sessions t = .committed ∧ state.rows = (wanted t).toFinset

variable {wanted : Bool → List κ} {state after : State κ} {t : Bool} {action : Action κ}
  {session : Session κ}

theorem State.start_sound (rows : Finset κ) : (State.start rows).Sound wanted where
  running t runs := by cases runs
  done := by
    rintro ⟨t, done⟩
    cases done

/-- A move of one that leaves the committed rows: what it writes, the other can live with. -/
theorem State.Sound.put (sound : state.Sound wanted) (before : state.sessions t ≠ .committed)
    (own : session.running = true →
      session.Sound (wanted t) state.rows (state.sessions !t))
    (deleted : ∀ k ∈ session.deleted, k ∈ (state.sessions t).deleted ∨
      ¬ (state.sessions !t).Passed (wanted !t) k)
    (inserted : ∀ k ∈ session.inserted, k ∈ (state.sessions t).inserted ∨
      ((state.sessions !t).running = true → k ∈ wanted !t))
    (open_ : session ≠ .committed) : (state.put t session).Sound wanted where
  running u runs := by
    by_cases same : u = t
    · subst same
      rw [put_self] at runs ⊢
      rw [put_other, put_rows]
      exact own runs
    · obtain rfl := Bool.eq_not.mpr same
      rw [put_other] at runs ⊢
      rw [Bool.not_not, put_self, put_rows]
      have kept := sound.running _ runs
      rw [Bool.not_not] at kept
      refine { kept with passed := fun k passed => ?_, beside := fun k member => ?_ }
      · refine (kept.passed k passed).imp id fun there => ⟨there.1, fun gone => ?_⟩
        rcases deleted k gone with old | still
        · exact there.2 old
        · exact still passed
      · rcases inserted k member with old | new
        · exact kept.beside k old
        · exact new runs
  done := by
    rintro ⟨u, done⟩
    by_cases same : u = t
    · subst same
      rw [put_self] at done
      exact absurd done open_
    · obtain rfl := Bool.eq_not.mpr same
      rw [put_other] at done
      obtain ⟨v, ended, rows⟩ := sound.done ⟨_, done⟩
      have other : v ≠ t := by
        rintro rfl
        exact before ended
      obtain rfl := Bool.eq_not.mpr other
      exact ⟨!t, by rw [put_other]; exact ended, rows⟩

omit [DecidableEq κ] in
/-- Past one key more, or past it already. -/
theorem Session.Passed.cons {wanted rest : List κ} {deleted inserted : Finset κ} {k other : κ}
    (passed : (Session.inserting rest deleted inserted).Passed wanted other) (differs : other ≠ k) :
    (Session.inserting (k :: rest) deleted inserted).Passed wanted other :=
  ⟨passed.1, fun member => passed.2 ((List.mem_cons.mp member).resolve_left differs)⟩

/-- A transaction that commits leaves exactly what it wanted. -/
theorem Session.Sound.rows {rows deleted inserted : Finset κ} {wanted : List κ} {other : Session κ}
    (sound : (Session.inserting [] deleted inserted).Sound wanted rows other) :
    (rows \ deleted) ∪ inserted = wanted.toFinset := by
  ext k
  rw [Finset.mem_union, Finset.mem_sdiff, List.mem_toFinset]
  constructor
  · rintro (⟨there, stays⟩ | new)
    · by_contra unwanted
      rcases sound.unwanted k there unwanted with left | gone
      · exact absurd left (Finset.notMem_empty k)
      · exact stays gone
    · exact sound.inserted k new
  · intro member
    rcases sound.passed k ⟨member, List.not_mem_nil⟩ with new | ⟨there, -⟩
    · exact .inr new
    · exact .inl ⟨there, fun gone => sound.deleted k gone member⟩

theorem State.Sound.commit {deleted inserted : Finset κ} (sound : state.Sound wanted)
    (stands : state.sessions t = .inserting [] deleted inserted) :
    (State.put ⟨(state.rows \ deleted) ∪ inserted, state.sessions⟩ t .committed).Sound wanted := by
  have own := sound.running t (by rw [stands]; rfl)
  rw [stands] at own
  refine ⟨fun u runs => ?_, fun _ => ⟨t, put_self .., own.rows⟩⟩
  by_cases same : u = t
  · subst same
    rw [put_self] at runs
    cases runs
  · obtain rfl := Bool.eq_not.mpr same
    rw [put_other] at runs ⊢
    rw [Bool.not_not, put_self, put_rows]
    have kept := sound.running _ runs
    rw [Bool.not_not, stands] at kept
    refine { kept with
      unwanted := fun k member unwanted => ?_
      passed := fun k passed => ?_
      beside := fun k member => absurd member (Finset.notMem_empty k) }
    · rcases Finset.mem_union.mp member with old | new
      · exact kept.unwanted k (Finset.mem_sdiff.mp old).1 unwanted
      · exact absurd (kept.beside k new) unwanted
    · refine (kept.passed k passed).imp id fun there => ⟨?_, Finset.notMem_empty k⟩
      exact Finset.mem_union_left _ (Finset.mem_sdiff.mpr there)

theorem Step.sound (step : Step wanted t state action after) (apart : Apart wanted state t action)
    (sound : state.Sound wanted) : after.Sound wanted := by
  have own := sound.running t
  have open_ {session : Session κ} (stands : state.sessions t = session)
      (differs : session ≠ .committed) : state.sessions t ≠ .committed := by
    rw [stands]
    exact differs
  cases step with
  | look begins =>
      refine sound.put (open_ begins (by simp)) (fun _ => ?_) (fun k none => ?_) (fun k none => ?_)
        (by simp)
      · refine ⟨fun k seen => (Finset.mem_filter.mp seen).2, fun k none => ?_, fun k none => ?_,
          fun k none => ?_, fun k member unwanted => .inl (Finset.mem_filter.mpr ⟨member, unwanted⟩),
          fun k passed => passed.elim, apart⟩
        · cases none
        · exact absurd none (Finset.notMem_empty k)
        · exact absurd none (Finset.notMem_empty k)
      · exact absurd none (Finset.notMem_empty k)
      · exact absurd none (Finset.notMem_empty k)
  | @delete k left deleted stands seen free there =>
      rw [stands] at own
      have kept := own rfl
      refine sound.put (open_ stands (by simp)) (fun _ => ?_) (fun other member => ?_)
        (fun other none => ?_) (by simp)
      · refine { kept with
          left := fun other member => kept.left other (Finset.mem_of_mem_erase member)
          deleted := fun other member => ?_
          unwanted := fun other member unwanted => ?_ }
        · rcases Finset.mem_insert.mp member with rfl | old
          · exact kept.left other seen
          · exact kept.deleted other old
        · by_cases same : other = k
          · exact .inr (Finset.mem_insert.mpr (.inl same))
          · exact (kept.unwanted other member unwanted).imp
              (fun old => Finset.mem_erase.mpr ⟨same, old⟩) Finset.mem_insert_of_mem
      · rw [stands]
        rcases Finset.mem_insert.mp member with rfl | old
        · exact .inr apart
        · exact .inl old
      · exact absurd none (Finset.notMem_empty other)
  | @skip k left deleted stands seen gone =>
      rw [stands] at own
      have kept := own rfl
      refine sound.put (open_ stands (by simp)) (fun _ => ?_) (fun other member => ?_)
        (fun other none => ?_) (by simp)
      · refine { kept with
          left := fun other member => kept.left other (Finset.mem_of_mem_erase member)
          unwanted := fun other member unwanted => ?_ }
        refine (kept.unwanted other member unwanted).imp
          (fun old => Finset.mem_erase.mpr ⟨?_, old⟩) id
        rintro rfl
        exact gone member
      · rw [stands]
        exact .inl member
      · exact absurd none (Finset.notMem_empty other)
  | @turn deleted stands =>
      rw [stands] at own
      have kept := own rfl
      refine sound.put (open_ stands (by simp)) (fun _ => ?_) (fun other member => ?_)
        (fun other none => ?_) (by simp)
      · exact { kept with
          rest := fun other member => member
          inserted := fun other none => absurd none (Finset.notMem_empty other)
          unwanted := kept.unwanted
          passed := fun other passed => absurd passed.1 passed.2 }
      · rw [stands]
        exact .inl member
      · exact absurd none (Finset.notMem_empty other)
  | @insert k rest deleted inserted stands free absent =>
      rw [stands] at own
      have kept := own rfl
      refine sound.put (open_ stands (by simp)) (fun _ => ?_) (fun other member => ?_)
        (fun other member => ?_) (by simp)
      · refine { kept with
          rest := fun other member => kept.rest other (List.mem_cons_of_mem _ member)
          inserted := fun other member => ?_
          passed := fun other passed => ?_ }
        · rcases Finset.mem_insert.mp member with rfl | old
          · exact kept.rest other List.mem_cons_self
          · exact kept.inserted other old
        · by_cases same : other = k
          · exact .inl (Finset.mem_insert.mpr (.inl same))
          · exact (kept.passed other (passed.cons same)).imp_left Finset.mem_insert_of_mem
      · rw [stands]
        exact .inl member
      · rw [stands]
        rcases Finset.mem_insert.mp member with rfl | old
        · exact .inr apart
        · exact .inl old
  | @find k rest deleted inserted stands free there =>
      rw [stands] at own
      have kept := own rfl
      refine sound.put (open_ stands (by simp)) (fun _ => ?_) (fun other member => ?_)
        (fun other member => ?_) (by simp)
      · refine { kept with
          rest := fun other member => kept.rest other (List.mem_cons_of_mem _ member)
          passed := fun other passed => ?_ }
        by_cases same : other = k
        · rw [same]
          rcases Finset.mem_union.mp there with kept | new
          · exact .inr ⟨(Finset.mem_sdiff.mp kept).1, free.1⟩
          · exact .inl new
        · exact kept.passed other (passed.cons same)
      · rw [stands]
        exact .inl member
      · rw [stands]
        exact .inl member
  | commit stands => exact sound.commit stands
  | abort runs =>
      refine sound.put ?_ (fun runs => (by cases runs)) (fun other none => ?_) (fun other none => ?_)
        (by simp)
      · intro done
        rw [done] at runs
        cases runs
      · exact absurd none (Finset.notMem_empty other)
      · exact absurd none (Finset.notMem_empty other)

/-- Whatever the order of the moves, the rows are what the last one to commit wanted. -/
theorem Run.sound {before : State κ} (run : Run wanted (Apart wanted) before after)
    (sound : before.Sound wanted) : after.Sound wanted := by
  induction run with
  | refl => exact sound
  | tail _ moved ih =>
      obtain ⟨t, action, step, apart⟩ := moved
      exact step.sound apart ih

omit [DecidableEq κ] in
theorem Session.idle {session : Session κ} (idle : session.running = false) :
    session.deleted = ∅ ∧ session.inserted = ∅ ∧ ∀ wanted k, ¬ session.Passed wanted k := by
  cases session with
  | deleting | inserting => cases idle
  | waiting | committed | aborted => exact ⟨rfl, rfl, fun _ _ passed => passed.elim⟩

variable {left deleted inserted : Finset κ} {rest : List κ}

theorem Run.step {middle : State κ} (step : Step wanted t state action middle)
    (apart : Apart wanted state t action) (run : Run wanted (Apart wanted) middle after) :
    Run wanted (Apart wanted) state after :=
  .head ⟨t, action, step, apart⟩ run

/-- The delete comes to every row it saw. -/
theorem deletes_alone (idle : (state.sessions !t).running = false)
    (stands : state.sessions t = .deleting left deleted) :
    ∃ after deleted, Run wanted (Apart wanted) state after ∧
      after.sessions t = .deleting ∅ deleted ∧ after.sessions (!t) = state.sessions (!t) := by
  induction left using Finset.induction_on generalizing state deleted with
  | empty => exact ⟨state, deleted, .refl, stands, rfl⟩
  | insert k left fresh ih =>
      obtain ⟨free, -, unpassed⟩ := Session.idle idle
      have seen : k ∈ insert k left := Finset.mem_insert_self k left
      have untouched : k ∉ (state.sessions !t).deleted := by
        rw [free]
        exact Finset.notMem_empty k
      have comes (deleted : Finset κ) : ∃ after deleted', Run wanted (Apart wanted)
          (state.put t (.deleting ((insert k left).erase k) deleted)) after ∧
            after.sessions t = .deleting ∅ deleted' ∧
              after.sessions (!t) = state.sessions (!t) := by
        rw [Finset.erase_insert fresh]
        obtain ⟨after, deleted', run, ended, other⟩ :=
          @ih (state.put t (.deleting left deleted)) deleted (by rwa [State.put_other])
            (by rw [State.put_self])
        exact ⟨after, deleted', run, ended, by rw [other, State.put_other]⟩
      by_cases there : k ∈ state.rows
      · obtain ⟨after, deleted', run, ended, other⟩ := comes (insert k deleted)
        exact ⟨after, deleted', run.step (.delete stands seen untouched there) (unpassed _ k), ended,
          other⟩
      · obtain ⟨after, deleted', run, ended, other⟩ := comes deleted
        exact ⟨after, deleted', run.step (.skip stands seen there) trivial, ended, other⟩

/-- The insert comes to every key. -/
theorem inserts_alone (idle : (state.sessions !t).running = false)
    (stands : state.sessions t = .inserting rest deleted inserted) :
    ∃ after inserted, Run wanted (Apart wanted) state after ∧
      after.sessions t = .inserting [] deleted inserted ∧
        after.sessions (!t) = state.sessions (!t) := by
  induction rest generalizing state inserted with
  | nil => exact ⟨state, inserted, .refl, stands, rfl⟩
  | cons k rest ih =>
      obtain ⟨undeleted, uninserted, -⟩ := Session.idle idle
      have free : k ∉ (state.sessions !t).deleted ∧ k ∉ (state.sessions !t).inserted := by
        rw [undeleted, uninserted]
        exact ⟨Finset.notMem_empty k, Finset.notMem_empty k⟩
      have comes (inserted : Finset κ) : ∃ after inserted', Run wanted (Apart wanted)
          (state.put t (.inserting rest deleted inserted)) after ∧
            after.sessions t = .inserting [] deleted inserted' ∧
              after.sessions (!t) = state.sessions (!t) := by
        obtain ⟨after, inserted', run, ended, other⟩ :=
          @ih (state.put t (.inserting rest deleted inserted)) inserted (by rwa [State.put_other])
            (by rw [State.put_self])
        exact ⟨after, inserted', run, ended, by rw [other, State.put_other]⟩
      by_cases there : k ∈ (state.rows \ deleted) ∪ inserted
      · obtain ⟨after, inserted', run, ended, other⟩ := comes inserted
        exact ⟨after, inserted', run.step (.find stands free there) trivial, ended, other⟩
      · obtain ⟨after, inserted', run, ended, other⟩ := comes (insert k inserted)
        refine ⟨after, inserted', run.step (.insert stands free there) ?_, ended, other⟩
        intro runs
        rw [idle] at runs
        cases runs

/-- While the other has not begun or is over, a transaction commits what it wants. -/
theorem replaces_alone (sound : state.Sound wanted) (idle : (state.sessions !t).running = false)
    (begins : state.sessions t = .waiting) :
    ∃ after, Run wanted (Apart wanted) state after ∧ after.sessions t = .committed ∧
      after.sessions (!t) = state.sessions (!t) ∧ after.rows = (wanted t).toFinset := by
  have looks : Apart wanted state t .look := by
    intro k member
    rw [(Session.idle idle).2.1] at member
    exact absurd member (Finset.notMem_empty k)
  let looked := state.put t (.deleting (state.rows.filter (· ∉ wanted t)) ∅)
  obtain ⟨cleared, deleted, deletes, emptied, aside⟩ : ∃ cleared deleted,
      Run wanted (Apart wanted) looked cleared ∧ cleared.sessions t = .deleting ∅ deleted ∧
        cleared.sessions (!t) = looked.sessions (!t) :=
    deletes_alone (by rwa [State.put_other]) (State.put_self ..)
  rw [State.put_other] at aside
  let turned := cleared.put t (.inserting (wanted t) deleted ∅)
  obtain ⟨filled, inserted, inserts, placed, still⟩ : ∃ filled inserted,
      Run wanted (Apart wanted) turned filled ∧
        filled.sessions t = .inserting [] deleted inserted ∧
        filled.sessions (!t) = turned.sessions (!t) :=
    inserts_alone (by rwa [State.put_other, aside]) (State.put_self ..)
  rw [State.put_other, aside] at still
  have upTo : Run wanted (Apart wanted) state filled :=
    .trans (Run.step (.look begins) looks deletes) (Run.step (.turn emptied) trivial inserts)
  have own := (upTo.sound sound).running t (by rw [placed]; rfl)
  rw [placed] at own
  refine ⟨_, upTo.tail ⟨t, .commit, .commit placed, trivial⟩, State.put_self .., ?_, own.rows⟩
  rw [State.put_other]
  exact still

end SetReplacement
