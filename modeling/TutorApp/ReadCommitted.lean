import Mathlib.Logic.Function.Basic
import Mathlib.Logic.Relation
import Mathlib.Data.Fintype.Defs

set_option autoImplicit false

namespace ReadCommitted

/-- What a session does next with what it sees. -/
inductive Turn (ω ℓ : Type) where
  | write (writes : List ω) (next : ℓ)
  | fail
  | commit
  deriving Repr, DecidableEq

/-- Writes to a database, the rows and unique keys each of them locks, and the programs that
issue them one statement at a time. -/
structure Rules (σ ω κ ℓ : Type) where
  apply : ω → σ → σ
  locks : ω → List κ
  turn : ℓ → σ → Turn ω ℓ

/-- Where a session stands, `none` once it is over, and what it has written so far. -/
structure Session (ω ℓ : Type) where
  here : Option ℓ
  pending : List ω

structure State (σ ω τ ℓ : Type) where
  committed : σ
  sessions : τ → Session ω ℓ

section

variable {σ ω κ ℓ τ : Type}

def State.start (db : σ) (first : τ → ℓ) : State σ ω τ ℓ :=
  ⟨db, fun t => ⟨some (first t), []⟩⟩

def State.put [DecidableEq τ] (state : State σ ω τ ℓ) (t : τ) (session : Session ω ℓ) :
    State σ ω τ ℓ :=
  { state with sessions := Function.update state.sessions t session }

section

variable [DecidableEq τ] (state : State σ ω τ ℓ) (t : τ) (session : Session ω ℓ)

@[simp] theorem State.put_committed : (state.put t session).committed = state.committed := rfl

@[simp] theorem State.put_self : (state.put t session).sessions t = session :=
  Function.update_self ..

theorem State.put_other {other : τ} (different : other ≠ t) :
    (state.put t session).sessions other = state.sessions other :=
  Function.update_of_ne different ..

variable {state t session}

/-- What every session meets is met by all of them once one has moved to where it meets it. -/
theorem State.sessions_put (meets : Session ω ℓ → Prop) (moved : meets session)
    (every : ∀ other, meets (state.sessions other)) (other : τ) :
    meets ((state.put t session).sessions other) := by
  by_cases acting : other = t
  · subst acting
    rw [State.put_self]
    exact moved
  · rw [State.put_other _ _ _ acting]
    exact every other

end

variable (rules : Rules σ ω κ ℓ)

def Rules.applyAll (writes : List ω) (db : σ) : σ :=
  writes.foldl (fun db write => rules.apply write db) db

@[simp] theorem Rules.applyAll_nil (db : σ) : rules.applyAll [] db = db := rfl

@[simp] theorem Rules.applyAll_cons (write : ω) (rest : List ω) (db : σ) :
    rules.applyAll (write :: rest) db = rules.applyAll rest (rules.apply write db) := rfl

theorem Rules.applyAll_append (first second : List ω) (db : σ) :
    rules.applyAll (first ++ second) db = rules.applyAll second (rules.applyAll first db) := by
  rw [applyAll, List.foldl_append, applyAll, applyAll]

/-- What none of the writes changes stays as it is. -/
theorem Rules.applyAll_keeps {ρ : Type} {read : σ → ρ} {writes : List ω}
    (kept : ∀ write ∈ writes, ∀ db, read (rules.apply write db) = read db) (db : σ) :
    read (rules.applyAll writes db) = read db := by
  induction writes generalizing db with
  | nil => rfl
  | cons write rest ih =>
      have tail := ih (fun other member => kept other (List.mem_cons_of_mem _ member))
        (rules.apply write db)
      rw [applyAll_cons, tail, kept write List.mem_cons_self]

/-- What a statement of a session sees: the committed rows and the session's own writes. -/
def State.view (state : State σ ω τ ℓ) (t : τ) : σ :=
  rules.applyAll (state.sessions t).pending state.committed

/-- No other session holds a lock that the writes need. -/
def State.Free (state : State σ ω τ ℓ) (t : τ) (writes : List ω) : Prop :=
  ∀ other, other ≠ t → ∀ held ∈ (state.sessions other).pending, ∀ write ∈ writes,
    ∀ k ∈ rules.locks write, k ∉ rules.locks held

instance [DecidableEq τ] [Fintype τ] [DecidableEq κ] (state : State σ ω τ ℓ) (t : τ)
    (writes : List ω) : Decidable (state.Free rules t writes) :=
  inferInstanceAs (Decidable (∀ _, _))

/-- Locks are exclusive. -/
def State.Exclusive (state : State σ ω τ ℓ) : Prop :=
  ∀ t other, t ≠ other → ∀ write ∈ (state.sessions t).pending,
    ∀ held ∈ (state.sessions other).pending, ∀ k ∈ rules.locks write, k ∉ rules.locks held

variable {rules} in
theorem State.start_exclusive (db : σ) (first : τ → ℓ) :
    (State.start db first : State σ ω τ ℓ).Exclusive rules := by
  intro t other different write pending
  cases pending

variable [DecidableEq τ]

/-- A session issues a statement as soon as nobody else holds its rows, commits, or is undone,
by a statement that fails, a deadlock or a timeout. -/
inductive Step (t : τ) (state : State σ ω τ ℓ) : State σ ω τ ℓ → Prop where
  | statement {here next : ℓ} {writes : List ω} (standing : (state.sessions t).here = some here)
      (turn : rules.turn here (state.view rules t) = .write writes next)
      (free : state.Free rules t writes) :
      Step t state (state.put t ⟨some next, (state.sessions t).pending ++ writes⟩)
  | commit {here : ℓ} (standing : (state.sessions t).here = some here)
      (turn : rules.turn here (state.view rules t) = .commit) :
      Step t state (State.put ⟨state.view rules t, state.sessions⟩ t ⟨none, []⟩)
  | abort {here : ℓ} (standing : (state.sessions t).here = some here) :
      Step t state (state.put t ⟨none, []⟩)

/-- A step whose statement, if it is one, meets a condition on what it sees. -/
def Guarded (guard : ℓ → σ → Prop) (before after : State σ ω τ ℓ) : Prop :=
  ∃ t, Step rules t before after ∧ ∀ here next, (before.sessions t).here = some here →
    (after.sessions t).here = some next → guard here (before.view rules t)

/-- Any interleaving of the sessions, with every statement under the guard. -/
def Run (guard : ℓ → σ → Prop) (before after : State σ ω τ ℓ) : Prop :=
  Relation.ReflTransGen (Guarded rules guard) before after

variable {rules} {guard : ℓ → σ → Prop} {before after : State σ ω τ ℓ} {t : τ}

/-- A session that only gives locks up keeps them exclusive. -/
theorem State.Exclusive.put_ended (exclusive : before.Exclusive rules) (t : τ) :
    (before.put t ⟨none, []⟩).Exclusive rules := by
  intro left right different write first held second
  by_cases same : left = t
  · subst same
    rw [State.put_self] at first
    cases first
  · by_cases ended : right = t
    · subst ended
      rw [State.put_self] at second
      cases second
    · rw [State.put_other _ _ _ same] at first
      rw [State.put_other _ _ _ ended] at second
      exact exclusive left right different write first held second

theorem Step.exclusive (step : Step rules t before after) (exclusive : before.Exclusive rules) :
    after.Exclusive rules := by
  cases step with
  | @statement here next writes standing turn free =>
      intro left right different write first held second k needed taken
      by_cases same : left = t
      · subst same
        rw [State.put_self] at first
        rw [State.put_other _ _ _ (Ne.symm different)] at second
        rcases List.mem_append.mp first with old | new
        · exact exclusive left right different write old held second k needed taken
        · exact free right (Ne.symm different) held second write new k needed taken
      · rw [State.put_other _ _ _ same] at first
        by_cases acting : right = t
        · subst acting
          rw [State.put_self] at second
          rcases List.mem_append.mp second with old | new
          · exact exclusive left right different write first held old k needed taken
          · exact free left same write first held new k taken needed
        · rw [State.put_other _ _ _ acting] at second
          exact exclusive left right different write first held second k needed taken
  | commit standing turn =>
      have unmoved : State.Exclusive rules ⟨before.view rules t, before.sessions⟩ := exclusive
      exact unmoved.put_ended t
  | abort standing => exact exclusive.put_ended t

/-- Only a commit changes what is committed. -/
theorem Step.committed (step : Step rules t before after) :
    after.committed = before.committed ∨
      ∃ here, (before.sessions t).here = some here ∧
        rules.turn here (before.view rules t) = .commit := by
  cases step with
  | statement => exact .inl rfl
  | commit standing turn => exact .inr ⟨_, standing, turn⟩
  | abort => exact .inl rfl

/-- A session whose statement fails is undone. -/
theorem Step.undone (step : Step rules t before after) {here : ℓ}
    (standing : (before.sessions t).here = some here)
    (fails : rules.turn here (before.view rules t) = .fail) : after = before.put t ⟨none, []⟩ := by
  cases step with
  | statement stands turn _ | commit stands turn =>
      obtain rfl := Option.some.inj (standing.symm.trans stands)
      rw [fails] at turn
      cases turn
  | abort => rfl

theorem Run.exclusive (run : Run rules guard before after) (exclusive : before.Exclusive rules) :
    after.Exclusive rules := by
  induction run with
  | refl => exact exclusive
  | tail _ step ih =>
      obtain ⟨t, moved, -⟩ := step
      exact moved.exclusive ih

/-- The statements of one program, one after the other, each under the guard. -/
inductive Path (rules : Rules σ ω κ ℓ) (guard : ℓ → σ → Prop) : ℓ → σ → ℓ → σ → Prop where
  | stay (here : ℓ) (db : σ) : Path rules guard here db here db
  | issue {here next last : ℓ} {db final : σ} {writes : List ω}
      (turn : rules.turn here db = .write writes next) (holds : guard here db)
      (rest : Path rules guard next (rules.applyAll writes db) last final) :
      Path rules guard here db last final

omit [DecidableEq τ] in
theorem Path.trans {here middle last : ℓ} {db between final : σ}
    (first : Path rules guard here db middle between)
    (second : Path rules guard middle between last final) :
    Path rules guard here db last final := by
  induction first with
  | stay => exact second
  | issue turn holds rest ih => exact .issue turn holds (ih second)

/-- A session nobody is in the way of commits what its statements lead to. -/
theorem Path.run {here last : ℓ} {db final : σ} (path : Path rules guard here db last final)
    (commits : rules.turn last final = .commit)
    (standing : (before.sessions t).here = some here) (seen : before.view rules t = db)
    (alone : ∀ other, other ≠ t → (before.sessions other).pending = []) :
    ∃ after, Run rules guard before after ∧ after.committed = final ∧
      (after.sessions t).here = none ∧
      ∀ other, other ≠ t → after.sessions other = before.sessions other := by
  induction path generalizing before with
  | stay here db =>
      subst seen
      refine ⟨_, .single ⟨t, .commit standing commits, ?_⟩, rfl, ?_, ?_⟩
      · intro _ _ _ ended
        rw [State.put_self] at ended
        cases ended
      · rw [State.put_self]
      · intro other different
        rw [State.put_other _ _ _ different]
  | @issue here next last db final writes turn holds rest ih =>
      subst seen
      have free : before.Free rules t writes := by
        intro other different held pending
        rw [alone other different] at pending
        cases pending
      have seen' : (before.put t ⟨some next, (before.sessions t).pending ++ writes⟩).view rules t =
          rules.applyAll writes (before.view rules t) := by
        rw [State.view, State.put_self, Rules.applyAll_append]
        rfl
      obtain ⟨after, run, committed, ended, others⟩ :=
        ih commits (by rw [State.put_self]) seen' fun other different => by
          rw [State.put_other _ _ _ different, alone other different]
      refine ⟨after, .head ⟨t, .statement standing turn free, ?_⟩ run, committed, ended, ?_⟩
      · intro there _ stands _
        rw [standing] at stands
        rw [← Option.some.inj stands]
        exact holds
      · intro other different
        rw [others other different, State.put_other _ _ _ different]

section

variable {ρ : Type} {read : κ → σ → ρ}

/-- A write changes the rows it locks, by what they held. -/
structure RowLocal (rules : Rules σ ω κ ℓ) (read : κ → σ → ρ) : Prop where
  frame : ∀ write k db, k ∉ rules.locks write → read k (rules.apply write db) = read k db
  determined : ∀ write left right, (∀ k ∈ rules.locks write, read k left = read k right) →
    ∀ k ∈ rules.locks write, read k (rules.apply write left) = read k (rules.apply write right)

theorem RowLocal.frame_all (rows : RowLocal rules read) {writes : List ω} {k : κ} (db : σ)
    (untouched : ∀ write ∈ writes, k ∉ rules.locks write) :
    read k (rules.applyAll writes db) = read k db :=
  rules.applyAll_keeps (fun write member db => rows.frame write k db (untouched write member)) db

/-- A row that no session ever writes stays as it is; `stays` carries why none does. -/
theorem Run.read_committed (rows : RowLocal rules read) {k : κ} {stays : ℓ → Prop}
    (kept : ∀ here db writes next, stays here → rules.turn here db = .write writes next →
      stays next ∧ ∀ write ∈ writes, k ∉ rules.locks write)
    {db : σ} {first : τ → ℓ} (begun : ∀ t, stays (first t))
    (run : Run rules guard (State.start db first) after) :
    read k after.committed = read k db := by
  let idle (session : Session ω ℓ) : Prop := (∀ here, session.here = some here → stays here) ∧
    ∀ write ∈ session.pending, k ∉ rules.locks write
  have ended : idle ⟨none, []⟩ :=
    ⟨fun _ standing => (by cases standing), fun _ none => absurd none List.not_mem_nil⟩
  suffices invariant : read k after.committed = read k db ∧ ∀ t, idle (after.sessions t) from
    invariant.1
  induction run with
  | refl =>
      refine ⟨rfl, fun t => ⟨fun here standing => ?_, fun _ none => absurd none List.not_mem_nil⟩⟩
      rw [← Option.some.inj standing]
      exact begun t
  | @tail before after _ step ih =>
      obtain ⟨same, sessions⟩ := ih
      obtain ⟨t, moved, -⟩ := step
      cases moved with
      | @statement here next writes standing turn free =>
          obtain ⟨stay, outside⟩ := kept here _ writes next ((sessions t).1 here standing) turn
          refine ⟨same, State.sessions_put idle ⟨?_, ?_⟩ sessions⟩
          · intro there standing'
            rw [← Option.some.inj standing']
            exact stay
          · intro write member
            rcases List.mem_append.mp member with old | new
            · exact (sessions t).2 write old
            · exact outside write new
      | commit standing turn =>
          exact ⟨(rows.frame_all _ (sessions t).2).trans same, State.sessions_put idle ended sessions⟩
      | abort standing => exact ⟨same, State.sessions_put idle ended sessions⟩

/-- What a write adds to a measure is decided by the rows it locks. -/
structure Additive (rules : Rules σ ω κ ℓ) (read : κ → σ → ρ) (measure : σ → Int) : Prop
    extends RowLocal rules read where
  gain : ∀ write left right, (∀ k ∈ rules.locks write, read k left = read k right) →
    measure (rules.apply write left) + measure right =
      measure (rules.apply write right) + measure left

variable {measure : σ → Int}

theorem Additive.gain_all (additive : Additive rules read measure) {writes : List ω} {left right : σ}
    (same : ∀ write ∈ writes, ∀ k ∈ rules.locks write, read k left = read k right) :
    measure (rules.applyAll writes left) + measure right =
      measure (rules.applyAll writes right) + measure left := by
  induction writes generalizing left right with
  | nil => exact Int.add_comm ..
  | cons write rest ih =>
      have agree := same write List.mem_cons_self
      have after : ∀ other ∈ rest, ∀ k ∈ rules.locks other,
          read k (rules.apply write left) = read k (rules.apply write right) := by
        intro other member k locked
        by_cases written : k ∈ rules.locks write
        · exact additive.determined write left right agree k written
        · rw [additive.frame write k left written, additive.frame write k right written]
          exact same other (List.mem_cons_of_mem _ member) k locked
      have head := additive.gain write left right agree
      have tail := ih after
      simp only [Rules.applyAll_cons]
      omega

/-- Programs that restore a measure before they commit: `owed` is what is still to be written. -/
structure Conserves (rules : Rules σ ω κ ℓ) (guard : ℓ → σ → Prop) (measure : σ → Int)
    (owed : ℓ → Int) : Prop where
  statement : ∀ here db writes next, rules.turn here db = .write writes next → guard here db →
    measure (rules.applyAll writes db) + owed here = measure db + owed next
  settled : ∀ here db, rules.turn here db = .commit → owed here = 0

/-- Every session sees the committed measure and what it owes on top. -/
def State.Balanced (rules : Rules σ ω κ ℓ) (measure : σ → Int) (owed : ℓ → Int)
    (state : State σ ω τ ℓ) : Prop :=
  ∀ t here, (state.sessions t).here = some here →
    measure (state.view rules t) = measure state.committed + owed here

variable {owed : ℓ → Int}

theorem State.Balanced.put_ended (balanced : before.Balanced rules measure owed) (t : τ) :
    (before.put t ⟨none, []⟩).Balanced rules measure owed := by
  intro other here standing
  by_cases ended : other = t
  · subst ended
    rw [State.put_self] at standing
    cases standing
  · rw [State.view, State.put_other _ _ _ ended]
    rw [State.put_other _ _ _ ended] at standing
    exact balanced other here standing

/-- What one session commits does not move what another one owes: it holds none of its rows. -/
theorem State.Balanced.commit (additive : Additive rules read measure)
    (exclusive : before.Exclusive rules) (balanced : before.Balanced rules measure owed) (t : τ) :
    (State.put ⟨before.view rules t, before.sessions⟩ t ⟨none, []⟩).Balanced rules measure owed := by
  intro other here standing
  by_cases ended : other = t
  · subst ended
    rw [State.put_self] at standing
    cases standing
  · rw [State.put_other _ _ _ ended] at standing
    have unmoved : ∀ write ∈ (before.sessions other).pending, ∀ k ∈ rules.locks write,
        read k (before.view rules t) = read k before.committed := by
      intro write member k locked
      apply additive.frame_all
      intro held holds
      exact exclusive other t ended write member held holds k locked
    have gained := additive.gain_all unmoved
    have old := balanced other here standing
    rw [State.view] at old
    rw [State.view, State.put_other _ _ _ ended, State.put_committed]
    show measure (rules.applyAll (before.sessions other).pending (before.view rules t)) =
      measure (before.view rules t) + owed here
    omega

theorem Guarded.balanced (additive : Additive rules read measure)
    (conserves : Conserves rules guard measure owed) (step : Guarded rules guard before after)
    (exclusive : before.Exclusive rules) (balanced : before.Balanced rules measure owed) :
    after.Balanced rules measure owed ∧ measure after.committed = measure before.committed := by
  obtain ⟨t, moved, guarded⟩ := step
  cases moved with
  | @statement here next writes standing turn free =>
      refine ⟨?_, rfl⟩
      have seen := guarded here next standing (by rw [State.put_self])
      have written := conserves.statement here _ writes next turn seen
      have old := balanced t here standing
      intro other there standing'
      by_cases acting : other = t
      · subst acting
        rw [State.put_self] at standing'
        obtain rfl := Option.some.inj standing'
        rw [State.view, State.put_self, Rules.applyAll_append, State.put_committed]
        show measure (rules.applyAll writes (before.view rules other)) = _
        omega
      · rw [State.put_other _ _ _ acting] at standing'
        rw [State.view, State.put_other _ _ _ acting]
        exact balanced other there standing'
  | @commit here standing turn =>
      refine ⟨State.Balanced.commit additive exclusive balanced t, ?_⟩
      have nothing := conserves.settled here _ turn
      have old := balanced t here standing
      show measure (before.view rules t) = _
      omega
  | abort standing => exact ⟨balanced.put_ended t, rfl⟩

/-- Whatever the interleaving, what is committed measures as at the start. -/
theorem Run.measure_committed (additive : Additive rules read measure)
    (conserves : Conserves rules guard measure owed) {db : σ} {first : τ → ℓ}
    (begun : ∀ t, owed (first t) = 0) (run : Run rules guard (State.start db first) after) :
    measure after.committed = measure db := by
  suffices invariant : after.Balanced rules measure owed ∧ measure after.committed = measure db from
    invariant.2
  induction run with
  | refl =>
      refine ⟨?_, rfl⟩
      intro t here standing
      rw [← Option.some.inj standing, begun]
      exact (Int.add_zero _).symm
  | tail earlier step ih =>
      obtain ⟨balanced, same⟩ := ih
      have exclusive := Run.exclusive earlier (State.start_exclusive db first)
      obtain ⟨kept, measured⟩ := step.balanced additive conserves exclusive balanced
      exact ⟨kept, measured.trans same⟩

end

section

variable {beside : List ω → ℓ → Prop} {sound : σ → Prop} {holds : σ → ℓ → List ω → Prop}

/-- A condition on what a session commits and where the others stand meanwhile. -/
def State.Beside (beside : List ω → ℓ → Prop) (state : State σ ω τ ℓ) (t : τ) : Prop :=
  ∀ other, other ≠ t → ∀ there, (state.sessions other).here = some there →
    beside (state.sessions t).pending there

/-- An interleaving in which every commit that changes something meets such a condition. -/
def RunBeside (rules : Rules σ ω κ ℓ) (beside : List ω → ℓ → Prop) (before after : State σ ω τ ℓ) :
    Prop :=
  Relation.ReflTransGen (fun before after => ∃ t, Step rules t before after ∧
    (after.committed ≠ before.committed → before.Beside beside t)) before after

/-- Programs over a sound database. `holds` is what a session relies on between its statements,
given what it has written; no other session's commit takes that away. -/
structure Discipline (rules : Rules σ ω κ ℓ) (beside : List ω → ℓ → Prop) (sound : σ → Prop)
    (holds : σ → ℓ → List ω → Prop) : Prop where
  statement : ∀ db here pending writes next, sound db → holds db here pending →
    rules.turn here (rules.applyAll pending db) = .write writes next →
    holds db next (pending ++ writes)
  commit : ∀ db here pending, sound db → holds db here pending →
    rules.turn here (rules.applyAll pending db) = .commit → sound (rules.applyAll pending db)
  stable : ∀ db here pending there others, sound db → holds db here pending →
    rules.turn here (rules.applyAll pending db) = .commit → beside pending there →
    (∀ held ∈ others, ∀ write ∈ pending, ∀ k ∈ rules.locks held, k ∉ rules.locks write) →
    holds db there others → holds (rules.applyAll pending db) there others

/-- A sound database under sessions that have what they rely on. -/
structure State.Disciplined (rules : Rules σ ω κ ℓ) (sound : σ → Prop)
    (holds : σ → ℓ → List ω → Prop) (state : State σ ω τ ℓ) : Prop where
  exclusive : state.Exclusive rules
  sound : sound state.committed
  holds : ∀ t here, (state.sessions t).here = some here →
    holds state.committed here (state.sessions t).pending

omit [DecidableEq τ] in
theorem State.start_disciplined {db : σ} {first : τ → ℓ} (sane : sound db)
    (begun : ∀ t, holds db (first t) []) :
    (State.start db first : State σ ω τ ℓ).Disciplined rules sound holds where
  exclusive := State.start_exclusive db first
  sound := sane
  holds t here standing := by
    rw [← Option.some.inj standing]
    exact begun t

theorem Discipline.step (discipline : Discipline rules beside sound holds)
    (kept : before.Disciplined rules sound holds) (step : Step rules t before after)
    (meets : after.committed ≠ before.committed → before.Beside beside t) :
    after.Disciplined rules sound holds := by
  have exclusive := step.exclusive kept.exclusive
  let relied (session : Session ω ℓ) : Prop :=
    ∀ here, session.here = some here → holds before.committed here session.pending
  cases step with
  | @statement here next writes standing turn free =>
      refine ⟨exclusive, kept.sound, State.sessions_put relied (fun there stands => ?_) kept.holds⟩
      rw [← Option.some.inj stands]
      exact discipline.statement _ here _ writes next kept.sound (kept.holds t here standing) turn
  | @commit here standing turn =>
      have held := kept.holds t here standing
      refine ⟨exclusive, discipline.commit _ here _ kept.sound held turn, fun other there stands => ?_⟩
      by_cases acting : other = t
      · subst acting
        rw [State.put_self] at stands
        cases stands
      · rw [State.put_other _ _ _ acting] at stands ⊢
        by_cases same : before.view rules t = before.committed
        · rw [State.put_committed, same]
          exact kept.holds other there stands
        · exact discipline.stable _ here _ there _ kept.sound held turn
            (meets same other acting there stands) (kept.exclusive other t acting)
            (kept.holds other there stands)
  | abort standing =>
      exact ⟨exclusive, kept.sound, State.sessions_put relied (fun _ ended => by cases ended) kept.holds⟩

/-- What each session relies on holds along every such interleaving. -/
theorem Discipline.run (discipline : Discipline rules beside sound holds)
    (kept : before.Disciplined rules sound holds) (run : RunBeside rules beside before after) :
    after.Disciplined rules sound holds := by
  induction run with
  | refl => exact kept
  | tail _ step ih =>
      obtain ⟨t, moved, meets⟩ := step
      exact discipline.step ih moved meets

/-- Without a condition on what is committed beside whom, that is every interleaving. -/
theorem Run.unguarded (run : Run rules guard before after)
    (any : ∀ pending there, beside pending there) : RunBeside rules beside before after := by
  refine Relation.ReflTransGen.mono (fun _ _ step => ?_) _ _ run
  obtain ⟨t, moved, -⟩ := step
  exact ⟨t, moved, fun _ _ _ there _ => any _ there⟩

end

section

variable [Fintype τ] [DecidableEq κ] {beside : List ω → ℓ → Prop}

/-- The next statement or the commit of a session, if it is not over, stuck or failing. -/
def State.advance (rules : Rules σ ω κ ℓ) (guard : ℓ → σ → Bool) (state : State σ ω τ ℓ) (t : τ) :
    Option (State σ ω τ ℓ) :=
  match (state.sessions t).here with
  | none => none
  | some here =>
      match rules.turn here (state.view rules t) with
      | .fail => none
      | .commit => some (State.put ⟨state.view rules t, state.sessions⟩ t ⟨none, []⟩)
      | .write writes next =>
          if state.Free rules t writes ∧ guard here (state.view rules t) = true then
            some (state.put t ⟨some next, (state.sessions t).pending ++ writes⟩)
          else none

theorem State.advance_step {decided : ℓ → σ → Bool} {state next : State σ ω τ ℓ}
    (done : state.advance rules decided t = some next) :
    Step rules t state next ∧ ∀ here there, (state.sessions t).here = some here →
      (next.sessions t).here = some there → decided here (state.view rules t) = true := by
  unfold advance at done
  split at done
  · cases done
  · rename_i here standing
    split at done
    · cases done
    · rename_i turn
      rw [← Option.some.inj done]
      refine ⟨.commit standing turn, fun _ _ _ ended => ?_⟩
      rw [put_self] at ended
      cases ended
    · rename_i writes there turn
      split at done
      · rename_i allowed
        rw [← Option.some.inj done]
        refine ⟨.statement standing turn allowed.1, fun _ _ stands _ => ?_⟩
        rw [standing] at stands
        rw [← Option.some.inj stands]
        exact allowed.2
      · cases done

def State.schedule (rules : Rules σ ω κ ℓ) (guard : ℓ → σ → Bool) (state : State σ ω τ ℓ)
    (order : List τ) : Option (State σ ω τ ℓ) :=
  order.foldlM (fun state t => state.advance rules guard t) state

theorem State.schedule_run {decided : ℓ → σ → Bool} {state final : State σ ω τ ℓ} {order : List τ}
    (sound : ∀ here db, decided here db = true → guard here db)
    (done : state.schedule rules decided order = some final) : Run rules guard state final := by
  induction order generalizing state with
  | nil =>
      rw [← Option.some.inj done]
      exact .refl
  | cons t rest ih =>
      rw [schedule, List.foldlM_cons, Option.bind_eq_bind, Option.bind_eq_some_iff] at done
      obtain ⟨next, advanced, others⟩ := done
      obtain ⟨step, allowed⟩ := advance_step advanced
      refine .head ⟨t, step, fun here there standing stands => ?_⟩ (ih others)
      exact sound here _ (allowed here there standing stands)

instance (beside : List ω → ℓ → Prop) [∀ pending there, Decidable (beside pending there)]
    (state : State σ ω τ ℓ) (t : τ) : Decidable (state.Beside beside t) :=
  inferInstanceAs (Decidable (∀ other, other ≠ t → ∀ there, _ = some there → _))

/-- The same under a condition on where the others stand. -/
def State.scheduleBeside (rules : Rules σ ω κ ℓ) (beside : List ω → ℓ → Prop)
    [∀ pending there, Decidable (beside pending there)] (state : State σ ω τ ℓ) (order : List τ) :
    Option (State σ ω τ ℓ) :=
  order.foldlM (fun state t => if state.Beside beside t then
    state.advance rules (fun _ _ => true) t else none) state

theorem State.scheduleBeside_run [∀ pending there, Decidable (beside pending there)]
    {state final : State σ ω τ ℓ} {order : List τ}
    (done : state.scheduleBeside rules beside order = some final) :
    RunBeside rules beside state final := by
  induction order generalizing state with
  | nil =>
      rw [← Option.some.inj done]
      exact .refl
  | cons t rest ih =>
      rw [scheduleBeside, List.foldlM_cons, Option.bind_eq_bind, Option.bind_eq_some_iff] at done
      obtain ⟨next, advanced, others⟩ := done
      split at advanced
      · rename_i apart
        exact .head ⟨t, (advance_step advanced).1, fun _ => apart⟩ (ih others)
      · cases advanced

end

end

end ReadCommitted
