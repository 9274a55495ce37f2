import Mathlib.Logic.Relation
import Mathlib.Data.Set.Basic

set_option autoImplicit false

/-- Calls that look at a shared state and act later on what they saw. -/
structure CheckThenAct (τ σ : Type) where
  step : τ → σ → σ → Prop
  looks : τ → σ → Prop
  acts : τ → σ → Prop
  /-- A step of another call undoes what a call saw. -/
  spoils : τ → σ → σ → Prop

namespace CheckThenAct

variable {τ σ : Type} (system : CheckThenAct τ σ)

/-- The calls with nothing up to date to act on, after one step. -/
def stale (t : τ) (before after : σ) (old : Set τ) : Set τ :=
  {u | (u = t → u ∈ old ∧ ¬ system.looks u before) ∧
    (u ≠ t → u ∈ old ∨ system.spoils u before after)}

/-- A step that acts on nothing out of date. -/
def Watched (now next : σ × Set τ) : Prop :=
  ∃ t, system.step t now.1 next.1 ∧ (system.acts t now.1 → t ∉ now.2) ∧
    next.2 = system.stale t now.1 next.1 now.2

/-- A run in which no call acts on a look that another call has spoiled since. At its start nobody
has looked. -/
def Timely (start next : σ) : Prop :=
  ∃ behind, Relation.ReflTransGen system.Watched (start, Set.univ) (next, behind)

/-- What a look tells, and what it is good for. -/
structure Guards (Inv : σ → Prop) (Knows : τ → σ → Prop) : Prop where
  look : ∀ {t before after}, Inv before → system.step t before after → system.looks t before →
    Knows t after
  own : ∀ {t before after}, Inv before → system.step t before after → ¬ system.looks t before →
    Knows t before → Knows t after
  other : ∀ {t u before after}, Inv before → system.step t before after → u ≠ t →
    Knows u before → ¬ system.spoils u before after → Knows u after
  act : ∀ {t before after}, Inv before → system.step t before after →
    (system.acts t before → Knows t before) → Inv after

section

variable {system} {t : τ} {start now seen next : σ}

theorem Timely.refl : system.Timely start start := ⟨_, .refl⟩

theorem Timely.idle (run : system.Timely start now) (step : system.step t now next)
    (idle : ¬ system.acts t now) : system.Timely start next := by
  obtain ⟨behind, steps⟩ := run
  exact ⟨system.stale t now next behind, steps.tail ⟨t, step, fun acting => absurd acting idle, rfl⟩⟩

/-- A call acts right after its look. -/
theorem Timely.at_once (run : system.Timely start now) (looking : system.looks t now)
    (idle : ¬ system.acts t now) (look : system.step t now seen) (act : system.step t seen next) :
    system.Timely start next := by
  obtain ⟨behind, steps⟩ := run
  let upToDate := system.stale t now seen behind
  have looked : system.Watched (now, behind) (seen, upToDate) :=
    ⟨t, look, fun acting => absurd acting idle, rfl⟩
  have acted : system.Watched (seen, upToDate) (next, system.stale t seen next upToDate) :=
    ⟨t, act, fun _ outdated => (outdated.1 rfl).2 looking, rfl⟩
  exact ⟨_, (steps.tail looked).tail acted⟩

end

variable {system} {Inv : σ → Prop} {Knows : τ → σ → Prop}

/-- One watched step keeps the invariant, and every call that is up to date knows what it saw. -/
theorem Guards.watched (guards : system.Guards Inv Knows) {now next : σ × Set τ}
    (inv : Inv now.1) (knows : ∀ u, u ∉ now.2 → Knows u now.1) (step : system.Watched now next) :
    Inv next.1 ∧ ∀ u, u ∉ next.2 → Knows u next.1 := by
  obtain ⟨t, moved, fresh, behind⟩ := step
  refine ⟨guards.act inv moved fun acting => knows t (fresh acting), fun u fresh => ?_⟩
  rw [behind] at fresh
  by_cases same : u = t
  · subst same
    by_cases looking : system.looks u now.1
    · exact guards.look inv moved looking
    · refine guards.own inv moved looking (knows u fun old => ?_)
      exact fresh ⟨fun _ => ⟨old, looking⟩, fun other => absurd rfl other⟩
  · have current : u ∉ now.2 ∧ ¬ system.spoils u now.1 next.1 := by
      rw [← not_or]
      exact fun outdated => fresh ⟨fun equal => absurd equal same, fun _ => outdated⟩
    exact guards.other inv moved same (knows u current.1) current.2

/-- What every act on a timely look preserves holds along every timely run. -/
theorem Guards.timely (guards : system.Guards Inv Knows) {start next : σ} (inv : Inv start)
    (run : system.Timely start next) : Inv next := by
  obtain ⟨behind, steps⟩ := run
  suffices both : ∀ last : σ × Set τ, Relation.ReflTransGen system.Watched (start, Set.univ) last →
      Inv last.1 ∧ ∀ u, u ∉ last.2 → Knows u last.1 from (both _ steps).1
  intro last steps
  induction steps with
  | refl => exact ⟨inv, fun u fresh => absurd (Set.mem_univ u) fresh⟩
  | tail _ step ih => exact guards.watched ih.1 ih.2 step

end CheckThenAct
