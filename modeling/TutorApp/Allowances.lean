import Mathlib.Algebra.BigOperators.Group.Finset.Basic
import Mathlib.Algebra.Order.BigOperators.Group.Finset
import Mathlib.Data.List.Count

set_option autoImplicit false

namespace Allowances

variable {κ : Type} [DecidableEq κ]

/-- A limiter over a window in which no count runs out: whether an arrival under a key is admitted,
by the keys of those before it. It looks at its own key only, and once as many came as its limit
is, nobody else gets through. -/
structure Limiter (κ : Type) [DecidableEq κ] where
  limit : κ → Nat
  admits : List κ → κ → Bool
  own : ∀ earlier key, admits earlier key = admits (earlier.filter (decide <| · = key)) key
  limited : ∀ earlier key, limit key ≤ earlier.count key → admits earlier key = false

/-- The decisions over a window, each beside its key. -/
def decisions (limiter : Limiter κ) : List κ → List κ → List (κ × Bool)
  | _, [] => []
  | earlier, key :: rest =>
      (key, limiter.admits earlier key) :: decisions limiter (key :: earlier) rest

variable {limiter : Limiter κ} {earlier arrivals : List κ}

/-- What is decided under some keys does not depend on the others. -/
theorem decisions_filter (keep : κ → Bool) :
    (decisions limiter earlier arrivals).filter (fun decision => keep decision.1) =
      decisions limiter (earlier.filter keep) (arrivals.filter keep) := by
  induction arrivals generalizing earlier with
  | nil => rfl
  | cons key rest ih =>
      have later := @ih (key :: earlier)
      by_cases kept : keep key = true
      · have under : (earlier.filter keep).filter (decide <| · = key) =
            earlier.filter (decide <| · = key) := by
          rw [List.filter_filter]
          apply List.filter_congr
          intro other _
          by_cases same : other = key <;> simp [same, kept]
        have same : limiter.admits (earlier.filter keep) key = limiter.admits earlier key := by
          rw [limiter.own, under, ← limiter.own]
        simp only [decisions, List.filter_cons, kept, if_true] at later ⊢
        rw [later, same]
      · simp only [decisions, List.filter_cons, kept] at later ⊢
        exact later

/-- Under each of finitely many keys no more come through than its limit. -/
theorem countP_decisions_le (keys : Finset κ) (inside : ∀ key ∈ arrivals, key ∈ keys) :
    (decisions limiter earlier arrivals).countP Prod.snd ≤
      ∑ key ∈ keys, (limiter.limit key - earlier.count key) := by
  induction arrivals generalizing earlier with
  | nil => exact Nat.zero_le _
  | cons key rest ih =>
      have member := inside key List.mem_cons_self
      have later := @ih (key :: earlier)
        fun other there => inside other (List.mem_cons_of_mem _ there)
      have others : ∑ other ∈ keys.erase key,
          (limiter.limit other - (key :: earlier).count other) =
          ∑ other ∈ keys.erase key, (limiter.limit other - earlier.count other) := by
        apply Finset.sum_congr rfl
        intro other there
        rw [List.count_cons_of_ne (Finset.ne_of_mem_erase there).symm]
      rw [← Finset.add_sum_erase _ _ member, others, List.count_cons_self] at later
      rw [← Finset.add_sum_erase _ _ member, decisions, List.countP_cons]
      cases admitted : limiter.admits earlier key with
      | true =>
          have room : earlier.count key < limiter.limit key := by
            by_contra full
            rw [limiter.limited earlier key (not_lt.mp full)] at admitted
            cases admitted
          simp only [if_true]
          omega
      | false =>
          simp only [Bool.false_eq_true, if_false]
          omega

theorem admitted_le (keys : Finset κ) (inside : ∀ key ∈ arrivals, key ∈ keys) :
    (decisions limiter [] arrivals).countP Prod.snd ≤ ∑ key ∈ keys, limiter.limit key := by
  have bound : (decisions limiter [] arrivals).countP Prod.snd ≤
      ∑ key ∈ keys, (limiter.limit key - [].count key) := countP_decisions_le keys inside
  simpa using bound

/-- As many as the limit says, first come first served. -/
def Limiter.counting (limit : κ → Nat) : Limiter κ where
  limit
  admits earlier key := earlier.count key < limit key
  own earlier key := by rw [List.count_filter (by simp)]
  limited earlier key full := by simpa using full

end Allowances
