import Mathlib.Logic.Basic

set_option autoImplicit false

/-! Where the values that a state holds come from. -/

namespace Provenance

variable {σ φ β κ : Type}

/-- What is held after was held before, or has been brought. -/
def Traced (holds : σ → φ → β → Prop) (brings : φ → β → Prop) (before after : σ) : Prop :=
  ∀ field value, holds after field value → holds before field value ∨ brings field value

section

variable {holds : σ → φ → β → Prop} {brings : φ → β → Prop} {good : φ → β → Prop}
  {before between after : σ}

theorem Traced.refl (state : σ) : Traced holds brings state state := fun _ _ held => .inl held

theorem Traced.trans (first : Traced holds brings before between)
    (second : Traced holds brings between after) : Traced holds brings before after := by
  intro field value held
  rcases second field value held with earlier | brought
  · exact first field value earlier
  · exact .inr brought

/-- What is good of the values held and of those brought is good of those held after. -/
theorem Traced.preserves (traced : Traced holds brings before after)
    (old : ∀ field value, holds before field value → good field value)
    (new : ∀ field value, brings field value → good field value) :
    ∀ field value, holds after field value → good field value := by
  intro field value held
  rcases traced field value held with earlier | brought
  · exact old field value earlier
  · exact new field value brought

/-- Where all that is brought is held after, it has to be good itself. -/
theorem Traced.preserves_iff (traced : Traced holds brings before after)
    (kept : ∀ field value, brings field value → holds after field value)
    (old : ∀ field value, holds before field value → good field value) :
    (∀ field value, holds after field value → good field value) ↔
      ∀ field value, brings field value → good field value :=
  ⟨fun held field value brought => held field value (kept field value brought),
    traced.preserves old⟩

end

/-- Over a whole run, it is enough to look at what each call brings. -/
theorem foldl_preserves {holds : σ → φ → β → Prop} {good : φ → β → Prop} {serve : σ → κ → σ}
    {brings : κ → φ → β → Prop}
    (traced : ∀ state call, Traced holds (brings call) state (serve state call))
    {calls : List κ} (new : ∀ call ∈ calls, ∀ field value, brings call field value → good field value)
    {start : σ} (old : ∀ field value, holds start field value → good field value) :
    ∀ field value, holds (calls.foldl serve start) field value → good field value := by
  induction calls generalizing start with
  | nil => exact old
  | cons call rest ih =>
      have served := (traced start call).preserves old (new call List.mem_cons_self)
      exact ih (fun later member => new later (List.mem_cons_of_mem _ member)) served

end Provenance
