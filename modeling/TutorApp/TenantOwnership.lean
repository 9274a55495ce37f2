import Mathlib.Data.List.Basic

set_option autoImplicit false

namespace TenantOwnership

/-- The rows a state lists, the references each row makes, and the tenant a reference leads
to in a state. A row belongs to the tenant all its references lead to. -/
structure Ownership (State Row Ref Tenant : Type) where
  listing : State → List Row
  holds : State → Row → Prop
  mem_listing : ∀ state row, row ∈ listing state ↔ holds state row
  refs : Row → List Ref
  home : State → Ref → Option Tenant
  refs_ne_nil : ∀ row, refs row ≠ []

namespace Ownership

variable {State Row Ref Tenant : Type} (owned : Ownership State Row Ref Tenant)

def Belongs (state : State) (tenant : Tenant) (row : Row) : Prop :=
  ∀ ref ∈ owned.refs row, owned.home state ref = some tenant

/-- No row joins two tenants, and no reference dangles. -/
def Sound (state : State) : Prop :=
  ∀ row, owned.holds state row → ∃ tenant, owned.Belongs state tenant row

open Classical in
/-- What a tenant has, in the order of the listing. -/
noncomputable def seen (state : State) (tenant : Tenant) : List Row :=
  (owned.listing state).filter fun row => decide (owned.Belongs state tenant row)

/-- A change within one tenant: the rows it adds and removes are that tenant's, every other
row refers to what it referred to, and every other tenant has its rows in the order they were. -/
structure Confined (tenant : Tenant) (before after : State) : Prop where
  kept : ∀ row ref, owned.holds before row → owned.holds after row → ref ∈ owned.refs row →
    owned.home after ref = owned.home before ref
  fresh : ∀ row, owned.holds after row →
    owned.holds before row ∨ owned.Belongs after tenant row
  lost : ∀ row, owned.holds before row →
    owned.holds after row ∨ owned.Belongs before tenant row
  apart : ∀ other, other ≠ tenant → owned.seen after other = owned.seen before other

variable {owned} {tenant other : Tenant} {before middle after : State} {row : Row}

theorem belongs_unique (left : owned.Belongs before tenant row)
    (right : owned.Belongs before other row) : tenant = other := by
  obtain ⟨ref, member⟩ := List.exists_mem_of_ne_nil _ (owned.refs_ne_nil row)
  exact Option.some.inj ((left ref member).symm.trans (right ref member))

/-- One reference is enough to tell whose a row is. -/
theorem Sound.belongs_via {ref : Ref} (sound : owned.Sound before) (present : owned.holds before row)
    (member : ref ∈ owned.refs row) (leads : owned.home before ref = some tenant) :
    owned.Belongs before tenant row := by
  obtain ⟨other, belongs⟩ := sound row present
  rw [belongs ref member, Option.some.injEq] at leads
  exact leads ▸ belongs

namespace Confined

theorem refl (tenant : Tenant) (state : State) : owned.Confined tenant state state :=
  ⟨fun _ _ _ _ _ => rfl, fun _ present => .inl present, fun _ present => .inl present,
    fun _ _ => rfl⟩

theorem belongs_forward (change : owned.Confined tenant before after)
    (first : owned.holds before row) (second : owned.holds after row)
    (belongs : owned.Belongs before other row) : owned.Belongs after other row :=
  fun ref member => (change.kept row ref first second member).trans (belongs ref member)

theorem belongs_backward (change : owned.Confined tenant before after)
    (first : owned.holds before row) (second : owned.holds after row)
    (belongs : owned.Belongs after other row) : owned.Belongs before other row :=
  fun ref member => (change.kept row ref first second member).symm.trans (belongs ref member)

theorem trans (first : owned.Confined tenant before middle)
    (second : owned.Confined tenant middle after) : owned.Confined tenant before after where
  kept row ref earlier later member := by
    rcases first.lost row earlier with there | lost
    · exact (second.kept row ref there later member).trans
        (first.kept row ref earlier there member)
    · rcases second.fresh row later with there | fresh
      · exact (second.kept row ref there later member).trans
          (first.kept row ref earlier there member)
      · rw [fresh ref member, lost ref member]
  fresh row later := by
    rcases second.fresh row later with there | fresh
    · rcases first.fresh row there with earlier | fresh
      · exact .inl earlier
      · exact .inr (second.belongs_forward there later fresh)
    · exact .inr fresh
  lost row earlier := by
    rcases first.lost row earlier with there | lost
    · rcases second.lost row there with later | lost
      · exact .inl later
      · exact .inr (first.belongs_backward earlier there lost)
    · exact .inr lost
  apart other foreign := (second.apart other foreign).trans (first.apart other foreign)

theorem sound (change : owned.Confined tenant before after) (sound : owned.Sound before) :
    owned.Sound after := by
  intro row later
  rcases change.fresh row later with earlier | fresh
  · obtain ⟨other, belongs⟩ := sound row earlier
    exact ⟨other, change.belongs_forward earlier later belongs⟩
  · exact ⟨tenant, fresh⟩

/-- Another tenant's rows are the same before and after, and still that tenant's. -/
theorem isolates (change : owned.Confined tenant before after) (foreign : other ≠ tenant)
    (row : Row) :
    (owned.holds before row ∧ owned.Belongs before other row) ↔
      (owned.holds after row ∧ owned.Belongs after other row) := by
  constructor
  · rintro ⟨earlier, belongs⟩
    rcases change.lost row earlier with later | lost
    · exact ⟨later, change.belongs_forward earlier later belongs⟩
    · exact absurd (belongs_unique belongs lost) foreign
  · rintro ⟨later, belongs⟩
    rcases change.fresh row later with earlier | fresh
    · exact ⟨earlier, change.belongs_backward earlier later belongs⟩
    · exact absurd (belongs_unique belongs fresh) foreign

/-- Adding rows of the tenant, while every reference that led somewhere still leads there. -/
theorem insert {left right : List Row} (new : List Row) (sound : owned.Sound before)
    (grown : ∀ ref home, owned.home before ref = some home → owned.home after ref = some home)
    (earlier : owned.listing before = left ++ right)
    (later : owned.listing after = left ++ new ++ right)
    (belongs : ∀ row ∈ new, owned.Belongs after tenant row) :
    owned.Confined tenant before after := by
  classical
  have kept : ∀ row ref, owned.holds before row → ref ∈ owned.refs row →
      owned.home after ref = owned.home before ref := by
    intro row ref present member
    obtain ⟨home, leads⟩ := sound row present
    rw [leads ref member, grown ref home (leads ref member)]
  refine ⟨fun row ref present _ member => kept row ref present member, ?_, ?_, ?_⟩
  · intro row present
    rw [← owned.mem_listing, later, List.mem_append, List.mem_append] at present
    rw [← owned.mem_listing, earlier, List.mem_append]
    rcases present with (first | added) | last
    · exact .inl (.inl first)
    · exact .inr (belongs row added)
    · exact .inl (.inr last)
  · intro row present
    rw [← owned.mem_listing, earlier, List.mem_append] at present
    rw [← owned.mem_listing, later, List.mem_append, List.mem_append]
    exact .inl (present.imp_left .inl)
  · intro other foreign
    have same : ∀ row ∈ left ++ right,
        owned.Belongs after other row ↔ owned.Belongs before other row := by
      intro row listed
      rw [← earlier, owned.mem_listing] at listed
      exact forall₂_congr fun ref member => by rw [kept row ref listed member]
    have others : new.filter (fun row => decide (owned.Belongs after other row)) = [] := by
      rw [List.filter_eq_nil_iff]
      intro row added theirs
      exact foreign (belongs_unique (of_decide_eq_true theirs) (belongs row added))
    rw [seen, seen, earlier, later, List.filter_append, List.filter_append, others,
      List.append_nil, ← List.filter_append]
    exact List.filter_congr fun row listed => decide_eq_decide.mpr (same row listed)

/-- Rewriting rows of the tenant without moving what any reference leads to. -/
theorem rewrite (change : Row → Row)
    (homes : ∀ ref, owned.home after ref = owned.home before ref)
    (listed : owned.listing after = (owned.listing before).map change)
    (mine : ∀ row, owned.holds before row → change row = row ∨
      owned.Belongs before tenant row ∧ owned.Belongs before tenant (change row)) :
    owned.Confined tenant before after := by
  classical
  have same : ∀ other row, owned.Belongs after other row ↔ owned.Belongs before other row :=
    fun other row => forall₂_congr fun ref _ => by rw [homes ref]
  refine ⟨fun _ ref _ _ _ => homes ref, ?_, ?_, ?_⟩
  · intro row present
    rw [← owned.mem_listing, listed] at present
    obtain ⟨old, there, rfl⟩ := List.mem_map.mp present
    rw [owned.mem_listing] at there
    rcases mine old there with unchanged | ⟨-, belongs⟩
    · exact .inl (unchanged.symm ▸ there)
    · exact .inr ((same tenant _).mpr belongs)
  · intro row present
    rcases mine row present with unchanged | ⟨belongs, -⟩
    · rw [← owned.mem_listing, listed]
      exact .inl (List.mem_map.mpr ⟨row, (owned.mem_listing _ _).mpr present, unchanged⟩)
    · exact .inr belongs
  · intro other foreign
    have untouched : ∀ row ∈ owned.listing before,
        (if owned.Belongs before other (change row) then some (change row) else none) =
          if owned.Belongs before other row then some row else none := by
      intro row present
      rcases mine row ((owned.mem_listing _ _).mp present) with unchanged | ⟨old, new⟩
      · rw [unchanged]
      · rw [if_neg fun theirs => foreign (belongs_unique theirs new),
          if_neg fun theirs => foreign (belongs_unique theirs old)]
    simp only [seen, listed, same, ← List.filterMap_eq_filter, List.filterMap_map]
    apply List.filterMap_congr
    intro row present
    simpa [Option.guard] using untouched row present

/-- Removing rows of the tenant that no remaining row refers to. -/
theorem remove (keep : Row → Bool)
    (kept : ∀ row ref, owned.holds after row → ref ∈ owned.refs row →
      owned.home after ref = owned.home before ref)
    (listed : owned.listing after = (owned.listing before).filter keep)
    (mine : ∀ row, owned.holds before row → keep row = false → owned.Belongs before tenant row) :
    owned.Confined tenant before after := by
  have left : ∀ row, owned.holds after row ↔ owned.holds before row ∧ keep row = true := by
    intro row
    rw [← owned.mem_listing, listed, List.mem_filter, owned.mem_listing]
  refine ⟨fun row ref _ later member => kept row ref later member, ?_, ?_, ?_⟩
  · intro row later
    exact .inl ((left row).mp later).1
  · intro row earlier
    cases stays : keep row with
    | false => exact .inr (mine row earlier stays)
    | true => exact .inl ((left row).mpr ⟨earlier, stays⟩)
  · intro other foreign
    rw [seen, seen, listed, List.filter_filter]
    apply List.filter_congr
    intro row present
    have earlier := (owned.mem_listing _ _).mp present
    cases stays : keep row with
    | false =>
        rw [Bool.and_false, eq_comm, decide_eq_false_iff_not]
        exact fun theirs => foreign (belongs_unique theirs (mine row earlier stays))
    | true =>
        rw [Bool.and_true, decide_eq_decide]
        have later := (left row).mpr ⟨earlier, stays⟩
        exact forall₂_congr fun ref member => by rw [kept row ref later member]

end Confined

end Ownership

end TenantOwnership
