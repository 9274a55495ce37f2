import TutorApp.Writes

set_option autoImplicit false

namespace TutorApp

open Relational

/-- Whether a member has been granted a capability. -/
def Db.grants (db : Db) (userId : Id) (addon : AddonKey) : Bool :=
  (db.addons.find (userId, addon)).isSome

/-- What is left once repeats are dropped has none. -/
theorem nodup_eraseDups {α : Type} [BEq α] [LawfulBEq α] (list : List α) : list.eraseDups.Nodup := by
  induction size : list.length using Nat.strong_induction_on generalizing list with
  | _ n ih =>
      cases list with
      | nil => exact List.nodup_nil
      | cons first rest =>
          have shorter : (rest.filter fun other => !other == first).length < n := by
            rw [← size, List.length_cons]
            exact Nat.lt_succ_of_le (List.length_filter_le ..)
          rw [List.eraseDups_cons, List.nodup_cons]
          refine ⟨fun again => ?_, ih _ shorter _ rfl⟩
          have differs := (List.mem_filter.mp (List.mem_eraseDups.mp again)).2
          rw [beq_self_eq_true] at differs
          cases differs

theorem AddonKey.mem_values (addon : AddonKey) : addon ∈ values := by
  cases addon <;> decide

namespace Db

variable {db next : Db} {userId enabledById : Id} {addon : AddonKey} {addons : List AddonKey}

theorem grants_iff : db.grants userId addon = true ↔
    ∃ row ∈ db.addons.rows, row.userId = userId ∧ row.addon = addon := by
  rw [grants, Option.isSome_iff_exists]
  constructor
  · rintro ⟨row, found⟩
    obtain ⟨member, same⟩ := Table.find_eq_some.mp found
    exact ⟨row, member, (Prod.mk.inj same).1, (Prod.mk.inj same).2⟩
  · rintro ⟨row, member, rfl, rfl⟩
    exact ⟨row, Table.find_key member⟩

theorem deleteAddons_grants (other : Id) :
    (db.deleteAddons userId addons).grants other addon = true ↔
      db.grants other addon = true ∧ (other = userId → addon ∈ addons) := by
  simp only [grants_iff]
  constructor
  · rintro ⟨row, member, rfl, rfl⟩
    obtain ⟨present, left⟩ := Table.mem_delete.mp member
    refine ⟨⟨row, present, rfl, rfl⟩, fun his => ?_⟩
    rw [his, beq_self_eq_true, Bool.true_and, Bool.not_eq_false'] at left
    exact List.contains_iff_mem.mp left
  · rintro ⟨⟨row, present, rfl, rfl⟩, kept⟩
    refine ⟨row, Table.mem_delete.mpr ⟨present, ?_⟩, rfl, rfl⟩
    by_cases his : row.userId = userId
    · rw [List.contains_iff_mem.mpr (kept his), Bool.not_true, Bool.and_false]
    · rw [beq_eq_false_iff_ne.mpr his, Bool.false_and]

theorem createAddon_eq (row : UserAddon) (db : Db) :
    db.createAddon row = { db with addons := (db.addons.insert? row).getD db.addons } := by
  unfold createAddon
  split
  · rename_i table inserted
    rw [inserted]
    rfl
  · rename_i taken
    rw [taken]
    rfl

theorem createAddon_grants (row : UserAddon) (other : Id) :
    (db.createAddon row).grants other addon = true ↔
      db.grants other addon = true ∨ row.userId = other ∧ row.addon = addon := by
  rw [createAddon_eq, grants, Table.find_insert_getD, Option.isSome_or, Bool.or_eq_true, grants]
  apply or_congr_right
  rw [← Prod.mk.injEq]
  show (if (row.userId, row.addon) = (other, addon) then some row else none).isSome = true ↔ _
  split
  · rename_i same
    exact iff_of_true rfl same
  · rename_i differs
    exact iff_of_false Bool.false_ne_true differs

theorem foldl_createAddon_grants (other : Id) :
    (addons.foldl (fun db addon => db.createAddon ⟨userId, addon, some enabledById⟩) db).grants
        other addon = true ↔
      db.grants other addon = true ∨ userId = other ∧ addon ∈ addons := by
  induction addons generalizing db with
  | nil => simp only [List.foldl_nil, List.not_mem_nil, and_false, or_false]
  | cons first rest ih =>
      rw [List.foldl_cons, ih, createAddon_grants, List.mem_cons, or_assoc, ← and_or_left,
        @eq_comm _ addon first]

/-- Nothing is inserted over a grant that is there. -/
theorem foldl_createAddon_granted (held : ∀ addon ∈ addons, db.grants userId addon = true) :
    addons.foldl (fun db addon => db.createAddon ⟨userId, addon, some enabledById⟩) db = db := by
  induction addons with
  | nil => rfl
  | cons first rest ih =>
      have taken : db.addons.insert? ⟨userId, first, some enabledById⟩ = none :=
        Table.insert?_eq_none.mpr (held first List.mem_cons_self)
      rw [List.foldl_cons, createAddon_eq, taken, Option.getD_none]
      exact ih fun addon member => held addon (List.mem_cons_of_mem _ member)

end Db

namespace AddonsService

variable {db next : Db} {caller : User} {userId : Id} {addons unique : List AddonKey}

/-- What a member holds, from the rows that are his. -/
theorem mem_held {member : User} {addon : AddonKey} {rows : List UserAddon}
    (his : ∀ row, row ∈ rows ↔ row ∈ db.addons.rows ∧ row.userId = member.id) :
    addon ∈ (if member.isAdmin then AddonKey.values else rows.map UserAddon.addon) ↔
      member.isAdmin = true ∨ db.grants member.id addon = true := by
  split
  · rename_i admin
    exact iff_of_true addon.mem_values (.inl admin)
  · rename_i other
    rw [or_iff_right other, Db.grants_iff, List.mem_map]
    constructor
    · rintro ⟨row, listed, rfl⟩
      obtain ⟨present, own⟩ := (his row).mp listed
      exact ⟨row, present, own, rfl⟩
    · rintro ⟨row, present, own, rfl⟩
      exact ⟨row, (his row).mpr ⟨present, own⟩, rfl⟩

theorem mem_resolveFor {member : User} {addon : AddonKey} :
    addon ∈ resolveFor member db ↔ member.isAdmin = true ∨ db.grants member.id addon = true := by
  refine mem_held fun row => ?_
  rw [Table.mem_select, beq_iff_eq]

theorem lookup_map_id {β : Type} {members : List User} {member : User} (entry : User → β)
    (listed : member ∈ members) (once : ∀ other ∈ members, other.id = member.id → other = member) :
    (members.map fun row => (row.id, entry row)).lookup member.id = some (entry member) := by
  induction members with
  | nil => cases listed
  | cons first rest ih =>
      rw [List.map_cons, List.lookup_cons]
      by_cases same : member.id = first.id
      · rw [once first List.mem_cons_self same.symm, beq_self_eq_true]
      · rw [beq_eq_false_iff_ne.mpr same]
        refine ih ?_ fun other member => once other (List.mem_cons_of_mem _ member)
        rcases List.mem_cons.mp listed with rfl | later
        · exact absurd rfl same
        · exact later

/-- A member's entry in the map of the school. -/
theorem mapForSchool_entry {member : User} (listed : member ∈ db.users.rows) :
    ∃ held, (mapForSchool member.schoolId db).lookup member.id = some held ∧
      ∀ addon, addon ∈ held ↔ addon ∈ resolveFor member db := by
  have found : db.users.find member.id = some member := Table.find_key listed
  refine ⟨_, lookup_map_id _ (Table.mem_select.mpr ⟨listed, beq_self_eq_true _⟩) ?_, fun addon => ?_⟩
  · intro other member same
    exact Table.key_injective (Table.mem_select.mp member).1 listed same
  · rw [mem_resolveFor]
    refine mem_held fun row => ?_
    rw [List.mem_filter, Table.mem_select, beq_iff_eq, beq_iff_eq, and_right_comm,
      and_iff_left_iff_imp]
    -- a row of the member's is a row of the school
    rintro ⟨-, his⟩
    rw [his, Db.schoolOfUser, found, Option.map_some]

/-- The grants become what was asked for, and nobody else's change. -/
theorem setFor_frame (done : setFor caller userId addons db = .ok (unique, next)) :
    ∃ addons, next = { db with addons } := by
  obtain ⟨-, -, -, created, -⟩ := setFor_ok.mp done
  obtain ⟨granted, rfl⟩ := Db.createAddons_frame created
  exact ⟨granted, rfl⟩

theorem setFor_grants (done : setFor caller userId addons db = .ok (unique, next)) (other : Id)
    (addon : AddonKey) : next.grants other addon = true ↔
      if other = userId then addon ∈ addons else db.grants other addon = true := by
  obtain ⟨-, -, -, created, rfl⟩ := setFor_ok.mp done
  obtain ⟨-, rfl⟩ := Db.createAddons_ok.mp created
  rw [Db.foldl_createAddon_grants, Db.deleteAddons_grants]
  simp only [List.mem_eraseDups]
  split
  · rename_i his
    subst his
    tauto
  · rename_i another
    simp only [another, false_implies, and_true, Ne.symm another, false_and, or_false]

/-- Asking for the same again changes nothing. -/
theorem setFor_again (done : setFor caller userId addons db = .ok (unique, next)) :
    setFor caller userId addons next = .ok (unique, next) := by
  have granted := setFor_grants done userId
  obtain ⟨table, frame⟩ := setFor_frame done
  obtain ⟨target, ⟨found, home⟩, tutor, created, rfl⟩ := setFor_ok.mp done
  obtain ⟨present, -⟩ := Db.createAddons_ok.mp created
  have kept : next.deleteAddons userId addons.eraseDups = next := by
    have none : next.addons.delete (fun row => row.userId == userId &&
        !addons.eraseDups.contains row.addon) = next.addons := by
      apply Table.delete_none
      intro row member
      by_cases his : row.userId = userId
      · have held := (granted row.addon).mp (Db.grants_iff.mpr ⟨row, member, his, rfl⟩)
        rw [if_pos rfl, ← List.mem_eraseDups, ← List.contains_iff_mem] at held
        rw [held, Bool.not_true, Bool.and_false]
      · rw [beq_eq_false_iff_ne.mpr his, Bool.false_and]
    rw [Db.deleteAddons, none]
  have again : next.createAddons userId caller.id addons.eraseDups = .ok next := by
    refine Db.createAddons_ok.mpr ⟨?_, Db.foldl_createAddon_granted fun addon member => ?_⟩
    · rw [frame]
      exact present
    · rw [granted, if_pos rfl]
      exact List.mem_eraseDups.mp member
  have there : next.users.find userId = some target := by
    rw [frame]
    exact found
  refine setFor_ok.mpr ⟨target, ⟨there, home⟩, tutor, ?_, rfl⟩
  rw [kept]
  exact again

end AddonsService

section

variable {platform : Platform} {caller : User} {outside : Outside} {userId : Id}
  {addons : List AddonKey} {world : World}

theorem setAddons_run :
    (∃ reason, Command.run platform caller outside (.setAddons userId addons) world =
        ⟨.error reason, world, []⟩) ∨
      ∃ unique next, AddonsService.setFor caller userId addons world.db = .ok (unique, next) ∧
        Command.run platform caller outside (.setAddons userId addons) world =
          ⟨.ok (.addons unique), { world with db := next }, []⟩ := by
  cases done : AddonsService.setFor caller userId addons world.db with
  | error reason =>
      refine .inl ⟨reason, ?_⟩
      simp only [Command.run, done, World.commit]
  | ok value =>
      refine .inr ⟨value.1, value.2, rfl, ?_⟩
      simp only [Command.run, done, World.commit]

end

/-- The guard's view of a member and the school's are one, and replacing replaces: in whatever
state, so in every reachable one. -/
theorem capability_views_agree (platform : Platform) (world : World) :
    (∀ member ∈ world.db.users.rows, ∃ held,
      (AddonsService.mapForSchool member.schoolId world.db).lookup member.id = some held ∧
      (∀ addon, addon ∈ held ↔ addon ∈ AddonsService.resolveFor member world.db) ∧
      (member.isAdmin = true → ∀ addon, addon ∈ held)) ∧
    ∀ caller outside userId addons outcome,
      Command.run platform caller outside (.setAddons userId addons) world = outcome →
      (∀ reason, outcome.result = .error reason → outcome.world = world) ∧
      ∀ response, outcome.result = .ok response → ∃ unique, response = .addons unique ∧
        unique.Nodup ∧ (∀ addon, addon ∈ unique ↔ addon ∈ addons) ∧
        outcome.world.db.users = world.db.users ∧
        (∀ member ∈ outcome.world.db.users.rows, ∀ addon,
          addon ∈ AddonsService.resolveFor member outcome.world.db ↔
            if member.id = userId then addon ∈ addons
            else addon ∈ AddonsService.resolveFor member world.db) ∧
        Command.run platform caller outside (.setAddons userId addons) outcome.world =
          ⟨.ok (.addons unique), outcome.world, []⟩ := by
  constructor
  · intro member listed
    obtain ⟨held, entry, same⟩ := AddonsService.mapForSchool_entry listed
    refine ⟨held, entry, same, fun admin addon => ?_⟩
    rw [same, AddonsService.mem_resolveFor]
    exact .inl admin
  · rintro caller outside userId addons outcome rfl
    rcases @setAddons_run platform caller outside userId addons world
      with ⟨reason, refused⟩ | ⟨unique, next, done, ran⟩
    · rw [refused]
      refine ⟨fun _ _ => rfl, fun response answered => ?_⟩
      cases answered
    · rw [ran]
      refine ⟨fun reason refused => (by cases refused), fun response answered => ?_⟩
      obtain rfl := Except.ok.inj answered
      obtain ⟨table, frame⟩ := AddonsService.setFor_frame done
      obtain ⟨target, ⟨found, -⟩, tutor, -, same⟩ := AddonsService.setFor_ok.mp done
      refine ⟨unique, rfl, ?_, fun addon => ?_, ?_, fun member listed addon => ?_, ?_⟩
      · rw [← same]
        exact nodup_eraseDups addons
      · rw [← same]
        exact List.mem_eraseDups
      · rw [frame]
      · rw [AddonsService.mem_resolveFor, AddonsService.setFor_grants done]
        split
        · -- the member a list can be set for is no admin
          rename_i his
          rw [frame] at listed
          have itself : world.db.users.find userId = some member :=
            Table.find_eq_some.mpr ⟨listed, his⟩
          rw [found, Option.some.injEq] at itself
          rw [← itself, tutor]
          simp only [Bool.false_eq_true, false_or]
        · rw [AddonsService.mem_resolveFor]
      · simp only [Command.run, AddonsService.setFor_again done, World.commit]

end TutorApp
