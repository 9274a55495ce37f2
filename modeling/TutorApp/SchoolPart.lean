import TutorApp.ReadIsolation
import TutorApp.Unwinding

set_option autoImplicit false

namespace TutorApp

open Relational
open TenantOwnership
open Unwinding

namespace Db

variable {db next : Db} {schoolId : Id}

theorem filter_congr {keep other : Row → Bool}
    (same : ∀ row, db.Holds row → keep row = other row) : db.filter keep = db.filter other := by
  simp only [filter, Db.mk.injEq]
  exact ⟨Table.restrict_congr fun row => same (.school row),
    Table.restrict_congr fun row => same (.user row),
    Table.restrict_congr fun row => same (.subject row),
    Table.restrict_congr fun row => same (.student row),
    Table.restrict_congr fun row => same (.group row),
    Table.restrict_congr fun row => same (.member row),
    Table.restrict_congr fun row => same (.lesson row),
    Table.restrict_congr fun row => same (.attendance row),
    Table.restrict_congr fun row => same (.note row),
    Table.restrict_congr fun row => same (.grade row),
    Table.restrict_congr fun row => same (.file row),
    Table.restrict_congr fun row => same (.invitation row),
    Table.restrict_congr fun row => same (.addon row),
    Table.restrict_congr fun row => same (.meetingAccount row),
    List.filter_congr fun row => same (.notification row)⟩

/-- A row that a change leaves is whose it was. -/
theorem belongsTo_kept {other : Id} {row : Row} (confined : Confined schoolId db next)
    (earlier : db.Holds row) (later : next.Holds row) :
    next.belongsTo other row = db.belongsTo other row := by
  rw [Bool.eq_iff_iff, belongsTo_iff, belongsTo_iff]
  exact ⟨confined.belongs_backward earlier later, confined.belongs_forward earlier later⟩

end Db

namespace Slot

variable {ρ κ : Type} [Keyed ρ κ] [DecidableEq κ] (slot : Slot ρ)
variable {db next : Db} {schoolId : Id} {table : Table ρ}

theorem get_restrict (db : Db) (schoolId : Id) : slot.get (db.restrict schoolId) =
    (slot.get db).restrict fun row => db.belongsTo schoolId (slot.row row) :=
  slot.get_filter _ _

theorem find_part {k : κ} (mine : ∀ row ∈ (slot.get db).find k, db.Belongs schoolId (slot.row row)) :
    (slot.get (db.restrict schoolId)).find k = (slot.get db).find k := by
  rw [slot.get_restrict, Table.find_restrict]
  cases found : (slot.get db).find k with
  | none => rfl
  | some row => exact Option.filter_some_pos (Db.belongsTo_iff.mpr (mine row found))

/-- A table that did not change has the same part. -/
theorem same_part {other : Id} (confined : Db.Confined other db next)
    (same : slot.get next = slot.get db) :
    slot.get (next.restrict schoolId) = slot.get (db.restrict schoolId) := by
  rw [slot.get_restrict, slot.get_restrict, same]
  apply Table.restrict_congr
  intro row member
  exact Db.belongsTo_kept confined ((slot.holds_get db row).mpr member)
    ((slot.holds_get next row).mpr (same ▸ member))

theorem delete_part {hit other : ρ → Bool} (confined : Db.Confined schoolId db next)
    (deleted : slot.get next = (slot.get db).delete hit)
    (agree : ∀ row ∈ (slot.get db).rows, db.Belongs schoolId (slot.row row) →
      other row = hit row) :
    slot.get (next.restrict schoolId) = (slot.get (db.restrict schoolId)).delete other := by
  rw [slot.get_restrict, slot.get_restrict, deleted]
  refine Table.restrict_delete (fun row member stays => ?_) fun row member part =>
    agree row member (Db.belongsTo_iff.mp part)
  have later : row ∈ (slot.get next).rows := deleted ▸ Table.mem_delete.mpr ⟨member, stays⟩
  exact Db.belongsTo_kept confined ((slot.holds_get db row).mpr member)
    ((slot.holds_get next row).mpr later)

/-- A rewritten row is the school's if and only if the row it was is. -/
theorem update_part {hit other : ρ → Bool} {change : ρ → ρ}
    {keeps : ∀ row, key (change row) = key row} (confined : Db.Confined schoolId db next)
    (updated : slot.get next = (slot.get db).update hit change keeps)
    (agree : ∀ row ∈ (slot.get db).rows, db.Belongs schoolId (slot.row row) →
      other row = hit row) :
    slot.get (next.restrict schoolId) =
      (slot.get (db.restrict schoolId)).update other change keeps := by
  rw [slot.get_restrict, slot.get_restrict, updated]
  refine Table.restrict_update (fun row member => ?_) fun row member part =>
    agree row member (Db.belongsTo_iff.mp part)
  have present := (slot.holds_get db row).mpr member
  have became : next.Holds (slot.row (if hit row then change row else row)) := by
    rw [slot.holds_get, updated]
    exact List.mem_map_of_mem member
  have sameKey : key (if hit row then change row else row) = key row := by
    split
    · exact keeps row
    · rfl
  by_cases unchanged : (if hit row then change row else row) = row
  · rw [unchanged] at became ⊢
    exact Db.belongsTo_kept confined present became
  · have gone : ¬next.Holds (slot.row row) := by
      intro stays
      rw [slot.holds_get] at stays became
      exact unchanged (Table.key_injective became stays sameKey)
    have new : ¬db.Holds (slot.row (if hit row then change row else row)) := by
      intro old
      exact unchanged (Table.key_injective ((slot.holds_get db _).mp old) member sameKey)
    rw [Db.belongsTo_iff.mpr ((confined.lost _ present).resolve_left gone),
      Db.belongsTo_iff.mpr ((confined.fresh _ became).resolve_left new)]

theorem insert_part {row : ρ} (confined : Db.Confined schoolId db next)
    (inserted : (slot.get db).insert? row = some (slot.get next)) :
    (slot.get (db.restrict schoolId)).insert? row = some (slot.get (next.restrict schoolId)) := by
  have there : ∀ other, next.Holds (slot.row other) ↔ db.Holds (slot.row other) ∨ other = row := by
    intro other
    rw [slot.holds_get, slot.holds_get, Table.mem_insert inserted]
  rw [slot.get_restrict, slot.get_restrict]
  refine Table.insert_restrict inserted ?_ fun other member => ?_
  · have new : ¬db.Holds (slot.row row) := by
      intro old
      have free := (Table.insert?_eq_some.mp inserted).1
      exact Table.find_eq_none.mp free row ((slot.holds_get db row).mp old) rfl
    exact Db.belongsTo_iff.mpr ((confined.fresh _ ((there row).mpr (.inr rfl))).resolve_left new)
  · have present := (slot.holds_get db other).mpr member
    exact Db.belongsTo_kept confined present ((there other).mpr (.inl present))

/-- A change of one table changes the part in that table. -/
theorem set_part (confined : Db.Confined schoolId db (slot.set db table)) :
    (slot.set db table).restrict schoolId =
      slot.set (db.restrict schoolId) (slot.get ((slot.set db table).restrict schoolId)) := by
  have around : slot.set (db.filter ((slot.set db table).belongsTo schoolId)) .empty =
      slot.set (db.filter (db.belongsTo schoolId)) .empty := by
    have emptied : ∀ keep, slot.set (db.filter keep) .empty = (slot.set db .empty).filter keep :=
      fun keep => (slot.filter_set keep db .empty).symm
    rw [emptied, emptied]
    apply Db.filter_congr
    intro row present
    have kind : slot.ofRow row = none := by
      cases kind : slot.ofRow row with
      | none => rfl
      | some mine =>
          obtain rfl := slot.row_ofRow row mine kind
          cases (slot.holds_set db .empty mine).mp present
    rw [slot.holds_other db .empty row kind] at present
    exact Db.belongsTo_kept confined present ((slot.holds_other db table row kind).mpr present)
  rw [Db.restrict, Db.restrict, slot.filter_set, slot.get_set,
    ← slot.set_set _ .empty, around, slot.set_set]

theorem set_update_part {hit : ρ → Bool} {change : ρ → ρ}
    {keeps : ∀ row, key (change row) = key row}
    (confined : Db.Confined schoolId db (slot.set db ((slot.get db).update hit change keeps))) :
    (slot.set db ((slot.get db).update hit change keeps)).restrict schoolId =
      slot.set (db.restrict schoolId)
        ((slot.get (db.restrict schoolId)).update hit change keeps) := by
  rw [slot.set_part confined]
  exact congrArg _ (slot.update_part confined (slot.get_set db _) fun _ _ _ => rfl)

theorem set_delete_part {hit : ρ → Bool}
    (confined : Db.Confined schoolId db (slot.set db ((slot.get db).delete hit))) :
    (slot.set db ((slot.get db).delete hit)).restrict schoolId =
      slot.set (db.restrict schoolId) ((slot.get (db.restrict schoolId)).delete hit) := by
  rw [slot.set_part confined]
  exact congrArg _ (slot.delete_part confined (slot.get_set db _) fun _ _ _ => rfl)

/-- An insertion whose key no row of another school has goes the same on the part. -/
theorem create_follows {row : ρ}
    (free : ∀ other ∈ (slot.get db).rows, key other = key row →
      db.Belongs schoolId (slot.row other))
    (confined : ∀ table, (slot.get db).insert? row = some table →
      Db.Confined schoolId db (slot.set db table)) :
    Follows (fun db => db.restrict schoolId)
      (createRow (slot.get (db.restrict schoolId)) row >>= fun table =>
        pure (slot.set (db.restrict schoolId) table))
      (createRow (slot.get db) row >>= fun table => pure (slot.set db table)) := by
  cases inserted : (slot.get db).insert? row with
  | some table =>
      have within := confined table inserted
      have part := slot.insert_part within (inserted.trans (congrArg some (slot.get_set db table).symm))
      simp only [createRow, inserted, part, ok_bind]
      rw [← slot.set_part within]
      exact Follows.ok _
  | none =>
      obtain ⟨other, found⟩ := Option.isSome_iff_exists.mp (Table.insert?_eq_none.mp inserted)
      have mine : ∀ other ∈ (slot.get db).find (key row), db.Belongs schoolId (slot.row other) := by
        intro other found
        obtain ⟨member, same⟩ := Table.find_eq_some.mp found
        exact free other member same
      have taken : (slot.get (db.restrict schoolId)).insert? row = none := by
        rw [Table.insert?_eq_none, slot.find_part mine, found]
        rfl
      simp only [createRow, inserted, taken, error_bind]
      exact Follows.error _

/-- A row of the school is updated the same on the part. -/
theorem update_follows {k : κ} {change : ρ → ρ} {keeps : ∀ row, key (change row) = key row}
    (mine : ∀ row ∈ (slot.get db).find k, db.Belongs schoolId (slot.row row))
    (confined : ∀ table, updateRow (slot.get db) k change keeps = .ok table →
      Db.Confined schoolId db (slot.set db table)) :
    Follows (fun db => db.restrict schoolId)
      (updateRow (slot.get (db.restrict schoolId)) k change keeps >>= fun table =>
        pure (slot.set (db.restrict schoolId) table))
      (updateRow (slot.get db) k change keeps >>= fun table => pure (slot.set db table)) := by
  simp only [updateRow, slot.find_part mine]
  cases found : ((slot.get db).find k).isSome with
  | false => exact Follows.error _
  | true =>
      have within := confined _ (updateRow_ok.mpr ⟨found, rfl⟩)
      simp only [require, if_pos, ok_bind, pure_bind]
      rw [← slot.set_update_part within]
      exact Follows.ok _

theorem delete_follows {k : κ}
    (mine : ∀ row ∈ (slot.get db).find k, db.Belongs schoolId (slot.row row))
    (confined : ∀ table, deleteRow (slot.get db) k = .ok table →
      Db.Confined schoolId db (slot.set db table)) :
    Follows (fun db => db.restrict schoolId)
      (deleteRow (slot.get (db.restrict schoolId)) k >>= fun table =>
        pure (slot.set (db.restrict schoolId) table))
      (deleteRow (slot.get db) k >>= fun table => pure (slot.set db table)) := by
  simp only [deleteRow, slot.find_part mine]
  cases found : ((slot.get db).find k).isSome with
  | false => exact Follows.error _
  | true =>
      have within := confined _ (deleteRow_ok.mpr ⟨found, rfl⟩)
      simp only [require, if_pos, ok_bind, pure_bind]
      rw [← slot.set_delete_part within]
      exact Follows.ok _

end Slot

/-- A value that no two rows of a table share. -/
inductive Mark where
  | id (value : Id)
  | slug (value : String)
  | email (value : String)
  | token (value : String)
  | storageKey (value : String)
  deriving Repr, DecidableEq

def Row.marks : Row → List Mark
  | school row => [.id row.id, .slug row.slug]
  | user row => [.id row.id, .email row.email]
  | subject row => [.id row.id]
  | student row => [.id row.id]
  | group row => [.id row.id]
  | lesson row => [.id row.id]
  | note row => [.id row.id]
  | grade row => [.id row.id]
  | file row => [.id row.id, .storageKey row.storageKey]
  | invitation row => [.id row.id, .token row.token]
  | meetingAccount row => [.id row.id]
  | member _ | attendance _ | addon _ | notification _ => []

/-- No row of another school has the value. -/
def Db.Unclaimed (db : Db) (schoolId : Id) (mark : Mark) : Prop :=
  ∀ row, db.Holds row → mark ∈ row.marks → db.Belongs schoolId row

namespace Disk

/-- Two storages hold the same where some files point, and where an unfinished one does. -/
structure Agrees (files : Table File) (left right : Disk) : Prop where
  pending : left pendingKey = right pendingKey
  named : ∀ row ∈ files.rows, left row.storageKey = right row.storageKey

variable {files more : Table File} {left right : Disk}

theorem Agrees.grow (agrees : Agrees files left right)
    (rows : ∀ row ∈ more.rows, row ∈ files.rows ∨ left row.storageKey = right row.storageKey) :
    Agrees more left right where
  pending := agrees.pending
  named row member := by
    rcases rows row member with old | same
    · exact agrees.named row old
    · exact same

/-- The same is stored or removed under one name. -/
theorem Agrees.update (agrees : Agrees files left right) (name : String)
    (contents : Option (List UInt8)) :
    Agrees files (Function.update left name contents) (Function.update right name contents) := by
  have still : ∀ other, left other = right other →
      Function.update left name contents other = Function.update right name contents other := by
    intro other same
    by_cases hit : other = name
    · rw [hit, Function.update_self, Function.update_self]
    · rw [Function.update_of_ne hit, Function.update_of_ne hit, same]
  exact ⟨still _ agrees.pending, fun row member => still _ (agrees.named row member)⟩

end Disk

/-- A state has a school's part of the rows, and the bytes these point to. -/
structure World.Shows (part : World) (schoolId : Id) (whole : World) : Prop where
  db : part.db = whole.db.restrict schoolId
  disk : Disk.Agrees part.db.files part.disk whole.disk

end TutorApp
