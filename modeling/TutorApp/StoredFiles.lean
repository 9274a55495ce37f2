import TutorApp.Uploads

set_option autoImplicit false

namespace TutorApp

open Relational
open FilesService

/-- A row as the calls that have read it know it: under the placeholder or a key of its own, with
the length of what it was drawn for. -/
structure File.Known {τ : Type} (state : Uploads τ) (file : File) : Prop where
  drawn : file.id ∈ state.drawn
  plain : '/' ∉ file.id.toList
  key : file.storageKey = pendingKey ∨ file.storageKey = keyFor file.schoolId file.id
  sized : (state.sent file.id).length = file.sizeBytes

/-- What a call relies on between its steps: that the bytes it holds are its row's, that the row is
still of the school it was drawn for, that bytes once saved stay as long as the row does, and
that a row whose bytes are to be erased is gone. -/
def UploadPhase.Held {τ : Type} (state : Uploads τ) : UploadPhase → Prop
  | .asked _ _ incoming | .measuring _ _ incoming | .inserting _ _ incoming =>
      incoming.size = incoming.buffer.length
  | .saving row contents => row.Known state ∧ contents = state.sent row.id ∧
      ∀ other ∈ state.db.files.rows, other.id = row.id → other.schoolId = row.schoolId
  | .finalising row => row.Known state ∧
      ∀ other ∈ state.db.files.rows, other.id = row.id → other.schoolId = row.schoolId ∧
        state.disk (keyFor row.schoolId row.id) = some (state.sent row.id)
  | .deleting file | .reading file => file.Known state
  | .erasing file => file.Known state ∧ ∀ other ∈ state.db.files.rows, other.id ≠ file.id
  | .opened file contents => file.Known state ∧ contents = state.sent file.id
  | _ => True

/-- Under every key the bytes its row was drawn for, nothing under the placeholder, and the rows
whose upload is finished with theirs in the store. -/
structure Uploads.Filed {τ : Type} (state : Uploads τ) : Prop where
  named : ∀ schoolId id contents, '/' ∉ id.toList →
    state.disk (keyFor schoolId id) = some contents → id ∈ state.drawn ∧ contents = state.sent id
  unnamed : state.disk pendingKey = none
  known : ∀ row ∈ state.db.files.rows, row.Known state
  stored : ∀ row ∈ state.db.files.rows, row.uploadedAt.isSome = true →
    row.storageKey = keyFor row.schoolId row.id ∧
      state.disk row.storageKey = some (state.sent row.id)
  once : ∀ left ∈ state.db.files.rows, ∀ right ∈ state.db.files.rows,
    left.storageKey = pendingKey → right.storageKey = pendingKey → left = right
  held : ∀ t, (state.calls t).Held state

/-- What a step does to the ids and the bytes that are there: ids stay drawn for what they were,
rows keep their school, and the bytes of a row that is left stay. -/
structure Uploads.Passes {τ : Type} (state after : Uploads τ) : Prop where
  drawn : ∀ id ∈ state.drawn, id ∈ after.drawn ∧ after.sent id = state.sent id
  rows : ∀ row ∈ after.db.files.rows, row.id ∈ state.drawn →
    ∃ old ∈ state.db.files.rows, old.id = row.id ∧ old.schoolId = row.schoolId
  disk : ∀ schoolId id, '/' ∉ id.toList → id ∈ state.drawn →
    (∃ row ∈ after.db.files.rows, row.id = id) →
    state.disk (keyFor schoolId id) = some (state.sent id) →
    after.disk (keyFor schoolId id) = some (state.sent id)

section

variable {platform : Platform} {τ : Type} {state after : Uploads τ} {file : File}
  {phase : UploadPhase}

theorem File.Known.pass (known : file.Known state) (passes : state.Passes after) :
    file.Known after := by
  obtain ⟨drawn, same⟩ := passes.drawn file.id known.drawn
  exact ⟨drawn, known.plain, known.key, same ▸ known.sized⟩

/-- What a call relies on survives the steps of the others. -/
theorem UploadPhase.Held.pass (held : phase.Held state) (passes : state.Passes after) :
    phase.Held after := by
  cases phase with
  | asked | measuring | inserting => exact held
  | saving row contents =>
      obtain ⟨known, sent, school⟩ := held
      refine ⟨known.pass passes, ?_, fun other member same => ?_⟩
      · rw [(passes.drawn row.id known.drawn).2]
        exact sent
      · obtain ⟨old, present, id, itsSchool⟩ := passes.rows other member (same ▸ known.drawn)
        exact itsSchool ▸ school old present (id.trans same)
  | finalising row =>
      obtain ⟨known, kept⟩ := held
      refine ⟨known.pass passes, fun other member same => ?_⟩
      obtain ⟨old, present, id, itsSchool⟩ := passes.rows other member (same ▸ known.drawn)
      obtain ⟨school, saved⟩ := kept old present (id.trans same)
      refine ⟨itsSchool ▸ school, ?_⟩
      rw [(passes.drawn row.id known.drawn).2]
      exact passes.disk _ _ known.plain known.drawn ⟨other, member, same⟩ saved
  | deleting file => exact held.pass passes
  | reading file => exact held.pass passes
  | erasing file =>
      obtain ⟨known, gone⟩ := held
      refine ⟨known.pass passes, fun other member same => ?_⟩
      obtain ⟨old, present, id, -⟩ := passes.rows other member (same ▸ known.drawn)
      exact gone old present (id.trans same)
  | opened file contents =>
      obtain ⟨known, sent⟩ := held
      refine ⟨known.pass passes, ?_⟩
      rw [(passes.drawn file.id known.drawn).2]
      exact sent
  | _ => trivial

/-- Two rows never share a key: one under the placeholder at most, and keys of their own apart. -/
theorem Uploads.Filed.distinct (filed : state.Filed) {left right : File}
    (first : left ∈ state.db.files.rows) (second : right ∈ state.db.files.rows)
    (same : left.storageKey = right.storageKey) : left = right := by
  have leftKnown := filed.known left first
  have rightKnown := filed.known right second
  rcases leftKnown.key with pending | own
  · exact filed.once left first right second pending (same ▸ pending)
  · rcases rightKnown.key with pending | itsOwn
    · exact filed.once left first right second (same.trans pending) pending
    · apply Table.key_injective first second
      exact keyFor_injective leftKnown.plain rightKnown.plain (own.symm.trans (same.trans itsOwn))

theorem findReachable_member {user : User} {id : Id} {db : Db}
    (success : findReachable user id db = .ok file) : file ∈ db.files.rows :=
  (Table.find_eq_some.mp (findReachable_school success).1).1

theorem found_held (filed : state.Filed) (userId id : Id) : (found userId id state.db).Held state := by
  unfold found
  split
  · trivial
  · split
    · rename_i file success
      simp only [removable, bind_ok, pure_ok] at success
      obtain ⟨_, reached, _, -, rfl⟩ := success
      exact filed.known _ (findReachable_member reached)
    · trivial

theorem sought_held (filed : state.Filed) (userId id : Id) :
    (sought userId id state.db).Held state := by
  unfold sought
  split
  · trivial
  · split
    · rename_i success
      exact filed.known _ (findReachable_member success)
    · trivial

/-- What is read under a row's key was sent for that row. -/
theorem readBytes_held (filed : state.Filed) (known : file.Known state) :
    (readBytes file state.disk).Held state := by
  unfold readBytes
  split
  · rename_i contents read
    refine ⟨known, ?_⟩
    rcases known.key with pending | own
    · rw [pending, filed.unnamed] at read
      cases read
    · rw [own] at read
      exact (filed.named _ _ _ known.plain read).2
  · trivial

theorem admitted_held {userId : Id} {place : UploadPlace} {incoming : IncomingFile}
    (sized : incoming.size = incoming.buffer.length) :
    (admitted platform userId place incoming state.db).Held state := by
  unfold admitted
  split
  · trivial
  · split
    · exact sized
    · trivial

theorem measured_held {user : User} {target : UploadTarget} {incoming : IncomingFile}
    (sized : incoming.size = incoming.buffer.length) :
    (measured platform user target incoming state.db).Held state := by
  unfold measured
  split
  · exact sized
  · trivial

variable [DecidableEq τ] {t : τ}

/-- What a step has to show: the state it leaves between calls, and what its own call holds. -/
theorem Uploads.Filed.move (filed : state.Filed)
    (others : ∀ other, other ≠ t → after.calls other = state.calls other) (passes : state.Passes after)
    (named : ∀ schoolId id contents, '/' ∉ id.toList →
      after.disk (keyFor schoolId id) = some contents → id ∈ after.drawn ∧ contents = after.sent id)
    (unnamed : after.disk pendingKey = none)
    (known : ∀ row ∈ after.db.files.rows, row.Known after)
    (stored : ∀ row ∈ after.db.files.rows, row.uploadedAt.isSome = true →
      row.storageKey = keyFor row.schoolId row.id ∧
        after.disk row.storageKey = some (after.sent row.id))
    (once : ∀ left ∈ after.db.files.rows, ∀ right ∈ after.db.files.rows,
      left.storageKey = pendingKey → right.storageKey = pendingKey → left = right)
    (held : (after.calls t).Held after) : after.Filed where
  named := named
  unnamed := unnamed
  known := known
  stored := stored
  once := once
  held other := by
    by_cases same : other = t
    · exact same ▸ held
    · rw [others other same]
      exact (filed.held other).pass passes

/-- A step that moves its call on and touches nothing. -/
theorem Uploads.Filed.put (filed : state.Filed) (held : phase.Held state) :
    (state.put t phase).Filed := by
  have passes : state.Passes (state.put t phase) :=
    ⟨fun id member => ⟨member, rfl⟩, fun row member _ => ⟨row, member, rfl, rfl⟩,
      fun _ _ _ _ _ saved => saved⟩
  refine filed.move (fun _ => Uploads.put_other) passes filed.named filed.unnamed
    (fun row member => (filed.known row member).pass passes) filed.stored filed.once ?_
  rw [Uploads.put_self]
  exact held.pass passes

/-- A row is inserted only where no other is under its key. -/
theorem createFile_unplaced {row : File} {db next : Db} (created : db.createFile row = .ok next) :
    ∀ other ∈ db.files.rows, other.storageKey ≠ row.storageKey := by
  obtain ⟨-, -, others, -⟩ := Db.createFile_ok.mp created
  exact others

theorem filed_insert {draw : Draw} {user : User} {target : UploadTarget}
    {incoming : IncomingFile} (inserting : state.calls t = .inserting user target incoming)
    (new : draw.id ∉ state.drawn) (plain : '/' ∉ draw.id.toList) (filed : state.Filed) :
    ((state.draw draw.id incoming.buffer).leave t
      (inserted user draw target incoming state.db)).Filed := by
  have sized : incoming.size = incoming.buffer.length := by
    have held := filed.held t
    rw [inserting] at held
    exact held
  have older : ∀ id ∈ state.drawn,
      Function.update state.sent draw.id incoming.buffer id = state.sent id := by
    intro id member
    apply Function.update_of_ne
    rintro rfl
    exact new member
  have passes : ∀ phase (files : Table File), (∀ row ∈ files.rows, row.id ∈ state.drawn →
      row ∈ state.db.files.rows) → state.Passes ((state.draw draw.id incoming.buffer).leave t
        (phase, { state.db with files })) :=
    fun phase files rows => ⟨fun id member => ⟨List.mem_cons_of_mem _ member, older id member⟩,
      fun row member drawn => ⟨row, rows row member drawn, rfl, rfl⟩, fun _ _ _ _ _ saved => saved⟩
  have others : ∀ other, other ≠ t → ((state.draw draw.id incoming.buffer).leave t
      (inserted user draw target incoming state.db)).calls other = state.calls other :=
    fun other different => Function.update_of_ne different ..
  have named : ∀ schoolId id contents, '/' ∉ id.toList →
      state.disk (keyFor schoolId id) = some contents → id ∈ draw.id :: state.drawn ∧
        contents = Function.update state.sent draw.id incoming.buffer id := by
    intro schoolId id contents plain read
    obtain ⟨drawn, sent⟩ := filed.named schoolId id contents plain read
    exact ⟨List.mem_cons_of_mem _ drawn, sent.trans (older id drawn).symm⟩
  have stored : ∀ row ∈ state.db.files.rows, row.uploadedAt.isSome = true →
      row.storageKey = keyFor row.schoolId row.id ∧ state.disk row.storageKey =
        some (Function.update state.sent draw.id incoming.buffer row.id) := by
    intro row member uploaded
    rw [older row.id (filed.known row member).drawn]
    exact filed.stored row member uploaded
  unfold inserted at others ⊢
  cases created : state.db.createFile (pendingRow user draw target incoming) with
  | error reason =>
      rw [created] at others
      have passed := passes (.broken reason) state.db.files fun _ member _ => member
      exact filed.move others passed named filed.unnamed
        (fun row member => (filed.known row member).pass passed) stored filed.once
        (by rw [Uploads.leave_self]; trivial)
  | ok next =>
      rw [created] at others
      obtain ⟨-, -, -, files, added, rfl⟩ := Db.createFile_ok.mp created
      have members : ∀ {row}, row ∈ files.rows ↔ row ∈ state.db.files.rows ∨
          row = pendingRow user draw target incoming := Table.mem_insert added
      have unplaced := createFile_unplaced created
      have passed := passes (.saving (pendingRow user draw target incoming) incoming.buffer) files
        fun row member drawn => by
          rcases members.mp member with old | rfl
          · exact old
          · exact absurd drawn new
      have itsKnown : (pendingRow user draw target incoming).Known
          ((state.draw draw.id incoming.buffer).leave t
            (.saving (pendingRow user draw target incoming) incoming.buffer,
              { state.db with files })) := by
        refine ⟨List.mem_cons_self, plain, .inl rfl, ?_⟩
        show (Function.update state.sent draw.id incoming.buffer draw.id).length = incoming.size
        rw [Function.update_self, sized]
      refine filed.move others passed named filed.unnamed ?_ ?_ ?_ ?_
      · intro row member
        rcases members.mp member with old | rfl
        · exact (filed.known row old).pass passed
        · exact itsKnown
      · intro row member uploaded
        rcases members.mp member with old | rfl
        · exact stored row old uploaded
        · cases uploaded
      · -- the insert is refused while another row is under the placeholder
        intro left first right second itsKey sameKey
        rcases members.mp first with old | rfl
        · exact absurd itsKey (unplaced left old)
        · rcases members.mp second with old | rfl
          · exact absurd sameKey (unplaced right old)
          · rfl
      · rw [Uploads.leave_self]
        refine ⟨itsKnown, ?_, fun other member same => ?_⟩
        · show incoming.buffer = Function.update state.sent draw.id incoming.buffer draw.id
          rw [Function.update_self]
        · rcases members.mp member with old | rfl
          · have drawn := (filed.known other old).drawn
            rw [show other.id = draw.id from same] at drawn
            exact absurd drawn new
          · rfl

theorem filed_save {row : File} {contents : List UInt8}
    (saving : state.calls t = .saving row contents) (filed : state.Filed) :
    (Uploads.put { state with disk := state.disk.put (keyFor row.schoolId row.id) contents } t
      (.finalising row)).Filed := by
  have held := filed.held t
  rw [saving] at held
  obtain ⟨known, rfl, school⟩ := held
  -- whoever else the key is for is drawn for the same bytes
  have written : ∀ schoolId id contents, '/' ∉ id.toList →
      (state.disk.put (keyFor row.schoolId row.id) (state.sent row.id)) (keyFor schoolId id) =
        some contents → state.disk (keyFor schoolId id) = some contents ∨
          id = row.id ∧ contents = state.sent id := by
    intro schoolId id contents plain read
    by_cases same : keyFor schoolId id = keyFor row.schoolId row.id
    · obtain rfl := keyFor_injective plain known.plain same
      rw [Disk.put, same, Function.update_self, Option.some.injEq] at read
      exact .inr ⟨rfl, read.symm⟩
    · rw [Disk.put, Function.update_of_ne same] at read
      exact .inl read
  have kept : ∀ schoolId id, '/' ∉ id.toList →
      state.disk (keyFor schoolId id) = some (state.sent id) →
      (state.disk.put (keyFor row.schoolId row.id) (state.sent row.id)) (keyFor schoolId id) =
        some (state.sent id) := by
    intro schoolId id plain saved
    by_cases same : keyFor schoolId id = keyFor row.schoolId row.id
    · obtain rfl := keyFor_injective plain known.plain same
      rw [Disk.put, same, Function.update_self]
    · rw [Disk.put, Function.update_of_ne same, saved]
  refine filed.move (fun _ => Uploads.put_other) ?_ ?_ ?_ ?_ ?_ filed.once ?_
  · exact ⟨fun id member => ⟨member, rfl⟩, fun other member _ => ⟨other, member, rfl, rfl⟩,
      fun schoolId id plain _ _ saved => kept schoolId id plain saved⟩
  · intro schoolId id contents plain read
    rcases written schoolId id contents plain read with before | ⟨rfl, sent⟩
    · exact filed.named schoolId id contents plain before
    · exact ⟨known.drawn, sent⟩
  · show (state.disk.put _ _) pendingKey = none
    rw [Disk.put, Function.update_of_ne (keyFor_ne_pending _ _).symm, filed.unnamed]
  · intro other member
    have before := filed.known other member
    exact ⟨before.drawn, before.plain, before.key, before.sized⟩
  · intro other member uploaded
    obtain ⟨own, saved⟩ := filed.stored other member uploaded
    refine ⟨own, ?_⟩
    rw [own] at saved ⊢
    exact kept _ _ (filed.known other member).plain saved
  · rw [Uploads.put_self]
    refine ⟨⟨known.drawn, known.plain, known.key, known.sized⟩, fun other member same => ?_⟩
    refine ⟨school other member same, ?_⟩
    show (state.disk.put _ _) _ = _
    rw [Disk.put, Function.update_self]
    rfl

theorem filed_finalise {draw : Draw} {row : File}
    (finalising : state.calls t = .finalising row) (filed : state.Filed) :
    (state.leave t (finalised draw row state.db)).Filed := by
  have held := filed.held t
  rw [finalising] at held
  obtain ⟨known, kept⟩ := held
  unfold finalised
  cases finished : finishUpload draw row state.db with
  | error reason => exact filed.put trivial
  | ok result =>
      obtain ⟨done, next⟩ := result
      obtain ⟨files, rfl, rows⟩ := finishUpload_files finished
      have members : ∀ {other}, other ∈ files.rows → ∃ old ∈ state.db.files.rows,
          old.id = other.id ∧ old.schoolId = other.schoolId ∧ old.sizeBytes = other.sizeBytes ∧
          (old.id = row.id ∧ other.storageKey = keyFor row.schoolId row.id ∧
              other.storageKey = keyFor other.schoolId other.id ∨ other = old) := by
        intro other member
        rw [rows] at member
        obtain ⟨old, present, rfl⟩ := List.mem_map.mp member
        refine ⟨old, present, ?_⟩
        split
        · rename_i same
          refine ⟨rfl, rfl, rfl, .inl ⟨same, rfl, ?_⟩⟩
          show keyFor row.schoolId row.id = keyFor old.schoolId old.id
          rw [(kept old present same).1, same]
        · exact ⟨rfl, rfl, rfl, .inr rfl⟩
      have passed : state.Passes (state.leave t (.stored done, { state.db with files })) :=
        ⟨fun id member => ⟨member, rfl⟩, fun other member _ => by
          obtain ⟨old, present, id, school, -⟩ := members member
          exact ⟨old, present, id, school⟩, fun _ _ _ _ _ saved => saved⟩
      refine filed.move (fun other different => Function.update_of_ne different ..) passed
        filed.named filed.unnamed ?_ ?_ ?_ ?_
      · intro other member
        obtain ⟨old, present, id, -, size, ⟨-, -, own⟩ | rfl⟩ := members member
        · have before := filed.known old present
          refine ⟨id ▸ before.drawn, id ▸ before.plain, .inr own, ?_⟩
          show (state.sent other.id).length = other.sizeBytes
          rw [← id, ← size]
          exact before.sized
        · exact (filed.known other present).pass passed
      · intro other member uploaded
        obtain ⟨old, present, id, -, -, ⟨same, written, own⟩ | rfl⟩ := members member
        · refine ⟨own, ?_⟩
          show state.disk other.storageKey = some (state.sent other.id)
          rw [written, ← id, same]
          exact (kept old present same).2
        · exact filed.stored other present uploaded
      · -- a finished row has left the placeholder
        have unmoved : ∀ {other}, other ∈ files.rows → other.storageKey = pendingKey →
            other ∈ state.db.files.rows := by
          intro other member itsKey
          obtain ⟨old, present, -, -, -, ⟨-, written, -⟩ | rfl⟩ := members member
          · exact absurd (written.symm.trans itsKey) (keyFor_ne_pending _ _)
          · exact present
        intro left first right second itsKey sameKey
        exact filed.once left (unmoved first itsKey) right (unmoved second sameKey) itsKey sameKey
      · rw [Uploads.leave_self]
        trivial

theorem filed_delete (deleting : state.calls t = .deleting file) (filed : state.Filed) :
    (state.leave t (deleted file state.db)).Filed := by
  have held := filed.held t
  rw [deleting] at held
  unfold deleted
  cases gone : state.db.deleteFile file.id with
  | error reason => exact filed.put trivial
  | ok next =>
      obtain rfl := deleteFile_files gone
      have members : ∀ {row}, row ∈ (state.db.files.delete fun row =>
          decide (row.id = file.id)).rows → row ∈ state.db.files.rows ∧ row.id ≠ file.id := by
        intro row member
        simpa using member
      have passed : state.Passes (state.leave t (.erasing file,
          { state.db with files := state.db.files.delete fun row => decide (row.id = file.id) })) :=
        ⟨fun id member => ⟨member, rfl⟩, fun row member _ => ⟨row, (members member).1, rfl, rfl⟩,
          fun _ _ _ _ _ saved => saved⟩
      refine filed.move (fun other different => Function.update_of_ne different ..) passed
        filed.named filed.unnamed ?_ ?_ ?_ ?_
      · intro row member
        exact (filed.known row (members member).1).pass passed
      · intro row member
        exact filed.stored row (members member).1
      · intro left first right second
        exact filed.once left (members first).1 right (members second).1
      · rw [Uploads.leave_self]
        exact ⟨held.pass passed, fun row member => (members member).2⟩

/-- The bytes that are erased are those of a row that is gone. -/
theorem filed_erase (erasing : state.calls t = .erasing file) (filed : state.Filed) :
    (Uploads.put { state with disk := state.disk.remove file.storageKey } t .removed).Filed := by
  have held := filed.held t
  rw [erasing] at held
  obtain ⟨known, gone⟩ := held
  have left : ∀ key, key ≠ file.storageKey →
      (state.disk.remove file.storageKey) key = state.disk key :=
    fun key different => Function.update_of_ne different ..
  have elsewhere : ∀ schoolId id, '/' ∉ id.toList → (∃ row ∈ state.db.files.rows, row.id = id) →
      keyFor schoolId id ≠ file.storageKey := by
    rintro schoolId id plain ⟨row, member, rfl⟩ same
    rcases known.key with pending | own
    · exact keyFor_ne_pending _ _ (same.trans pending)
    · exact gone row member (keyFor_injective plain known.plain (same.trans own))
  have passed : state.Passes (Uploads.put { state with
      disk := state.disk.remove file.storageKey } t .removed) := by
    refine ⟨fun id member => ⟨member, rfl⟩, fun row member _ => ⟨row, member, rfl, rfl⟩, ?_⟩
    intro schoolId id plain _ present saved
    exact (left _ (elsewhere schoolId id plain present)).trans saved
  have remains : ∀ key contents, (state.disk.remove file.storageKey) key = some contents →
      state.disk key = some contents := by
    intro key contents read
    by_cases same : key = file.storageKey
    · rw [same, Disk.remove, Function.update_self] at read
      cases read
    · rwa [left key same] at read
  refine filed.move (fun _ => Uploads.put_other) passed ?_ ?_ ?_ ?_ filed.once ?_
  · intro schoolId id contents plain read
    exact filed.named schoolId id contents plain (remains _ _ read)
  · cases read : (state.disk.remove file.storageKey) pendingKey with
    | none => exact read
    | some contents =>
        have before := remains _ _ read
        rw [filed.unnamed] at before
        cases before
  · intro row member
    exact (filed.known row member).pass passed
  · intro row member uploaded
    obtain ⟨own, saved⟩ := filed.stored row member uploaded
    refine ⟨own, ?_⟩
    show (state.disk.remove file.storageKey) row.storageKey = _
    rw [left, saved]
    · rfl
    · rw [own]
      exact elsewhere _ _ (filed.known row member).plain ⟨row, member, rfl⟩
  · rw [Uploads.put_self]
    trivial

theorem UploadStep.filed (step : UploadStep platform t state after) (filed : state.Filed) :
    after.Filed := by
  have heldAt : ∀ {phase}, state.calls t = phase → phase.Held state := fun same => same ▸ filed.held t
  cases step with
  | check asked => exact filed.put (admitted_held (heldAt asked))
  | measure measuring => exact filed.put (measured_held (heldAt measuring))
  | insert draw inserting new plain => exact filed_insert inserting new plain filed
  | save saving => exact filed_save saving filed
  | lose saving => exact filed.put trivial
  | finalise draw finalising => exact filed_finalise finalising filed
  | find dropping => exact filed.put (found_held filed _ _)
  | delete deleting => exact filed_delete deleting filed
  | erase erasing => exact filed_erase erasing filed
  | look opening => exact filed.put (sought_held filed _ _)
  | read reading => exact filed.put (readBytes_held filed (heldAt reading))

/-- Calls that have not begun, over a database and a store without files. A file that is sent is
as long as it says. -/
structure Uploads.Blank (state : Uploads τ) : Prop where
  unbegun : ∀ t, (∃ userId place incoming, state.calls t = .asked userId place incoming ∧
      incoming.size = incoming.buffer.length) ∨
    ∃ userId id, state.calls t = .dropping userId id ∨ state.calls t = .opening userId id
  rows : state.db.files.rows = []
  disk : ∀ key, state.disk key = none

omit [DecidableEq τ] in
theorem Uploads.Blank.filed (blank : state.Blank) : state.Filed where
  named schoolId id contents _ read := by
    rw [blank.disk] at read
    cases read
  unnamed := blank.disk _
  known row member := by
    rw [blank.rows] at member
    cases member
  stored row member := by
    rw [blank.rows] at member
    cases member
  once left member := by
    rw [blank.rows] at member
    cases member
  held t := by
    rcases blank.unbegun t with ⟨userId, place, incoming, asked, sized⟩ | ⟨userId, id, drops | opens⟩
    · rw [asked]
      exact sized
    · rw [drops]
      trivial
    · rw [opens]
      trivial

theorem UploadRun.filed (run : UploadRun platform state after) (filed : state.Filed) :
    after.Filed := by
  induction run with
  | refl => exact filed
  | tail _ step ih =>
      obtain ⟨_, moved⟩ := step
      exact moved.filed ih

/-- Every finished file has a key of its own with the bytes that were sent for it, no two rows share
a key, and what is opened is what was sent. -/
structure Uploads.RoundTrips (state : Uploads τ) : Prop where
  stored : ∀ row ∈ state.db.files.rows, row.uploadedAt.isSome = true →
    row.storageKey = keyFor row.schoolId row.id ∧
      state.disk row.storageKey = some (state.sent row.id) ∧
      (state.sent row.id).length = row.sizeBytes
  apart : ∀ left ∈ state.db.files.rows, ∀ right ∈ state.db.files.rows,
    left.storageKey = right.storageKey → left = right
  opened : ∀ t file contents, state.calls t = .opened file contents →
    contents = state.sent file.id ∧ contents.length = file.sizeBytes

/-- Uploads, openings and removals never mix the files up, however their steps fall and whichever
saves fail. -/
theorem files_round_trip (blank : state.Blank) (run : UploadRun platform state after) :
    after.RoundTrips := by
  have filed := run.filed blank.filed
  constructor
  · intro row member uploaded
    obtain ⟨own, saved⟩ := filed.stored row member uploaded
    exact ⟨own, saved, (filed.known row member).sized⟩
  · intro left first right second
    exact filed.distinct first second
  · intro t file contents opened
    have held := filed.held t
    rw [opened] at held
    obtain ⟨known, rfl⟩ := held
    exact ⟨rfl, known.sized⟩

end

/-- An admin adds a file to the library and opens it. -/
def sendAndOpen : Uploads Bool where
  db := twoSchools.db
  disk := twoSchools.disk
  drawn := []
  sent _ := []
  calls t := if t then .asked "a1" .library hello else .opening "a1" "f1"

theorem sendAndOpen_blank : sendAndOpen.Blank where
  unbegun t := by
    cases t with
    | true => exact .inl ⟨_, _, _, rfl, rfl⟩
    | false => exact .inr ⟨_, _, .inr rfl⟩
  rows := by decide
  disk _ := rfl

theorem hello_round_trips : ∃ next file, UploadRun .plain sendAndOpen next ∧
    next.calls false = .opened file hello.buffer ∧ next.sent file.id = hello.buffer ∧
    next.RoundTrips := by
  let row := pendingRow foxAdmin (drawing "f1") (library "s1") hello
  let file : File :=
    { row with storageKey := keyFor "s1" "f1", uploadedAt := some (drawing "f1").now }
  have looked : sought "a1" "f1" (finalised (drawing "f1") row
      (inserted foxAdmin (drawing "f1") (library "s1") hello twoSchools.db).2).2 =
        .reading file := by
    decide +kernel
  obtain ⟨next, run, opened⟩ : ∃ next, UploadRun .plain sendAndOpen next ∧
      next.calls false = .opened file hello.buffer := by
    refine ⟨_, .head ⟨true, .check rfl⟩ <| .head ⟨true, .measure fox_admitted⟩ <|
      .head ⟨true, .insert (drawing "f1") fox_measured List.not_mem_nil (by decide)⟩ <|
      .head ⟨true, .save fox_inserted⟩ <| .head ⟨true, .finalise (drawing "f1") rfl⟩ <|
      .head ⟨false, .look rfl⟩ <| .single ⟨false, .read looked⟩, rfl⟩
  have trips := files_round_trip sendAndOpen_blank run
  exact ⟨next, file, run, opened, (trips.opened _ _ _ opened).1.symm, trips⟩

end TutorApp
