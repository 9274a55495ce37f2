import TutorApp.TenantIsolation

set_option autoImplicit false

namespace TutorApp

open Relational
open FilesService (UploadTarget pendingRow)

/-- What a caller asks to store a file against. -/
inductive UploadPlace where
  | student (id : Id)
  | library
  | lesson (id : Id)
  deriving Repr, DecidableEq

/-- Where an upload, a removal or an opening stands: before each of its statements, and how it
ended. -/
inductive UploadPhase where
  | asked (userId : Id) (place : UploadPlace) (incoming : IncomingFile)
  | measuring (user : User) (target : UploadTarget) (incoming : IncomingFile)
  | inserting (user : User) (target : UploadTarget) (incoming : IncomingFile)
  | saving (row : File) (contents : List UInt8)
  | finalising (row : File)
  | stored (file : File)
  | unsaved (row : File)
  /-- Ended by a statement the database refused. -/
  | broken (reason : HttpError)
  | dropping (userId : Id) (fileId : Id)
  | deleting (file : File)
  | erasing (file : File)
  | removed
  | opening (userId : Id) (fileId : Id)
  | reading (file : File)
  | opened (file : File) (contents : List UInt8)
  /-- Ended by a check, or by a file that was already gone. -/
  | refused (reason : HttpError)
  deriving DecidableEq

/-- The calls in progress over one database and one store, and the row ids generated so far with
the bytes each was generated for. -/
structure Uploads (τ : Type) where
  db : Db
  disk : Disk
  drawn : List Id
  sent : Id → List UInt8
  calls : τ → UploadPhase

namespace FilesService

section

variable (platform : Platform) (user : User)

def targetOf : UploadPlace → Db → Service UploadTarget
  | .student id => studentTarget user id
  | .library => libraryTarget user
  | .lesson id => lessonTarget user id

/-- The caller, the target and the checks on the file itself. -/
def acceptedTarget (place : UploadPlace) (incoming : IncomingFile) (db : Db) : Service UploadTarget := do
  let target ← targetOf user place db
  assertAcceptable platform incoming
  return target

def admitted (userId : Id) (place : UploadPlace) (incoming : IncomingFile) (db : Db) : UploadPhase :=
  match db.users.find userId with
  | none => .refused .unauthorized
  | some user =>
      match acceptedTarget platform user place incoming db with
      | .ok target => .measuring user target incoming
      | .error reason => .refused reason

def measured (target : UploadTarget) (incoming : IncomingFile) (db : Db) : UploadPhase :=
  match assertWithinQuota platform target.schoolId incoming.size db with
  | .ok _ => .inserting user target incoming
  | .error reason => .refused reason

def inserted (draw : Draw) (target : UploadTarget) (incoming : IncomingFile) (db : Db) :
    UploadPhase × Db :=
  match db.createFile (pendingRow user draw target incoming) with
  | .ok next => (.saving (pendingRow user draw target incoming) incoming.buffer, next)
  | .error reason => (.broken reason, db)

def finalised (draw : Draw) (row : File) (db : Db) : UploadPhase × Db :=
  match finishUpload draw row db with
  | .ok (file, next) => (.stored file, next)
  | .error reason => (.broken reason, db)

/-- A file this caller may remove. -/
def removable (id : Id) (db : Db) : Service File := do
  let file ← findReachable user id db
  require (file.uploadedById == user.id || user.isAdmin)
    (.forbidden "Only the person who uploaded this can remove it")
  return file

def found (userId id : Id) (db : Db) : UploadPhase :=
  match db.users.find userId with
  | none => .refused .unauthorized
  | some user =>
      match removable user id db with
      | .ok file => .deleting file
      | .error reason => .refused reason

def deleted (file : File) (db : Db) : UploadPhase × Db :=
  match db.deleteFile file.id with
  | .ok next => (.erasing file, next)
  | .error reason => (.refused reason, db)

def sought (userId id : Id) (db : Db) : UploadPhase :=
  match db.users.find userId with
  | none => .refused .unauthorized
  | some user =>
      match findReachable user id db with
      | .ok file => .reading file
      | .error reason => .refused reason

def readBytes (file : File) (disk : Disk) : UploadPhase :=
  match disk file.storageKey with
  | some contents => .opened file contents
  | none => .refused .internal

end

end FilesService

open FilesService

section

variable {τ : Type} [DecidableEq τ]

def Uploads.put (state : Uploads τ) (t : τ) (phase : UploadPhase) : Uploads τ :=
  { state with calls := Function.update state.calls t phase }

/-- A fresh id for a row that is to hold these bytes. -/
def Uploads.draw (state : Uploads τ) (id : Id) (contents : List UInt8) : Uploads τ :=
  { state with drawn := id :: state.drawn, sent := Function.update state.sent id contents }

/-- The outcome of a statement. -/
def Uploads.leave (state : Uploads τ) (t : τ) (outcome : UploadPhase × Db) : Uploads τ :=
  { state with db := outcome.2, calls := Function.update state.calls t outcome.1 }

/-- A step of one call. A generated id is new and contains no slash; the store may fail to
save, and any step may be late. -/
inductive UploadStep (platform : Platform) (t : τ) (state : Uploads τ) : Uploads τ → Prop where
  | check {userId : Id} {place : UploadPlace} {incoming : IncomingFile}
      (asked : state.calls t = .asked userId place incoming) :
      UploadStep platform t state
        (state.put t (admitted platform userId place incoming state.db))
  | measure {user : User} {target : UploadTarget} {incoming : IncomingFile}
      (measuring : state.calls t = .measuring user target incoming) :
      UploadStep platform t state
        (state.put t (measured platform user target incoming state.db))
  | insert (draw : Draw) {user : User} {target : UploadTarget} {incoming : IncomingFile}
      (inserting : state.calls t = .inserting user target incoming)
      (new : draw.id ∉ state.drawn) (plain : '/' ∉ draw.id.toList) :
      UploadStep platform t state
        ((state.draw draw.id incoming.buffer).leave t
          (inserted user draw target incoming state.db))
  | save {row : File} {contents : List UInt8} (saving : state.calls t = .saving row contents) :
      UploadStep platform t state
        (Uploads.put { state with disk := state.disk.put (keyFor row.schoolId row.id) contents } t
          (.finalising row))
  | lose {row : File} {contents : List UInt8} (saving : state.calls t = .saving row contents) :
      UploadStep platform t state (state.put t (.unsaved row))
  | finalise (draw : Draw) {row : File} (finalising : state.calls t = .finalising row) :
      UploadStep platform t state (state.leave t (finalised draw row state.db))
  | find {userId id : Id} (dropping : state.calls t = .dropping userId id) :
      UploadStep platform t state (state.put t (found userId id state.db))
  | delete {file : File} (deleting : state.calls t = .deleting file) :
      UploadStep platform t state (state.leave t (deleted file state.db))
  | erase {file : File} (erasing : state.calls t = .erasing file) :
      UploadStep platform t state
        (Uploads.put { state with disk := state.disk.remove file.storageKey } t .removed)
  | look {userId id : Id} (opening : state.calls t = .opening userId id) :
      UploadStep platform t state (state.put t (sought userId id state.db))
  | read {file : File} (reading : state.calls t = .reading file) :
      UploadStep platform t state (state.put t (readBytes file state.disk))

/-- Any interleaving of the calls' steps. -/
def UploadRun (platform : Platform) (before after : Uploads τ) : Prop :=
  Relation.ReflTransGen (fun state next => ∃ t, UploadStep platform t state next) before after

end

section

variable {platform : Platform} {user : User} {draw : Draw} {target : UploadTarget}
  {incoming : IncomingFile} {db next : Db} {row file : File}

theorem finishUpload_files (done : finishUpload draw row db = .ok (file, next)) :
    ∃ files, next = { db with files } ∧ files.rows = db.files.rows.map fun other =>
      if other.id = row.id then { other with
        storageKey := keyFor row.schoolId row.id, uploadedAt := some draw.now } else other := by
  obtain ⟨finalised, -⟩ := finishUpload_ok.mp done
  obtain ⟨-, _, updated, rfl⟩ := Db.finaliseFile_ok.mp finalised
  obtain ⟨-, rfl⟩ := updateRow_ok.mp updated
  refine ⟨_, rfl, ?_⟩
  simp only [Table.rows_update, decide_eq_true_eq]
  rfl

theorem deleteFile_files {id : Id} (done : db.deleteFile id = .ok next) :
    next = { db with files := db.files.delete fun row => decide (row.id = id) } := by
  obtain ⟨_, deleted, rfl⟩ := Db.deleteFile_ok.mp done
  obtain ⟨-, rfl⟩ := deleteRow_ok.mp deleted
  rfl

/-- No step of an upload or a removal leaves the table of files. -/
theorem UploadStep.frame {τ : Type} [DecidableEq τ] {t : τ} {state after : Uploads τ}
    (step : UploadStep platform t state after) : ∃ files, after.db = { state.db with files } := by
  cases step with
  | check | measure | save | lose | find | erase | look | read => exact ⟨_, rfl⟩
  | @insert draw user target incoming =>
      show ∃ files, (inserted user draw target incoming state.db).2 = _
      unfold inserted
      split
      · rename_i created
        obtain ⟨-, -, -, files, -, rfl⟩ := Db.createFile_ok.mp created
        exact ⟨files, rfl⟩
      · exact ⟨_, rfl⟩
  | @finalise draw row =>
      show ∃ files, (finalised draw row state.db).2 = _
      unfold finalised
      split
      · rename_i finished
        obtain ⟨files, rfl, -⟩ := finishUpload_files finished
        exact ⟨files, rfl⟩
      · exact ⟨_, rfl⟩
  | @delete file =>
      show ∃ files, (deleted file state.db).2 = _
      unfold deleted
      split
      · rename_i gone
        exact ⟨_, deleteFile_files gone⟩
      · exact ⟨_, rfl⟩

end

/-- The key of a stored file names its row: what follows the last slash is the row's id. -/
theorem keyFor_injective {firstSchool secondSchool first second : Id}
    (firstPlain : '/' ∉ first.toList) (secondPlain : '/' ∉ second.toList)
    (same : keyFor firstSchool first = keyFor secondSchool second) : first = second := by
  have ending : ∀ schoolId id : Id, '/' ∉ id.toList →
      ((keyFor schoolId id).toList.reverse.takeWhile fun c => c != '/') = id.toList.reverse := by
    intro schoolId id plain
    have split : (keyFor schoolId id).toList.reverse =
        id.toList.reverse ++ ('/' :: schoolId.toList.reverse) := by
      simp [keyFor]
    rw [split, List.takeWhile_append_of_pos]
    · simp
    · intro c member
      simp only [bne_iff_ne, ne_eq]
      rintro rfl
      exact plain (List.mem_reverse.mp member)
  have reversed := ending firstSchool first firstPlain
  rw [same, ending secondSchool second secondPlain] at reversed
  exact String.toList_inj.mp (List.reverse_injective reversed).symm

/-- Every row is under the key it was inserted with or under one of its own. -/
def Db.FileKeys (db : Db) : Prop :=
  ∀ row ∈ db.files.rows, '/' ∉ row.id.toList ∧
    (row.storageKey = pendingKey ∨ ∃ schoolId, row.storageKey = keyFor schoolId row.id)

/-- What the checks of an upload have established by the time it reaches a phase. -/
def UploadPhase.Ready (platform : Platform) (db : Db) : UploadPhase → Prop
  | .measuring user target incoming | .inserting user target incoming =>
      (∀ draw, db.Belongs target.schoolId (.file (pendingRow user draw target incoming))) ∧
        incoming.size ≤ maxBytes platform
  | .saving row _ | .finalising row => '/' ∉ row.id.toList
  | _ => True

/-- The database an upload works on: whatever it was to begin with, and the files since. -/
structure Uploads.Sound {τ : Type} (platform : Platform) (state : Uploads τ) : Prop where
  based : ∃ base : Db, base.Tenanted ∧ ∃ files, state.db = { base with files }
  keys : state.db.FileKeys
  drawn : ∀ row ∈ state.db.files.rows, row.id ∈ state.drawn
  ready : ∀ t, (state.calls t).Ready platform state.db

section

variable {platform : Platform} {user : User} {draw : Draw} {target : UploadTarget}
  {incoming : IncomingFile} {db next : Db} {row file : File} {phase : UploadPhase}

theorem home_files (db : Db) (files : Table File) (ref : Ref) :
    Db.home { db with files } ref = db.home ref :=
  Slot.files.home_other db files ref rfl

theorem UploadPhase.Ready.files (ready : phase.Ready platform db) (files : Table File) :
    phase.Ready platform { db with files } := by
  have belongs : ∀ {schoolId : Id} {row : Row}, db.Belongs schoolId row →
      Db.Belongs { db with files } schoolId row := by
    intro schoolId row belongs ref member
    exact (home_files db files ref).trans (belongs ref member)
  cases phase with
  | measuring user target incoming => exact ⟨fun draw => belongs (ready.1 draw), ready.2⟩
  | inserting user target incoming => exact ⟨fun draw => belongs (ready.1 draw), ready.2⟩
  | saving | finalising => exact ready
  | _ => trivial

/-- A row whose references lead to a school refers to rows that are there. -/
theorem refersFile_of_belongs {schoolId : Id} (belongs : db.Belongs schoolId (.file row)) :
    db.refersFile row = true := by
  obtain ⟨school, uploader, student, lesson⟩ := Db.belongs_file.mp belongs
  have there : ∀ {α : Type} {found : Option α} {column : α → Id},
      found.map column = some schoolId → found.isSome = true := by
    intro α found column leads
    obtain ⟨value, rfl, -⟩ := Option.map_eq_some_iff.mp leads
    rfl
  simp only [Db.refersFile, Bool.and_eq_true, Option.all_eq_true]
  refine ⟨⟨⟨(Db.home_school.mp school).2, there uploader⟩, ?_⟩, ?_⟩
  · intro id named
    exact there (student id named)
  · intro id named
    exact there (lesson id named)

/-- The insert of an upload is refused for its placeholder alone. -/
theorem createFile_isOk (ready : (UploadPhase.inserting user target incoming).Ready platform db)
    (new : ∀ row ∈ db.files.rows, row.id ≠ draw.id) :
    (db.createFile (pendingRow user draw target incoming)).isOk = true ↔
      ∀ row ∈ db.files.rows, row.storageKey ≠ pendingKey := by
  have refers := refersFile_of_belongs (ready.1 draw)
  have small : int4 (incoming.size : Int) = true := by
    have limit := platform.maxUploadMb_le
    have size := ready.2
    simp only [maxBytes, mb] at size
    simp only [int4, Bool.and_eq_true, decide_eq_true_eq]
    omega
  have free : db.files.find (key (pendingRow user draw target incoming)) = none :=
    Table.find_eq_none.mpr new
  constructor
  · intro accepted row member same
    obtain ⟨after, done⟩ := exists_of_isOk accepted
    obtain ⟨-, -, others, -⟩ := Db.createFile_ok.mp done
    exact others row member same
  · intro unplaced
    cases inserted : db.files.insert? (pendingRow user draw target incoming) with
    | none =>
        have taken := Table.insert?_eq_none.mp inserted
        rw [free] at taken
        cases taken
    | some files =>
        have done : db.createFile (pendingRow user draw target incoming) =
            .ok { db with files } :=
          Db.createFile_ok.mpr ⟨refers, small, unplaced, files, inserted, rfl⟩
        rw [done]
        rfl

/-- The final update is refused only when its row is gone. -/
theorem finishUpload_isOk (draw : Draw) (keys : db.FileKeys) (plain : '/' ∉ row.id.toList) :
    (finishUpload draw row db).isOk = true ↔ (db.files.find row.id).isSome = true := by
  have others : (db.files.rows.all fun other =>
      other.id == row.id || other.storageKey != keyFor row.schoolId row.id) = true := by
    rw [List.all_eq_true]
    intro other member
    obtain ⟨itsPlain, itsKey⟩ := keys other member
    rw [Bool.or_eq_true, beq_iff_eq, bne_iff_ne]
    by_cases same : other.storageKey = keyFor row.schoolId row.id
    · left
      rcases itsKey with pending | ⟨schoolId, own⟩
      · exact absurd (same.symm.trans pending) (keyFor_ne_pending _ _)
      · exact keyFor_injective itsPlain plain (own.symm.trans same)
    · exact .inr same
  cases present : (db.files.find row.id).isSome with
  | false => simp [finishUpload, Db.finaliseFile, others, updateRow, present, require, Except.isOk,
      Except.toBool]
  | true => simp [finishUpload, Db.finaliseFile, others, updateRow, present, require, Except.isOk,
      Except.toBool, pure, Except.pure]

theorem fileKeys_insert {files : Table File} (keys : db.FileKeys) (plain : '/' ∉ draw.id.toList)
    (inserted : db.files.insert? (pendingRow user draw target incoming) = some files) :
    Db.FileKeys { db with files } := by
  intro other member
  rcases (Table.mem_insert inserted).mp member with old | rfl
  · exact keys other old
  · exact ⟨plain, .inl rfl⟩

theorem fileKeys_finish (keys : db.FileKeys)
    (done : finishUpload draw row db = .ok (file, next)) : next.FileKeys := by
  obtain ⟨files, rfl, rows⟩ := finishUpload_files done
  intro other member
  rw [show ({ db with files } : Db).files.rows = _ from rows] at member
  obtain ⟨old, present, rfl⟩ := List.mem_map.mp member
  by_cases same : old.id = row.id
  · rw [if_pos same]
    exact ⟨(keys old present).1, .inr ⟨row.schoolId, same ▸ rfl⟩⟩
  · rw [if_neg same]
    exact keys old present

variable {τ : Type} {state after : Uploads τ} {t : τ}

/-- The next statement of an upload is not one the database has to refuse. -/
def UploadPhase.Clear (db : Db) : UploadPhase → Prop
  | .inserting _ _ _ => ∀ row ∈ db.files.rows, row.storageKey ≠ pendingKey
  | .finalising row => (db.files.find row.id).isSome = true
  | _ => True

def UploadPhase.isBroken : UploadPhase → Bool
  | .broken _ => true
  | _ => false

theorem targetOf_of {place : UploadPlace} (success : targetOf user place db = .ok target) :
    target.Of db user.schoolId := by
  cases place with
  | student id => exact studentTarget_of success
  | library => exact libraryTarget_of success
  | lesson id => exact lessonTarget_of success

/-- What passes the first checks has a target of the caller's school and a size that fits. -/
theorem admitted_ready {userId : Id} {place : UploadPlace} (tenanted : db.Tenanted) :
    (admitted platform userId place incoming db).Ready platform db ∧
      (admitted platform userId place incoming db).isBroken = false := by
  unfold admitted
  cases lookup : db.users.find userId with
  | none => exact ⟨trivial, rfl⟩
  | some user =>
      dsimp only
      split
      · rename_i target admits
        simp only [acceptedTarget, bind_ok, pure_ok, assertAcceptable, refuse_ok] at admits
        obtain ⟨_, chosen, _, acceptable, rfl⟩ := admits
        refine ⟨⟨fun draw => ?_, ?_⟩, rfl⟩
        · obtain ⟨school, student, lesson⟩ := targetOf_of chosen
          have caller : db.Caller user := by
            have named : user.id = userId := (Table.find_eq_some.mp lookup).2
            rw [Db.Caller, named, lookup]
          rw [school]
          exact Db.belongs_file.mpr ⟨school ▸ caller.school tenanted, caller.home, student, lesson⟩
        · unfold unacceptable at acceptable
          split at acceptable
          · cases acceptable
          · split at acceptable
            · cases acceptable
            · omega
      · exact ⟨trivial, rfl⟩

theorem measured_ready (ready : (UploadPhase.measuring user target incoming).Ready platform db) :
    (measured platform user target incoming db).Ready platform db ∧
      (measured platform user target incoming db).isBroken = false := by
  unfold measured
  split
  · exact ⟨ready, rfl⟩
  · exact ⟨trivial, rfl⟩

theorem found_ready (platform : Platform) (userId id : Id) :
    (found userId id db).Ready platform db ∧ (found userId id db).isBroken = false := by
  unfold found
  cases db.users.find userId with
  | none => exact ⟨trivial, rfl⟩
  | some user =>
      dsimp only
      split <;> exact ⟨trivial, rfl⟩

theorem sought_ready (platform : Platform) (userId id : Id) :
    (sought userId id db).Ready platform db ∧ (sought userId id db).isBroken = false := by
  unfold sought
  cases db.users.find userId with
  | none => exact ⟨trivial, rfl⟩
  | some user =>
      dsimp only
      split <;> exact ⟨trivial, rfl⟩

theorem readBytes_ready (platform : Platform) (db : Db) (disk : Disk) :
    (readBytes file disk).Ready platform db ∧ (readBytes file disk).isBroken = false := by
  unfold readBytes
  split <;> exact ⟨trivial, rfl⟩

variable [DecidableEq τ]

@[simp] theorem Uploads.put_self : (state.put t phase).calls t = phase := Function.update_self ..

@[simp] theorem Uploads.leave_self (state : Uploads τ) (t : τ) (outcome : UploadPhase × Db) :
    (state.leave t outcome).calls t = outcome.1 := Function.update_self ..

theorem Uploads.put_other {other : τ} (different : other ≠ t) :
    (state.put t phase).calls other = state.calls other := Function.update_of_ne different ..

theorem UploadStep.other (step : UploadStep platform t state after) {other : τ}
    (different : other ≠ t) : after.calls other = state.calls other := by
  cases step <;> exact Function.update_of_ne different ..

/-- What a step has to show: the keys it leaves and the phase it moves its call to. -/
theorem Uploads.Sound.move (sound : state.Sound platform)
    (step : UploadStep platform t state after) (keys : after.db.FileKeys)
    (drawn : ∀ row ∈ after.db.files.rows, row.id ∈ after.drawn)
    (ready : (after.calls t).Ready platform state.db) : after.Sound platform := by
  obtain ⟨files, framed⟩ := step.frame
  obtain ⟨base, tenanted, before, based⟩ := sound.based
  refine ⟨⟨base, tenanted, files, by rw [framed, based]⟩, keys, drawn, fun other => ?_⟩
  rw [framed]
  by_cases same : other = t
  · exact (same ▸ ready).files files
  · rw [step.other same]
    exact (sound.ready other).files files

theorem UploadStep.sound (step : UploadStep platform t state after)
    (sound : state.Sound platform) : after.Sound platform := by
  have moved := sound.move step
  have readyAt : ∀ {phase}, state.calls t = phase → phase.Ready platform state.db :=
    fun same => same ▸ sound.ready t
  cases step with
  | @check userId place incoming asked =>
      apply moved sound.keys sound.drawn
      rw [Uploads.put_self]
      obtain ⟨base, tenanted, files, based⟩ := sound.based
      rw [based]
      have same : admitted platform userId place incoming { base with files } =
          admitted platform userId place incoming base := by
        cases place <;> rfl
      rw [same]
      exact (admitted_ready tenanted).1.files files
  | measure measuring =>
      apply moved sound.keys sound.drawn
      rw [Uploads.put_self]
      exact (measured_ready (readyAt measuring)).1
  | @insert draw user target incoming inserting new plain =>
      have outcome : (inserted user draw target incoming state.db).2.FileKeys ∧
          (∀ row ∈ (inserted user draw target incoming state.db).2.files.rows,
            row.id ∈ draw.id :: state.drawn) ∧
          (inserted user draw target incoming state.db).1.Ready platform state.db := by
        unfold inserted
        split
        · rename_i next created
          obtain ⟨-, -, -, files, added, rfl⟩ := Db.createFile_ok.mp created
          refine ⟨fileKeys_insert sound.keys plain added, fun row member => ?_, plain⟩
          rcases (Table.mem_insert added).mp member with old | rfl
          · exact List.mem_cons_of_mem _ (sound.drawn row old)
          · exact List.mem_cons_self
        · exact ⟨sound.keys, fun row member => List.mem_cons_of_mem _ (sound.drawn row member),
            trivial⟩
      apply moved outcome.1 outcome.2.1
      rw [Uploads.leave_self]
      exact outcome.2.2
  | @save row contents saving =>
      have plain : (UploadPhase.saving row contents).Ready platform state.db := readyAt saving
      apply moved sound.keys sound.drawn
      rw [Uploads.put_self]
      exact plain
  | lose saving =>
      apply moved sound.keys sound.drawn
      rw [Uploads.put_self]
      trivial
  | @finalise draw row finalising =>
      have outcome : (finalised draw row state.db).2.FileKeys ∧
          (∀ other ∈ (finalised draw row state.db).2.files.rows, other.id ∈ state.drawn) ∧
          (finalised draw row state.db).1.Ready platform state.db := by
        unfold finalised
        split
        · rename_i file next finished
          refine ⟨fileKeys_finish sound.keys finished, fun other member => ?_, trivial⟩
          obtain ⟨files, rfl, rows⟩ := finishUpload_files finished
          rw [show ({ state.db with files } : Db).files.rows = _ from rows] at member
          obtain ⟨old, present, rfl⟩ := List.mem_map.mp member
          have kept := sound.drawn old present
          split <;> exact kept
        · exact ⟨sound.keys, sound.drawn, trivial⟩
      apply moved outcome.1 outcome.2.1
      rw [Uploads.leave_self]
      exact outcome.2.2
  | find dropping =>
      apply moved sound.keys sound.drawn
      rw [Uploads.put_self]
      exact (found_ready platform _ _).1
  | @delete file deleting =>
      have outcome : (deleted file state.db).2.FileKeys ∧
          (∀ other ∈ (deleted file state.db).2.files.rows, other.id ∈ state.drawn) ∧
          (deleted file state.db).1.Ready platform state.db := by
        unfold deleted
        split
        · rename_i next gone
          rw [deleteFile_files gone]
          exact ⟨fun other member => sound.keys other (Table.mem_delete.mp member).1,
            fun other member => sound.drawn other (Table.mem_delete.mp member).1, trivial⟩
        · exact ⟨sound.keys, sound.drawn, trivial⟩
      apply moved outcome.1 outcome.2.1
      rw [Uploads.leave_self]
      exact outcome.2.2
  | erase erasing =>
      apply moved sound.keys sound.drawn
      rw [Uploads.put_self]
      trivial
  | look opening =>
      apply moved sound.keys sound.drawn
      rw [Uploads.put_self]
      exact (sought_ready platform _ _).1
  | read reading =>
      apply moved sound.keys sound.drawn
      rw [Uploads.put_self]
      exact (readBytes_ready platform state.db _).1

theorem UploadRun.sound (run : UploadRun platform state after) (sound : state.Sound platform) :
    after.Sound platform := by
  induction run with
  | refl => exact sound
  | tail _ step ih =>
      obtain ⟨t, moved⟩ := step
      exact moved.sound ih

/-- A step breaks its upload exactly when its statement is not clear. -/
theorem UploadStep.broken_iff (step : UploadStep platform t state after)
    (sound : state.Sound platform) :
    (after.calls t).isBroken = false ↔ (state.calls t).Clear state.db := by
  have readyAt : ∀ {phase}, state.calls t = phase → phase.Ready platform state.db :=
    fun same => same ▸ sound.ready t
  cases step with
  | @check userId place incoming asked =>
      obtain ⟨base, tenanted, files, based⟩ := sound.based
      rw [Uploads.put_self, asked, based]
      have same : admitted platform userId place incoming { base with files } =
          admitted platform userId place incoming base := by
        cases place <;> rfl
      rw [same]
      exact iff_of_true (admitted_ready tenanted).2 trivial
  | measure measuring =>
      rw [Uploads.put_self, measuring]
      exact iff_of_true (measured_ready (readyAt measuring)).2 trivial
  | @insert draw user target incoming inserting new plain =>
      have unused : ∀ row ∈ state.db.files.rows, row.id ≠ draw.id := fun row member same =>
        new (same ▸ sound.drawn row member)
      have accepted := createFile_isOk (readyAt inserting) unused
      rw [Uploads.leave_self, inserting]
      show _ ↔ ∀ row ∈ state.db.files.rows, row.storageKey ≠ pendingKey
      rw [← accepted]
      unfold inserted
      cases state.db.createFile (pendingRow user draw target incoming) with
      | ok next => exact iff_of_true rfl rfl
      | error reason => exact iff_of_false (fun ok => by cases ok) fun same => by cases same
  | save saving =>
      rw [Uploads.put_self, saving]
      exact iff_of_true rfl trivial
  | lose saving =>
      rw [Uploads.put_self, saving]
      exact iff_of_true rfl trivial
  | @finalise draw row finalising =>
      have accepted := finishUpload_isOk draw sound.keys (readyAt finalising)
      rw [Uploads.leave_self, finalising]
      show _ ↔ (state.db.files.find row.id).isSome = true
      rw [← accepted]
      unfold finalised
      cases finishUpload draw row state.db with
      | ok done => exact iff_of_true rfl rfl
      | error reason => exact iff_of_false (fun ok => by cases ok) fun same => by cases same
  | find dropping =>
      rw [Uploads.put_self, dropping]
      exact iff_of_true (found_ready platform _ _).2 trivial
  | @delete file deleting =>
      rw [Uploads.leave_self, deleting]
      refine iff_of_true ?_ trivial
      unfold deleted
      split <;> rfl
  | erase erasing =>
      rw [Uploads.put_self, erasing]
      exact iff_of_true rfl trivial
  | look opening =>
      rw [Uploads.put_self, opening]
      exact iff_of_true (sought_ready platform _ _).2 trivial
  | read reading =>
      rw [Uploads.put_self, reading]
      exact iff_of_true (readBytes_ready platform state.db _).2 trivial

end

section

variable {platform : Platform} {user : User} {draw : Draw} {incoming : IncomingFile}
  {τ : Type} [DecidableEq τ] {state : Uploads τ} {t : τ}

theorem beginUpload_acceptedTarget (place : UploadPlace) (db : Db) :
    beginUpload platform user draw (targetOf user place) incoming db = (do
      let target ← acceptedTarget platform user place incoming db
      assertWithinQuota platform target.schoolId incoming.size db
      let next ← db.createFile (pendingRow user draw target incoming)
      return (pendingRow user draw target incoming, next)) := by
  simp only [beginUpload, acceptedTarget, bind_assoc, pure_bind]

/-- A call ends with what the service answers and leaves. -/
def Uploads.Ended (state : Uploads τ) (t : τ) (outcome : Service File × World) : Prop :=
  (⟨state.db, state.disk⟩ : World) = outcome.2 ∧
    ∀ file, state.calls t = .stored file ↔ outcome.1 = .ok file

theorem Uploads.put_put (first second : UploadPhase) :
    (state.put t first).put t second = state.put t second := by
  rw [Uploads.put, Uploads.put, Uploads.put, Function.update_idem]

theorem Uploads.put_leave (phase : UploadPhase) (outcome : UploadPhase × Db) :
    (state.put t phase).leave t outcome = state.leave t outcome := by
  rw [Uploads.leave, Uploads.leave, Uploads.put, Function.update_idem]

/-- The insert of a call that has come to it. -/
theorem Uploads.inserts (user : User) (target : UploadTarget) (new : draw.id ∉ state.drawn)
    (plain : '/' ∉ draw.id.toList) :
    UploadStep platform t (state.put t (.inserting user target incoming))
      ((state.draw draw.id incoming.buffer).leave t
        (inserted user draw target incoming state.db)) := by
  have step : UploadStep platform t (state.put t (.inserting user target incoming)) _ :=
    .insert draw Uploads.put_self new plain
  have same : (state.put t (.inserting user target incoming)).draw draw.id incoming.buffer =
      (state.draw draw.id incoming.buffer).put t (.inserting user target incoming) := rfl
  rwa [same, Uploads.put_leave] at step

theorem Uploads.ended_error {phase : UploadPhase} {reason : HttpError}
    (unstored : ∀ file, phase ≠ .stored file) :
    (state.put t phase).Ended t (.error reason, ⟨state.db, state.disk⟩) := by
  refine ⟨rfl, fun file => ?_⟩
  rw [Uploads.put_self]
  exact iff_of_false (unstored file) fun same => by cases same

theorem UploadStep.followed {between after : Uploads τ} (step : UploadStep platform t state between)
    (run : UploadRun platform between after) : UploadRun platform state after :=
  .head ⟨t, step⟩ run

theorem storeBytes_run (platform : Platform) (draw : Draw) {row : File} {contents : List UInt8}
    (saves : Bool) (saving : state.calls t = .saving row contents) :
    ∃ next, UploadRun platform state next ∧
      next.Ended t (storeBytes draw saves row contents ⟨state.db, state.disk⟩) := by
  cases saves with
  | false => exact ⟨_, .single ⟨t, .lose saving⟩, Uploads.ended_error fun _ same => by cases same⟩
  | true =>
      have saves : UploadStep platform t state _ := .save saving
      have run := saves.followed (.single ⟨t, .finalise draw Uploads.put_self⟩)
      refine ⟨_, run, ?_, fun file => ?_⟩
      · show (⟨(finalised draw row state.db).2, _⟩ : World) = _
        simp only [storeBytes, finalised]
        cases finishUpload draw row state.db <;> rfl
      · rw [Uploads.leave_self]
        change (finalised draw row state.db).1 = _ ↔ _
        simp only [storeBytes, finalised]
        cases finishUpload draw row state.db <;> simp

/-- An upload that is not interrupted goes through its steps to what the service leaves. -/
theorem upload_run {place : UploadPlace} (saves : Bool)
    (asked : state.calls t = .asked user.id place incoming)
    (caller : state.db.users.find user.id = some user)
    (new : draw.id ∉ state.drawn) (plain : '/' ∉ draw.id.toList) :
    ∃ next, UploadRun platform state next ∧ next.Ended t (upload platform user draw saves
      (targetOf user place) incoming ⟨state.db, state.disk⟩) := by
  have admits : UploadStep platform t state
      (state.put t (admitted platform user.id place incoming state.db)) := .check asked
  unfold upload
  rw [beginUpload_acceptedTarget]
  simp only [admitted, caller] at admits
  cases admission : acceptedTarget platform user place incoming state.db with
  | error reason =>
      rw [admission] at admits
      exact ⟨_, .single ⟨t, admits⟩, Uploads.ended_error fun _ same => by cases same⟩
  | ok target =>
      rw [admission] at admits
      have measures : UploadStep platform t (state.put t (.measuring user target incoming))
          (state.put t (measured platform user target incoming state.db)) := by
        have step : UploadStep platform t (state.put t (.measuring user target incoming)) _ :=
          .measure Uploads.put_self
        rwa [Uploads.put_put] at step
      unfold measured at measures
      simp only [ok_bind]
      cases fits : assertWithinQuota platform target.schoolId incoming.size state.db with
      | error reason =>
          rw [fits] at measures
          exact ⟨_, admits.followed (.single ⟨t, measures⟩),
            Uploads.ended_error fun _ same => by cases same⟩
      | ok _ =>
          rw [fits] at measures
          have began := admits.followed (measures.followed
            (.single ⟨t, Uploads.inserts user target new plain⟩))
          unfold inserted at began
          simp only [ok_bind]
          cases created : state.db.createFile (pendingRow user draw target incoming) with
          | error reason =>
              rw [created] at began
              refine ⟨_, began, rfl, fun file => ?_⟩
              rw [Uploads.leave_self]
              exact iff_of_false (fun ok => by cases ok) fun same => by cases same
          | ok db =>
              rw [created] at began
              have saving : ((state.draw draw.id incoming.buffer).leave t
                  (.saving (pendingRow user draw target incoming) incoming.buffer, db)).calls t =
                .saving (pendingRow user draw target incoming) incoming.buffer :=
                Uploads.leave_self ..
              obtain ⟨next, run, ended⟩ := storeBytes_run platform draw saves saving
              exact ⟨next, began.trans run, ended⟩

/-- A removal that is not interrupted goes through its steps to what the service leaves. -/
theorem remove_run {id : Id} (dropping : state.calls t = .dropping user.id id)
    (caller : state.db.users.find user.id = some user) :
    ∃ next, UploadRun platform state next ∧
      (⟨next.db, next.disk⟩ : World) = (remove user id ⟨state.db, state.disk⟩).2 ∧
      (next.calls t = .removed ↔ (remove user id ⟨state.db, state.disk⟩).1 = .ok ()) := by
  have finds : UploadStep platform t state (state.put t (found user.id id state.db)) :=
    .find dropping
  have rows : removeRow user id state.db = (do
      let file ← removable user id state.db
      let next ← state.db.deleteFile file.id
      return (file, next)) := by
    simp only [removeRow, removable, bind_assoc, pure_bind]
  simp only [found, caller] at finds
  unfold remove
  rw [rows]
  cases checked : removable user id state.db with
  | error reason =>
      rw [checked] at finds
      refine ⟨_, .single ⟨t, finds⟩, rfl, ?_⟩
      rw [Uploads.put_self]
      exact iff_of_false (fun ok => by cases ok) fun same => by cases same
  | ok file =>
      rw [checked] at finds
      have deletes : UploadStep platform t (state.put t (.deleting file))
          (state.leave t (deleted file state.db)) := by
        have step : UploadStep platform t (state.put t (.deleting file)) _ :=
          .delete Uploads.put_self
        rwa [Uploads.put_leave] at step
      have dropped := finds.followed (.single ⟨t, deletes⟩)
      unfold deleted at dropped
      simp only [ok_bind]
      cases gone : state.db.deleteFile file.id with
      | error reason =>
          rw [gone] at dropped
          refine ⟨_, dropped, rfl, ?_⟩
          rw [Uploads.leave_self]
          exact iff_of_false (fun ok => by cases ok) fun same => by cases same
      | ok db =>
          rw [gone] at dropped
          refine ⟨_, dropped.tail ⟨t, .erase (Uploads.leave_self ..)⟩, rfl, ?_⟩
          rw [Uploads.put_self]
          exact iff_of_true rfl rfl

end

section

variable {platform : Platform} {τ : Type} {state after : Uploads τ} {t : τ} [DecidableEq τ]

/-- A run in which every statement meets a guard. -/
def GuardedRun (platform : Platform) (guard : Db → UploadPhase → Prop) (before after : Uploads τ) :
    Prop :=
  Relation.ReflTransGen (fun state next => ∃ t, UploadStep platform t state next ∧
    guard state.db (state.calls t)) before after

/-- A run in which no upload comes to a statement the database has to refuse. -/
def ClearRun (platform : Platform) (before after : Uploads τ) : Prop :=
  GuardedRun platform UploadPhase.Clear before after

theorem GuardedRun.uploadRun {guard : Db → UploadPhase → Prop}
    (run : GuardedRun platform guard state after) : UploadRun platform state after := by
  refine Relation.ReflTransGen.mono (fun _ _ moved => ?_) _ _ run
  obtain ⟨t, step, -⟩ := moved
  exact ⟨t, step⟩

theorem UploadStep.begins {user : User} {userId : Id} {place : UploadPlace} {target : UploadTarget}
    {incoming : IncomingFile} (asked : state.calls t = .asked userId place incoming)
    (admits : admitted platform userId place incoming state.db = .measuring user target incoming) :
    UploadStep platform t state (state.put t (.measuring user target incoming)) := by
  rw [← admits]
  exact .check asked

theorem UploadStep.proceeds {user : User} {target : UploadTarget} {incoming : IncomingFile}
    (fits : measured platform user target incoming state.db = .inserting user target incoming) :
    UploadStep platform t (state.put t (.measuring user target incoming))
      (state.put t (.inserting user target incoming)) := by
  have step : UploadStep platform t (state.put t (.measuring user target incoming)) _ :=
    .measure Uploads.put_self
  rw [Uploads.put_put] at step
  rw [← fits]
  exact step

/-- A call whose checks pass comes to its insert. -/
theorem Uploads.comes_to_insert {guard : Db → UploadPhase → Prop} {user : User} {userId : Id}
    {place : UploadPlace} {target : UploadTarget} {incoming : IncomingFile}
    (asked : state.calls t = .asked userId place incoming)
    (admits : admitted platform userId place incoming state.db = .measuring user target incoming)
    (fits : measured platform user target incoming state.db = .inserting user target incoming)
    (first : guard state.db (.asked userId place incoming))
    (second : guard state.db (.measuring user target incoming)) :
    GuardedRun platform guard state (state.put t (.inserting user target incoming)) := by
  refine .head ⟨t, .begins asked admits, asked ▸ first⟩ (.single ⟨t, .proceeds fits, ?_⟩)
  rw [Uploads.put_self]
  exact second

/-- Calls that have not begun, over a database whose rows all have keys of their own. -/
structure Uploads.Begun (state : Uploads τ) : Prop where
  unbegun : ∀ t, (∃ userId place incoming, state.calls t = .asked userId place incoming) ∨
    ∃ userId id, state.calls t = .dropping userId id ∨ state.calls t = .opening userId id
  tenanted : state.db.Tenanted
  keys : state.db.FileKeys
  drawn : ∀ row ∈ state.db.files.rows, row.id ∈ state.drawn

omit [DecidableEq τ] in
/-- Uploads over a database without files. -/
theorem Uploads.Begun.of_empty
    (asked : ∀ t, ∃ userId place incoming, state.calls t = .asked userId place incoming)
    (tenanted : state.db.Tenanted) (empty : state.db.files.rows = []) : state.Begun where
  unbegun t := .inl (asked t)
  tenanted := tenanted
  keys row member := by
    rw [empty] at member
    cases member
  drawn row member := by
    rw [empty] at member
    cases member

omit [DecidableEq τ] in
theorem Uploads.Begun.sound (begun : state.Begun) : state.Sound platform where
  based := ⟨state.db, begun.tenanted, state.db.files, rfl⟩
  keys := begun.keys
  drawn := begun.drawn
  ready t := by
    rcases begun.unbegun t with ⟨userId, place, incoming, asked⟩ | ⟨userId, id, drops | opens⟩
    · rw [asked]
      trivial
    · rw [drops]
      trivial
    · rw [opens]
      trivial

omit [DecidableEq τ] in
theorem Uploads.Begun.unbroken (begun : state.Begun) (t : τ) :
    (state.calls t).isBroken = false := by
  rcases begun.unbegun t with ⟨userId, place, incoming, asked⟩ | ⟨userId, id, drops | opens⟩
  · rw [asked]
    rfl
  · rw [drops]
    rfl
  · rw [opens]
    rfl

end

def twoSchools : World := World.empty.after .plain [foxSchool, owlSchool]

def textFile (size : Nat) (buffer : List UInt8) : IncomingFile :=
  ⟨"notes.txt", "text/plain", size, buffer⟩

def hello : IncomingFile := textFile 5 (ascii "hello")

/-- Each admin adds a file to their library. -/
def twoUploads : Uploads Bool where
  db := twoSchools.db
  disk := twoSchools.disk
  drawn := []
  sent _ := []
  calls t := .asked (if t then "a2" else "a1") .library hello

def drawing (id : Id) : Draw := (Outside.quiet id).draw

def library (schoolId : Id) : UploadTarget := ⟨.tutorLibrary, schoolId, none, none⟩

theorem twoUploads_begun : twoUploads.Begun :=
  .of_empty (fun _ => ⟨_, _, _, rfl⟩) (Reachable.tenanted (.after .plain .refl _)) (by decide)

theorem textFile_acceptable {platform : Platform} {size : Nat} {buffer : List UInt8}
    (filled : size ≠ 0) (small : size ≤ maxBytes platform) (text : buffer.contains 0 = false) :
    unacceptable platform (textFile size buffer) = none := by
  have allowed : allowedMimeTypes.contains "text/plain" = true := by decide
  simp only [unacceptable, textFile, filled, Nat.not_lt.mpr small, allowed, bytesLookLike, text,
    ↓reduceIte, Bool.not_true, Bool.not_false, Bool.false_eq_true]

theorem admitted_library {platform : Platform} {incoming : IncomingFile} (user : User) {db : Db}
    (caller : db.users.find user.id = some user)
    (acceptable : unacceptable platform incoming = none) :
    admitted platform user.id .library incoming db =
      .measuring user (library user.schoolId) incoming := by
  have admits : acceptedTarget platform user .library incoming db = .ok (library user.schoolId) := by
    simp only [acceptedTarget, targetOf, libraryTarget, assertAcceptable, acceptable]
    rfl
  simp only [admitted, caller, admits]

theorem measured_fits {platform : Platform} {user : User} {target : UploadTarget}
    {incoming : IncomingFile} {db : Db}
    (fits : storedBytes target.schoolId db + incoming.size ≤ maxSchoolBytes platform) :
    measured platform user target incoming db = .inserting user target incoming := by
  simp only [measured, assertWithinQuota, require, decide_eq_true fits, ↓reduceIte]

theorem hello_acceptable : unacceptable .plain hello = none :=
  textFile_acceptable (by decide) (by decide) (by decide)

theorem fox_admitted : admitted .plain "a1" .library hello twoSchools.db =
    .measuring foxAdmin (library "s1") hello :=
  admitted_library foxAdmin (by decide) hello_acceptable

theorem fox_measured : measured .plain foxAdmin (library "s1") hello twoSchools.db =
    .inserting foxAdmin (library "s1") hello :=
  measured_fits (by decide)

theorem fox_inserted :
    (inserted foxAdmin (drawing "f1") (library "s1") hello twoSchools.db).1 = .saving
      (pendingRow foxAdmin (drawing "f1") (library "s1") hello) hello.buffer := by
  decide +kernel

end TutorApp
