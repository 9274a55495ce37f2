import TutorApp.Footprints
import TutorApp.TenantIsolation

set_option autoImplicit false

namespace TutorApp

open Relational

/-- No two rows share a place in the storage, and a row whose upload is finished has its bytes. -/
structure World.Shelved (world : World) : Prop where
  apart : ∀ left ∈ world.db.files.rows, ∀ right ∈ world.db.files.rows,
    left.storageKey = right.storageKey → left = right
  kept : ∀ row ∈ world.db.files.rows, row.uploadedAt.isSome = true →
    world.disk row.storageKey ≠ none

namespace World.Shelved

variable {world next : World}

theorem empty : World.empty.Shelved where
  apart left member := by cases member
  kept row member := by cases member

theorem shrink (shelved : world.Shelved)
    (files : ∀ row ∈ next.db.files.rows, row ∈ world.db.files.rows)
    (disk : next.disk = world.disk) : next.Shelved where
  apart left first right second same :=
    shelved.apart left (files left first) right (files right second) same
  kept row member done := by
    rw [disk]
    exact shelved.kept row (files row member) done

theorem same (shelved : world.Shelved) (files : next.db.files = world.db.files)
    (disk : next.disk = world.disk) : next.Shelved :=
  shelved.shrink (fun _ member => files ▸ member) disk

/-- A row that waits for its bytes, under a key of its own. -/
theorem insert {row : File} {db : Db} (shelved : world.Shelved) (waits : row.uploadedAt = none)
    (done : world.db.createFile row = .ok db) : ({ world with db } : World).Shelved := by
  obtain ⟨-, -, fresh, files, inserted, rfl⟩ := Db.createFile_ok.mp done
  constructor
  case apart =>
    intro left first right second same
    rcases (Table.mem_insert inserted).mp first with old | rfl
    · rcases (Table.mem_insert inserted).mp second with older | rfl
      · exact shelved.apart left old right older same
      · exact absurd same (fresh left old)
    · rcases (Table.mem_insert inserted).mp second with older | rfl
      · exact absurd same.symm (fresh right older)
      · rfl
  case kept =>
    intro other member finished
    rcases (Table.mem_insert inserted).mp member with old | rfl
    · exact shelved.kept other old finished
    · rw [waits] at finished
      cases finished

/-- Bytes that are stored take none away. -/
theorem put (shelved : world.Shelved) (key : String) (contents : List UInt8) :
    ({ world with disk := world.disk.put key contents } : World).Shelved where
  apart := shelved.apart
  kept row member finished := by
    show Function.update world.disk key (some contents) row.storageKey ≠ none
    by_cases same : row.storageKey = key
    · rw [same, Function.update_self]
      exact Option.some_ne_none contents
    · rw [Function.update_of_ne same]
      exact shelved.kept row member finished

/-- A row is finished under a key whose bytes are there and which no other row has. -/
theorem finalise {id : Id} {storageKey : String} {uploadedAt : Js.Instant} {db : Db}
    (shelved : world.Shelved) (stored : world.disk storageKey ≠ none)
    (done : world.db.finaliseFile id storageKey uploadedAt = .ok db) :
    ({ world with db } : World).Shelved := by
  obtain ⟨free, files, updated, rfl⟩ := Db.finaliseFile_ok.mp done
  have others : ∀ other ∈ world.db.files.rows, other.id ≠ id → other.storageKey ≠ storageKey := by
    intro other member elsewhere
    have either := List.all_eq_true.mp free other member
    rw [Bool.or_eq_true, beq_iff_eq, bne_iff_ne] at either
    exact either.resolve_left elsewhere
  let change : File → File := fun row => { row with storageKey, uploadedAt := some uploadedAt }
  have rows : ∀ row ∈ files.rows, ∃ old ∈ world.db.files.rows,
      row = if old.id = id then change old else old := by
    intro row member
    obtain ⟨-, rfl⟩ := updateRow_ok.mp updated
    rw [Table.rows_update] at member
    obtain ⟨old, present, rfl⟩ := List.mem_map.mp member
    refine ⟨old, present, ?_⟩
    by_cases hit : old.id = id <;> simp [hit, change, key]
  constructor
  case apart =>
    intro left first right second same
    obtain ⟨old, present, rfl⟩ := rows left first
    obtain ⟨older, there, rfl⟩ := rows right second
    have one : old = older := by
      by_cases hit : old.id = id
      · by_cases also : older.id = id
        · exact Table.key_injective present there (hit.trans also.symm)
        · rw [if_pos hit, if_neg also] at same
          exact absurd same.symm (others older there also)
      · by_cases also : older.id = id
        · rw [if_neg hit, if_pos also] at same
          exact absurd same (others old present hit)
        · rw [if_neg hit, if_neg also] at same
          exact shelved.apart old present older there same
    rw [one]
  case kept =>
    intro row member finished
    obtain ⟨old, present, rfl⟩ := rows row member
    by_cases hit : old.id = id
    · rw [if_pos hit]
      exact stored
    · rw [if_neg hit] at finished ⊢
      exact shelved.kept old present finished

/-- A row goes, and then its bytes: no other row's. -/
theorem remove {file : File} {db : Db} (shelved : world.Shelved) (member : file ∈ world.db.files.rows)
    (done : world.db.deleteFile file.id = .ok db) :
    (⟨db, world.disk.remove file.storageKey⟩ : World).Shelved := by
  obtain ⟨files, deleted, rfl⟩ := Db.deleteFile_ok.mp done
  obtain ⟨-, rfl⟩ := deleteRow_ok.mp deleted
  have left : ∀ row ∈ (world.db.files.delete fun row => decide (key row = file.id)).rows,
      row ∈ world.db.files.rows ∧ row.id ≠ file.id := by
    intro row listed
    obtain ⟨present, stays⟩ := Table.mem_delete.mp listed
    exact ⟨present, of_decide_eq_false stays⟩
  constructor
  case apart =>
    intro one first other second same
    exact shelved.apart one (left one first).1 other (left other second).1 same
  case kept =>
    intro row listed finished
    obtain ⟨present, different⟩ := left row listed
    have elsewhere : row.storageKey ≠ file.storageKey := by
      intro same
      exact different (congrArg File.id (shelved.apart row present file member same))
    show Function.update world.disk file.storageKey none row.storageKey ≠ none
    rw [Function.update_of_ne elsewhere]
    exact shelved.kept row present finished

end World.Shelved

section

variable {platform : Platform} {user : User} {draw : Draw} {outside : Outside} {world : World}

theorem World.commit_disk {α : Type} {answer : α → Response} {result : Service (α × Db)} :
    (world.commit answer result).world.disk = world.disk := by
  cases result <;> rfl

theorem World.commitUnit_disk {result : Service Db} :
    (world.commitUnit result).world.disk = world.disk := by
  cases result <;> rfl

namespace FilesService

theorem storeBytes_shelved {saves : Bool} {row : File} {contents : List UInt8}
    (shelved : world.Shelved) : (storeBytes draw saves row contents world).2.Shelved := by
  unfold storeBytes
  split
  · exact shelved
  · dsimp only
    have stored := shelved.put (keyFor row.schoolId row.id) contents
    split
    · exact stored
    · rename_i finished
      obtain ⟨finalised, -⟩ := finishUpload_ok.mp finished
      refine stored.finalise ?_ finalised
      show Function.update world.disk _ (some contents) _ ≠ none
      rw [Function.update_self]
      exact Option.some_ne_none contents

/-- An upload that fails half way leaves a row that waits, or bytes no row names. -/
theorem upload_shelved {saves : Bool} {findTarget : Db → Service UploadTarget}
    {incoming : IncomingFile} (shelved : world.Shelved) :
    (upload platform user draw saves findTarget incoming world).2.Shelved := by
  unfold upload
  split
  · exact shelved
  · rename_i row db began
    obtain ⟨_, -, -, -, created, rfl⟩ := beginUpload_ok.mp began
    have waiting := shelved.insert rfl created
    exact storeBytes_shelved waiting

/-- An upload stores its bytes, if at all, under a name of its caller's school. -/
theorem upload_disk {saves : Bool} {findTarget : Db → Service UploadTarget}
    {incoming : IncomingFile}
    (inside : ∀ target, findTarget world.db = .ok target → target.Of world.db user.schoolId) :
    (upload platform user draw saves findTarget incoming world).2.disk = world.disk ∨
      (upload platform user draw saves findTarget incoming world).2.disk =
        world.disk.put (keyFor user.schoolId draw.id) incoming.buffer := by
  unfold upload
  split
  · exact .inl rfl
  · rename_i began
    obtain ⟨target, found, -, -, -, rfl⟩ := beginUpload_ok.mp began
    have school : target.schoolId = user.schoolId := (inside target found).1
    unfold storeBytes
    split
    · exact .inl rfl
    · rw [← school]
      dsimp only
      split <;> exact .inr rfl

theorem remove_disk {id : Id} : (remove user id world).2.disk = world.disk ∨
    ∃ file ∈ world.db.files.rows, file.schoolId = user.schoolId ∧
      (remove user id world).2.disk = world.disk.remove file.storageKey := by
  unfold remove
  split
  · exact .inl rfl
  · rename_i file db removed
    obtain ⟨lookup, school⟩ := findReachable_school (removeRow_ok.mp removed).1
    exact .inr ⟨file, (Table.find_eq_some.mp lookup).1, school, rfl⟩

theorem remove_shelved {id : Id} (shelved : world.Shelved) :
    (remove user id world).2.Shelved := by
  unfold remove
  split
  · exact shelved
  · rename_i removed
    obtain ⟨reached, -, deleted⟩ := removeRow_ok.mp removed
    have member := (Table.find_eq_some.mp (findReachable_school reached).1).1
    exact shelved.remove member deleted

end FilesService

/-- Whether a command reaches the stored bytes. -/
def Command.stores : Command → Bool
  | uploadForStudent _ _ | uploadToLibrary _ | uploadForLesson _ _ | removeFile _ => true
  | _ => false

/-- The other commands leave the bytes, and bring no row of a file. -/
theorem Command.run_aside {command : Command} (aside : command.stores = false) :
    (command.run platform user outside world).world.disk = world.disk ∧
      ∀ row ∈ (command.run platform user outside world).world.db.files.rows,
        row ∈ world.db.files.rows := by
  have left : ∀ {next : Db}, next.files = world.db.files →
      ∀ row ∈ next.files.rows, row ∈ world.db.files.rows :=
    fun same _ member => same ▸ member
  let Fewer : Db → Prop := fun next => ∀ row ∈ next.files.rows, row ∈ world.db.files.rows
  cases command with
  | uploadForStudent studentId incoming => cases aside
  | uploadToLibrary incoming => cases aside
  | uploadForLesson lessonId incoming => cases aside
  | removeFile id => cases aside
  | openFile id => exact ⟨rfl, left rfl⟩
  | removeStudent id =>
      refine ⟨World.commitUnit_disk, World.commitUnit_keeps Fewer (left rfl) fun db success => ?_⟩
      obtain ⟨_, -, deleted⟩ := StudentsService.remove_ok.mp success
      obtain ⟨-, rfl⟩ := Db.deleteStudent_ok.mp deleted
      exact fun row member => (Table.mem_delete.mp (Table.mem_delete.mp member).1).1
  | removeGroup id =>
      refine ⟨World.commitUnit_disk, World.commitUnit_keeps Fewer (left rfl) fun db success => ?_⟩
      obtain ⟨_, -, deleted⟩ := GroupsService.remove_ok.mp success
      obtain ⟨-, rfl⟩ := Db.deleteGroup_ok.mp deleted
      exact fun row member => (Table.mem_delete.mp member).1
  | createLesson dto => exact ⟨rfl, left (LessonsService.create_only .files (by decide))⟩
  | removeGrade id =>
      exact ⟨World.commitUnit_disk, left (run_only _ .files (by simp [footprint]))⟩
  | removeNote id =>
      exact ⟨World.commitUnit_disk, left (run_only _ .files (by simp [footprint]))⟩
  | revokeInvitation id =>
      exact ⟨World.commitUnit_disk, left (run_only _ .files (by simp [footprint]))⟩
  | disconnect provider =>
      exact ⟨World.commitUnit_disk, left (run_only _ .files (by simp [footprint]))⟩
  | _ => exact ⟨World.commit_disk, left (run_only _ .files (by simp [footprint]))⟩

/-- The name an upload stores its bytes under, for a caller of a school. -/
def Command.storesAt (draw : Draw) (schoolId : Id) : Command → Option String
  | uploadForStudent _ _ | uploadToLibrary _ | uploadForLesson _ _ => some (keyFor schoolId draw.id)
  | _ => none

theorem Command.storesAt_ne_pending {schoolId : Id} {name : String} {command : Command}
    (stores : command.storesAt draw schoolId = some name) : name ≠ pendingKey := by
  cases command <;> cases stores <;> exact keyFor_ne_pending _ _

/-- A command leaves the stored bytes, stores some under a name it draws, or removes those of a
file of its caller's school. -/
theorem Command.run_disk (platform : Platform) (user : User) (outside : Outside) (world : World)
    (command : Command) :
    let after := (command.run platform user outside world).world.disk
    after = world.disk ∨
      (∃ key contents, command.storesAt outside.draw user.schoolId = some key ∧
        after = world.disk.put key contents) ∨
      ∃ file ∈ world.db.files.rows, file.schoolId = user.schoolId ∧
        after = world.disk.remove file.storageKey := by
  have stored : ∀ {after : Disk} {contents : List UInt8},
      command.storesAt outside.draw user.schoolId = some (keyFor user.schoolId outside.draw.id) →
      after = world.disk ∨
        after = world.disk.put (keyFor user.schoolId outside.draw.id) contents →
      after = world.disk ∨ (∃ key contents, command.storesAt outside.draw user.schoolId = some key ∧
        after = world.disk.put key contents) ∨ ∃ file ∈ world.db.files.rows,
          file.schoolId = user.schoolId ∧ after = world.disk.remove file.storageKey :=
    fun key either => either.imp_right fun put => .inl ⟨_, _, key, put⟩
  cases kind : command.stores with
  | false => exact .inl (run_aside kind).1
  | true =>
      cases command with
      | uploadForStudent studentId incoming =>
          exact stored rfl (FilesService.upload_disk fun _ => FilesService.studentTarget_of)
      | uploadToLibrary incoming =>
          exact stored rfl (FilesService.upload_disk fun _ => FilesService.libraryTarget_of)
      | uploadForLesson lessonId incoming =>
          exact stored rfl (FilesService.upload_disk fun _ => FilesService.lessonTarget_of)
      | removeFile id => exact FilesService.remove_disk.imp_right .inr
      | _ => cases kind

theorem Command.run_shelved (command : Command) (shelved : world.Shelved) :
    (command.run platform user outside world).world.Shelved := by
  cases kind : command.stores with
  | false =>
      exact shelved.shrink (run_aside kind).2 (run_aside kind).1
  | true =>
      cases command with
      | uploadForStudent studentId incoming => exact FilesService.upload_shelved shelved
      | uploadToLibrary incoming => exact FilesService.upload_shelved shelved
      | uploadForLesson lessonId incoming => exact FilesService.upload_shelved shelved
      | removeFile id => exact FilesService.remove_shelved shelved
      | _ => cases kind

theorem PublicCall.run_disk (call : PublicCall) :
    (call.run platform outside world).world.disk = world.disk := by
  cases call with
  | registerSchool dto => exact World.commit_disk
  | describeInvitation token => rfl
  | acceptInvitation token name => exact World.commit_disk
  | completeConnection provider code state =>
      unfold run
      dsimp only
      split <;> rfl

theorem PublicCall.run_files (call : PublicCall) :
    (call.run platform outside world).world.db.files = world.db.files :=
  call.run_only .files (by cases call <;> simp [footprint])

theorem Request.serve_shelved (request : Request) (shelved : world.Shelved) :
    (request.serve platform outside world).world.Shelved := by
  cases request with
  | query userId asked =>
      unfold serve
      dsimp only
      split <;> exact shelved
  | command userId asked =>
      unfold serve
      dsimp only
      split
      · exact shelved
      · exact asked.run_shelved shelved
  | anonymous call => exact shelved.same call.run_files call.run_disk

theorem Reachable.shelved (reachable : Reachable platform world) : world.Shelved := by
  induction reachable with
  | refl => exact .empty
  | tail _ step ih =>
      obtain ⟨outside, request, rfl⟩ := step
      exact request.serve_shelved ih

end

end TutorApp
