import TutorApp.Notes

set_option autoImplicit false

namespace TutorApp

open Relational

/-- What a caller hands over: the bytes, and what the browser said about them. -/
structure IncomingFile where
  originalName : String
  mimeType : String
  size : Nat
  buffer : List UInt8
  deriving Repr, DecidableEq

/-- The storage driver: a map from keys to bytes. -/
abbrev Disk := String → Option (List UInt8)

/-- What outlives a request: the database and the stored bytes. -/
structure World where
  db : Db
  disk : Disk

def World.empty : World := ⟨Db.empty, fun _ => none⟩

/-- Bytes that must appear at an offset for a type to be plausible. -/
structure Signature where
  offset : Nat
  bytes : List UInt8
  deriving Repr, DecidableEq

def ascii (text : String) : List UInt8 := text.toList.map fun c => UInt8.ofNat c.toNat

def signatures : String → Option (List Signature)
  | "image/jpeg" => some [⟨0, [0xff, 0xd8, 0xff]⟩]
  | "image/png" => some [⟨0, [0x89, 0x50, 0x4e, 0x47, 0x0d, 0x0a, 0x1a, 0x0a]⟩]
  | "image/heic" => some [⟨4, ascii "ftypheic"⟩, ⟨4, ascii "ftypheix"⟩, ⟨4, ascii "ftyphevc"⟩,
      ⟨4, ascii "ftypmif1"⟩, ⟨4, ascii "ftypmsf1"⟩]
  | "image/webp" => some [⟨0, ascii "RIFF"⟩]
  | "application/pdf" => some [⟨0, ascii "%PDF-"⟩]
  | "application/msword" => some [⟨0, [0xd0, 0xcf, 0x11, 0xe0, 0xa1, 0xb1, 0x1a, 0xe1]⟩]
  | "application/vnd.openxmlformats-officedocument.wordprocessingml.document" =>
      some [⟨0, ascii "PK\x03\x04"⟩]
  | "application/vnd.openxmlformats-officedocument.spreadsheetml.sheet" =>
      some [⟨0, ascii "PK\x03\x04"⟩]
  | _ => none

/-- Whether the buffer carries these bytes at that offset. -/
def Signature.isAt (signature : Signature) (buffer : List UInt8) : Bool :=
  (buffer.drop signature.offset).take signature.bytes.length == signature.bytes

def bytesLookLike (mimeType : String) (buffer : List UInt8) : Bool :=
  if mimeType = "text/plain" then !buffer.contains 0
  else if mimeType = "image/webp" then
    Signature.isAt ⟨0, ascii "RIFF"⟩ buffer && Signature.isAt ⟨8, ascii "WEBP"⟩ buffer
  else match signatures mimeType with
    | none => false
    | some candidates => candidates.any fun signature => signature.isAt buffer

def allowedMimeTypes : List String :=
  ["image/jpeg", "image/png", "image/heic", "image/webp", "application/pdf", "text/plain",
    "application/msword",
    "application/vnd.openxmlformats-officedocument.wordprocessingml.document",
    "application/vnd.openxmlformats-officedocument.spreadsheetml.sheet"]

def keyFor (schoolId fileId : Id) : String := schoolId ++ "/" ++ fileId

/-- The key a row is inserted under before its bytes are stored. -/
def pendingKey : String := "pending"

theorem keyFor_ne_pending (schoolId id : Id) : keyFor schoolId id ≠ pendingKey := by
  intro same
  have slash : '/' ∈ (keyFor schoolId id).toList := by simp [keyFor]
  rw [same] at slash
  revert slash
  decide

def Disk.put (disk : Disk) (key : String) (contents : List UInt8) : Disk :=
  Function.update disk key (some contents)

def Disk.remove (disk : Disk) (key : String) : Disk := Function.update disk key none

namespace FilesService

def mb : Nat := 1024 * 1024

/-- What an upload is stored against. -/
structure UploadTarget where
  purpose : FilePurpose
  schoolId : Id
  studentId : Option Id
  lessonId : Option Id
  deriving Repr, DecidableEq

/-- The bytes a school's rows say it stores, its unfinished uploads included. -/
def storedBytes (schoolId : Id) (db : Db) : Nat :=
  ((db.files.select fun row => row.schoolId == schoolId).map File.sizeBytes).sum

section

variable (platform : Platform) (user : User)

def maxBytes : Nat := platform.maxUploadMb * mb

def maxSchoolBytes : Nat := platform.maxSchoolStorageMb * mb

/-- Why a file is not stored whatever it is stored against. -/
def unacceptable (incoming : IncomingFile) : Option HttpError :=
  if incoming.size = 0 then some (.badRequest "That file is empty")
  else if maxBytes platform < incoming.size then
    some (.payloadTooLarge s!"Files must be under {platform.maxUploadMb} MB")
  else if !allowedMimeTypes.contains incoming.mimeType then
    some (.unsupportedMediaType s!"Cannot store a {incoming.mimeType} file")
  else if !bytesLookLike incoming.mimeType incoming.buffer then
    some (.unsupportedMediaType s!"Cannot store a {incoming.mimeType} file")
  else none

def assertAcceptable (incoming : IncomingFile) : Service Unit :=
  refuse (unacceptable platform incoming)

/-- Counted before the write and including the incoming file. -/
def assertWithinQuota (schoolId : Id) (incomingBytes : Nat) (db : Db) : Service Unit :=
  require (storedBytes schoolId db + incomingBytes ≤ maxSchoolBytes platform)
    (.payloadTooLarge (s!"Your school has used its {platform.maxSchoolStorageMb} MB of storage. " ++
      "Remove some files first."))

def studentTarget (studentId : Id) (db : Db) : Service UploadTarget := do
  let student ← StudentsService.findOne user studentId db
  return ⟨.studentAttachment, student.schoolId, some student.id, none⟩

def libraryTarget (_ : Db) : Service UploadTarget :=
  return ⟨.tutorLibrary, user.schoolId, none, none⟩

def lessonTarget (lessonId : Id) (db : Db) : Service UploadTarget := do
  let lesson ← LessonsService.findReachable user lessonId db
  return ⟨.lessonAttachment, lesson.schoolId, none, some lesson.id⟩

/-- The row an upload starts as. -/
def pendingRow (draw : Draw) (target : UploadTarget) (incoming : IncomingFile) : File where
  id := draw.id
  storageKey := pendingKey
  originalName := Js.slice 255 incoming.originalName
  mimeType := incoming.mimeType
  sizeBytes := incoming.size
  purpose := target.purpose
  uploadedAt := none
  createdAt := draw.now
  schoolId := target.schoolId
  uploadedById := user.id
  studentId := target.studentId
  lessonId := target.lessonId

/-- The checks of an upload and the insert of its row. -/
def beginUpload (draw : Draw) (findTarget : Db → Service UploadTarget) (incoming : IncomingFile)
    (db : Db) : Service (File × Db) := do
  let target ← findTarget db
  assertAcceptable platform incoming
  assertWithinQuota platform target.schoolId incoming.size db
  let row := pendingRow user draw target incoming
  let db ← db.createFile row
  return (row, db)

/-- The update once the bytes are stored. -/
def finishUpload (draw : Draw) (row : File) (db : Db) : Service (File × Db) := do
  let storageKey := keyFor row.schoolId row.id
  let db ← db.finaliseFile row.id storageKey draw.now
  return ({ row with storageKey, uploadedAt := some draw.now }, db)

/-- The bytes and the update; `saves` says whether the driver stores them. An upload whose bytes
were not stored leaves its row behind. -/
def storeBytes (draw : Draw) (saves : Bool) (row : File) (contents : List UInt8) (world : World) :
    Service File × World :=
  if !saves then (.error .internal, world)
  else
    let disk := world.disk.put (keyFor row.schoolId row.id) contents
    match finishUpload draw row world.db with
    | .error reason => (.error reason, ⟨world.db, disk⟩)
    | .ok (file, db) => (.ok file, ⟨db, disk⟩)

/-- The row before the bytes, and finalised after. -/
def upload (draw : Draw) (saves : Bool) (findTarget : Db → Service UploadTarget)
    (incoming : IncomingFile) (world : World) : Service File × World :=
  match beginUpload platform user draw findTarget incoming world.db with
  | .error reason => (.error reason, world)
  | .ok (row, db) => storeBytes draw saves row incoming.buffer { world with db }

def uploadForStudent (draw : Draw) (saves : Bool) (studentId : Id) (incoming : IncomingFile)
    (world : World) : Service File × World :=
  upload platform user draw saves (studentTarget user studentId) incoming world

def uploadToLibrary (draw : Draw) (saves : Bool) (incoming : IncomingFile) (world : World) :
    Service File × World :=
  upload platform user draw saves (libraryTarget user) incoming world

def uploadForLesson (draw : Draw) (saves : Bool) (lessonId : Id) (incoming : IncomingFile)
    (world : World) : Service File × World :=
  upload platform user draw saves (lessonTarget user lessonId) incoming world

end

section

variable (user : User)

/-- Newest first. -/
def listed (db : Db) (keep : File → Bool) : List File :=
  sortByTimeDesc File.createdAt (db.files.select keep)

def listForStudent (studentId : Id) (db : Db) : Service (List File) := do
  let student ← StudentsService.findOne user studentId db
  return listed db fun row => row.studentId == some student.id

def listForLesson (lessonId : Id) (db : Db) : Service (List File) := do
  let lesson ← LessonsService.findReachable user lessonId db
  return listed db fun row => row.lessonId == some lesson.id

def listOwnLibrary (db : Db) : List File :=
  listed db fun row =>
    row.schoolId == user.schoolId && row.purpose == .tutorLibrary && row.uploadedById == user.id

/-- A file of the school, reachable through its parents; a library is personal. -/
def findReachable (id : Id) (db : Db) : Service File := do
  let file ← orNotFound ((db.files.find id).filter fun row => row.schoolId == user.schoolId)
    "File not found"
  LessonsService.reachesStudent user file.studentId db
  LessonsService.reachesLesson user file.lessonId db
  require (file.purpose != .tutorLibrary || file.uploadedById == user.id || user.isAdmin)
    (.notFound "File not found")
  return file

/-- The row and its bytes; a key the driver does not hold is an error of the driver. -/
def open_ (id : Id) (world : World) : Service (File × List UInt8) := do
  let file ← findReachable user id world.db
  match world.disk file.storageKey with
  | some bytes => return (file, bytes)
  | none => .error .internal

/-- A file this caller may remove, and the database without its row. -/
def removeRow (id : Id) (db : Db) : Service (File × Db) := do
  let file ← findReachable user id db
  require (file.uploadedById == user.id || user.isAdmin)
    (.forbidden "Only the person who uploaded this can remove it")
  let db ← db.deleteFile file.id
  return (file, db)

/-- The row, then the bytes, whose absence is tolerated. -/
def remove (id : Id) (world : World) : Service Unit × World :=
  match removeRow user id world.db with
  | .error reason => (.error reason, world)
  | .ok (file, db) => (.ok (), ⟨db, world.disk.remove file.storageKey⟩)

end

section

variable {platform : Platform} {user : User} {draw : Draw} {id : Id} {row file : File}
  {db next : Db}

theorem beginUpload_ok {findTarget : Db → Service UploadTarget} {incoming : IncomingFile} :
    beginUpload platform user draw findTarget incoming db = .ok (row, next) ↔
      ∃ target, findTarget db = .ok target ∧ assertAcceptable platform incoming = .ok () ∧
        assertWithinQuota platform target.schoolId incoming.size db = .ok () ∧
          db.createFile (pendingRow user draw target incoming) = .ok next ∧
            pendingRow user draw target incoming = row := by
  simp only [beginUpload, bind_ok, exists_unit_ok, pure_ok, Prod.mk.injEq, exists_eq_right_right]

theorem finishUpload_ok : finishUpload draw row db = .ok (file, next) ↔
    db.finaliseFile row.id (keyFor row.schoolId row.id) draw.now = .ok next ∧
      { row with storageKey := keyFor row.schoolId row.id, uploadedAt := some draw.now } = file := by
  simp only [finishUpload, bind_ok, pure_ok, Prod.mk.injEq, exists_eq_right_right]

theorem removeRow_ok : removeRow user id db = .ok (file, next) ↔
    findReachable user id db = .ok file ∧ (file.uploadedById == user.id || user.isAdmin) = true ∧
      db.deleteFile file.id = .ok next := by
  simp only [removeRow, bind_ok, exists_const, require_ok, pure_ok, Prod.mk.injEq]
  constructor
  · rintro ⟨_, reached, own, _, deleted, rfl, rfl⟩
    exact ⟨reached, own, deleted⟩
  · rintro ⟨reached, own, deleted⟩
    exact ⟨file, reached, own, next, deleted, rfl, rfl⟩

theorem storeBytes_db (draw : Draw) (saves : Bool) (row : File) (contents : List UInt8)
    (world : World) : ∃ files,
      (storeBytes draw saves row contents world).2.db = { world.db with files } := by
  unfold storeBytes
  split
  · exact ⟨_, rfl⟩
  · dsimp only
    split
    · exact ⟨_, rfl⟩
    · rename_i finished
      obtain ⟨finalised, -⟩ := finishUpload_ok.mp finished
      obtain ⟨-, files, -, rfl⟩ := Db.finaliseFile_ok.mp finalised
      exact ⟨files, rfl⟩

theorem upload_db (platform : Platform) (user : User) (draw : Draw) (saves : Bool)
    (findTarget : Db → Service UploadTarget) (incoming : IncomingFile) (world : World) : ∃ files,
      (upload platform user draw saves findTarget incoming world).2.db =
        { world.db with files } := by
  unfold upload
  split
  · exact ⟨_, rfl⟩
  · rename_i row db began
    obtain ⟨_, -, -, -, created, -⟩ := beginUpload_ok.mp began
    obtain ⟨-, -, -, _, -, rfl⟩ := Db.createFile_ok.mp created
    exact storeBytes_db draw saves row incoming.buffer _

theorem remove_db (user : User) (id : Id) (world : World) : ∃ files,
    (remove user id world).2.db = { world.db with files } := by
  unfold remove
  split
  · exact ⟨_, rfl⟩
  · rename_i removed
    obtain ⟨-, -, deleted⟩ := removeRow_ok.mp removed
    obtain ⟨files, -, rfl⟩ := Db.deleteFile_ok.mp deleted
    exact ⟨files, rfl⟩

end

end FilesService

end TutorApp
