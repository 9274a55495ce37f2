import TutorApp.Files
import TutorApp.PosixPath

set_option autoImplicit false

namespace TutorApp

open PosixPath (Segment Plain)

/-- Files on the machine's own disk, below a root that is resolved when the service starts. -/
structure LocalStorageService where
  cwd : String
  root : String
  resolved : ∃ place, (∀ name ∈ place, Plain name) ∧ root.toList = PosixPath.render place

/-- The files of the machine, by their absolute paths. -/
abbrev FileSystem := String → Option (List UInt8)

/-- How a save goes: the file is written, or left as it was, or truncated and written in part. -/
inductive FileWrite where
  | whole
  | refused
  | torn (written : Nat)
  deriving Repr, DecidableEq

/-- A call of the storage driver, and whether the operating system goes along with it. -/
inductive StorageCall where
  | save (key : String) (contents : List UInt8) (saving : FileWrite)
  | read (key : String)
  | remove (key : String) (accepted : Bool)

def StorageCall.key : StorageCall → String
  | save key _ _ => key
  | read key => key
  | remove key _ => key

inductive StorageAnswer where
  | done
  | failed
  | bytes (contents : List UInt8)
  deriving DecidableEq

namespace LocalStorageService

/-- The root as it comes from `UPLOADS_DIR`. -/
def start (cwd uploadsDir : String) : LocalStorageService where
  cwd
  root := String.ofList (PosixPath.resolve cwd.toList uploadsDir.toList)
  resolved := ⟨_, PosixPath.normalized_plain _, String.toList_ofList⟩

variable (service : LocalStorageService)

/-- The path of a key, or a refusal of one that escapes the root. -/
@[irreducible] def pathFor (key : String) : Except String String :=
  let path := String.ofList (PosixPath.resolve service.cwd.toList
    (PosixPath.join service.root.toList key.toList))
  if path ≠ service.root ∧ ¬(service.root ++ "/").toList.isPrefixOf path.toList then
    .error s!"Refusing a storage key that escapes the root: {key}"
  else .ok path

/-- What `writeFile` answers and leaves. -/
def write (path : String) (contents : List UInt8) (files : FileSystem) :
    FileWrite → StorageAnswer × FileSystem
  | .whole => (.done, Function.update files path (some contents))
  | .refused => (.failed, files)
  | .torn written => (.failed, Function.update files path (some (contents.take written)))

/-- What one call answers and leaves; a removal tolerates whatever goes wrong. -/
def perform (call : StorageCall) (files : FileSystem) : StorageAnswer × FileSystem :=
  match call, service.pathFor call.key with
  | .save _ _ _, .error _ => (.failed, files)
  | .save _ contents saving, .ok path => write path contents files saving
  | .read _, .error _ => (.failed, files)
  | .read _, .ok path =>
      match files path with
      | some contents => (.bytes contents, files)
      | none => (.failed, files)
  | .remove _ _, .error _ => (.done, files)
  | .remove _ accepted, .ok path =>
      (.done, if accepted then Function.update files path none else files)

/-- Calls one after the other, with their answers in order. -/
def performAll : List StorageCall → FileSystem → List StorageAnswer × FileSystem
  | [], files => ([], files)
  | call :: rest, files =>
      let (answer, next) := service.perform call files
      let (answers, last) := performAll rest next
      (answer :: answers, last)

/-- Whether a path is the root or below it. -/
def Holds (path : String) : Prop :=
  path = service.root ∨ (service.root ++ "/").toList <+: path.toList

end LocalStorageService

namespace Disk

def perform (call : StorageCall) (disk : Disk) : StorageAnswer × Disk :=
  match call with
  | .save key contents .whole => (.done, disk.put key contents)
  | .save _ _ _ => (.failed, disk)
  | .read key =>
      match disk key with
      | some contents => (.bytes contents, disk)
      | none => (.failed, disk)
  | .remove key accepted => (.done, if accepted then disk.remove key else disk)

def performAll : List StorageCall → Disk → List StorageAnswer × Disk
  | [], disk => ([], disk)
  | call :: rest, disk =>
      let (answer, next) := disk.perform call
      let (answers, last) := performAll rest next
      (answer :: answers, last)

end Disk

/-- A key that is a path of its own: names with a slash between each two. -/
def CanonicalKey (key : String) : Prop :=
  ∃ names : List Segment, names ≠ [] ∧ (∀ name ∈ names, Plain name) ∧
    key.toList = ['/'].intercalate names

theorem keyFor_canonical {schoolId fileId : Id} (school : Plain schoolId.toList)
    (file : Plain fileId.toList) : CanonicalKey (keyFor schoolId fileId) := by
  refine ⟨[schoolId.toList, fileId.toList], List.cons_ne_nil _ _, ?_, ?_⟩
  · intro name member
    rcases List.mem_cons.mp member with rfl | last
    · exact school
    · rw [List.mem_singleton.mp last]
      exact file
  · simp [keyFor, List.intercalate_cons_cons]

/-- The keys whose last save was torn. -/
def StorageCall.tears (torn : List String) : StorageCall → List String
  | save key _ .whole => torn.filter fun other => other != key
  | save _ _ .refused => torn
  | save key _ (.torn _) => key :: torn
  | read _ => torn
  | remove key accepted => if accepted then torn.filter fun other => other != key else torn

def tornBy (torn : List String) (calls : List StorageCall) : List String :=
  calls.foldl StorageCall.tears torn

/-- No key is read whose last save was torn. -/
def ReadsWhole (torn : List String) : List StorageCall → Prop
  | [] => True
  | call :: rest => (∀ key ∈ torn, call ≠ .read key) ∧ ReadsWhole (call.tears torn) rest

namespace LocalStorageService

variable {service : LocalStorageService} {place : List Segment} {key path : String}

/-- Where a key leads from the root. -/
def target (place : List Segment) (key : String) : List Segment :=
  PosixPath.walk place (PosixPath.segments key.toList)

theorem target_plain (plain : ∀ name ∈ place, Plain name) (key : String) :
    ∀ name ∈ target place key, Plain name :=
  PosixPath.walk_keeps plain (PosixPath.segments_whole _)

theorem resolve_join (plain : ∀ name ∈ place, Plain name)
    (root : service.root.toList = PosixPath.render place) (key : String) :
    PosixPath.resolve service.cwd.toList (PosixPath.join service.root.toList key.toList) =
      PosixPath.render (target place key) := by
  have absolute : (PosixPath.join service.root.toList key.toList).head? = some '/' := by
    unfold PosixPath.join PosixPath.normalize
    dsimp only
    generalize PosixPath.normalized _ = names
    split <;> rfl
  rw [PosixPath.resolve, if_pos absolute, PosixPath.join, PosixPath.normalized_normalize, root]
  split
  · rename_i empty
    rw [PosixPath.normalized_render plain, target, empty]
    rfl
  · rw [PosixPath.normalized_slash, PosixPath.normalized_render plain, target]

/-- A key is taken if and only if it leads to the root or below it, and a root that is the
machine's own takes nothing below. -/
theorem pathFor_ok_iff (plain : ∀ name ∈ place, Plain name)
    (root : service.root.toList = PosixPath.render place) :
    service.pathFor key = .ok path ↔ path.toList = PosixPath.render (target place key) ∧
      (target place key = place ∨
        place ≠ [] ∧ ∃ rest, rest ≠ [] ∧ target place key = place ++ rest) := by
  have goal := target_plain plain key
  have itself : String.ofList (PosixPath.render (target place key)) = service.root ↔
      target place key = place := by
    rw [← String.toList_inj, String.toList_ofList, root]
    exact ⟨PosixPath.render_injective goal plain, congrArg PosixPath.render⟩
  have below : (service.root ++ "/").toList.isPrefixOf
      (String.ofList (PosixPath.render (target place key))).toList = true ↔
        place ≠ [] ∧ ∃ rest, rest ≠ [] ∧ target place key = place ++ rest := by
    rw [List.isPrefixOf_iff_prefix, String.toList_ofList, String.toList_append, root]
    exact PosixPath.render_below_iff plain goal
  rw [← itself, ← below, pathFor, resolve_join plain root]
  split
  · rename_i outside
    refine iff_of_false (fun taken => by cases taken) ?_
    rintro ⟨-, same | under⟩
    · exact outside.1 same
    · exact outside.2 under
  · rename_i inside
    rw [and_iff_left (or_iff_not_and_not.mpr inside), Except.ok.injEq, eq_comm,
      ← String.toList_inj, String.toList_ofList]

/-- The path of a canonical key is the key, below the root. -/
theorem pathFor_canonical (deep : service.root ≠ "/") (canonical : CanonicalKey key) :
    service.pathFor key = .ok (service.root ++ "/" ++ key) := by
  obtain ⟨place, plain, root⟩ := service.resolved
  obtain ⟨names, some, all, spelled⟩ := canonical
  have below : place ≠ [] := by
    rintro rfl
    exact deep (String.toList_inj.mp root)
  have led : target place key = place ++ names := by
    rw [target, spelled, PosixPath.segments,
      List.splitOn_intercalate '/' (fun name member => (all name member).whole) some,
      PosixPath.walk_plain all]
  rw [pathFor_ok_iff plain root, led]
  refine ⟨?_, .inr ⟨below, names, some, rfl⟩⟩
  rw [String.toList_append, String.toList_append, root, spelled, PosixPath.render, PosixPath.render,
    PosixPath.intercalate_append below some, List.append_assoc]
  rfl

theorem holds_of_pathFor (taken : service.pathFor key = .ok path) : service.Holds path := by
  rw [pathFor] at taken
  split at taken
  · cases taken
  · rename_i inside
    rw [Holds, ← Except.ok.inj taken, ← List.isPrefixOf_iff_prefix]
    exact or_iff_not_and_not.mpr inside

variable {files : FileSystem} {disk : Disk} {torn : List String}

theorem write_outside {taken : String} {contents : List UInt8} {saving : FileWrite}
    (other : path ≠ taken) : (write taken contents files saving).2 path = files path := by
  cases saving with
  | whole => exact Function.update_of_ne other _ _
  | refused => rfl
  | torn written => exact Function.update_of_ne other _ _

/-- No call touches a file outside the root. -/
theorem perform_outside (call : StorageCall) (outside : ¬service.Holds path) :
    (service.perform call files).2 path = files path := by
  have other : ∀ taken, service.pathFor call.key = .ok taken → path ≠ taken :=
    fun taken found same => outside (same ▸ holds_of_pathFor found)
  unfold perform
  split
  · rfl
  · rename_i found
    exact write_outside (other _ found)
  · rfl
  · split <;> rfl
  · rfl
  · rename_i found
    split
    · exact Function.update_of_ne (other _ found) _ _
    · rfl

theorem performAll_outside (calls : List StorageCall) (outside : ¬service.Holds path) :
    (service.performAll calls files).2 path = files path := by
  induction calls generalizing files with
  | nil => rfl
  | cons call rest ih => exact ih.trans (perform_outside call outside)

/-- The machine holds what the storage holds, under the path of each canonical key that is not
torn. -/
def Holding (service : LocalStorageService) (files : FileSystem) (disk : Disk)
    (torn : List String) : Prop :=
  ∀ key, CanonicalKey key → key ∉ torn → files (service.root ++ "/" ++ key) = disk key

theorem path_injective {other : String}
    (same : service.root ++ "/" ++ other = service.root ++ "/" ++ key) : other = key := by
  have letters := congrArg String.toList same
  rw [String.toList_append, String.toList_append (t := key)] at letters
  exact String.toList_inj.mp (List.append_cancel_left letters)

/-- Both hold the same under a key again. -/
theorem Holding.update {contents : Option (List UInt8)} (holding : service.Holding files disk torn) :
    service.Holding (Function.update files (service.root ++ "/" ++ key) contents)
      (Function.update disk key contents) (torn.filter fun other => other != key) := by
  intro other canonical whole
  by_cases same : other = key
  · rw [same, Function.update_self, Function.update_self]
  · have before : other ∉ torn := by
      intro listed
      exact whole (List.mem_filter.mpr ⟨listed, bne_iff_ne.mpr same⟩)
    rw [Function.update_of_ne same, Function.update_of_ne fun path => same (path_injective path),
      holding other canonical before]

/-- What is left of a torn save concerns no other key. -/
theorem Holding.tear {contents : Option (List UInt8)} (holding : service.Holding files disk torn) :
    service.Holding (Function.update files (service.root ++ "/" ++ key) contents) disk
      (key :: torn) := by
  intro other canonical whole
  rw [List.mem_cons, not_or] at whole
  obtain ⟨different, before⟩ := whole
  rw [Function.update_of_ne fun path => different (path_injective path),
    holding other canonical before]

/-- A call on a canonical key is answered alike, and leaves the two holding the same. -/
theorem perform_holding (deep : service.root ≠ "/") {call : StorageCall}
    (canonical : CanonicalKey call.key) (whole : ∀ key ∈ torn, call ≠ .read key)
    (holding : service.Holding files disk torn) :
    (service.perform call files).1 = (disk.perform call).1 ∧
      service.Holding (service.perform call files).2 (disk.perform call).2 (call.tears torn) := by
  cases call with
  | save key contents saving =>
      have path : service.pathFor key = .ok (service.root ++ "/" ++ key) :=
        pathFor_canonical deep canonical
      unfold perform
      rw [show (StorageCall.save key contents saving).key = key from rfl, path]
      cases saving with
      | whole => exact ⟨rfl, holding.update⟩
      | refused => exact ⟨rfl, holding⟩
      | torn written => exact ⟨rfl, holding.tear⟩
  | read key =>
      have path : service.pathFor key = .ok (service.root ++ "/" ++ key) :=
        pathFor_canonical deep canonical
      have same : files (service.root ++ "/" ++ key) = disk key :=
        holding key canonical fun listed => whole key listed rfl
      unfold perform Disk.perform
      rw [show (StorageCall.read key).key = key from rfl, path]
      dsimp only
      rw [same]
      cases disk key with
      | some contents => exact ⟨rfl, holding⟩
      | none => exact ⟨rfl, holding⟩
  | remove key accepted =>
      have path : service.pathFor key = .ok (service.root ++ "/" ++ key) :=
        pathFor_canonical deep canonical
      unfold perform Disk.perform
      rw [show (StorageCall.remove key accepted).key = key from rfl, path]
      cases accepted with
      | true => exact ⟨rfl, holding.update⟩
      | false => exact ⟨rfl, holding⟩

theorem performAll_holding (deep : service.root ≠ "/") {calls : List StorageCall}
    (canonical : ∀ call ∈ calls, CanonicalKey call.key) (whole : ReadsWhole torn calls)
    (holding : service.Holding files disk torn) :
    (service.performAll calls files).1 = (disk.performAll calls).1 ∧
      service.Holding (service.performAll calls files).2 (disk.performAll calls).2
        (tornBy torn calls) := by
  induction calls generalizing files disk torn with
  | nil => exact ⟨rfl, holding⟩
  | cons call rest ih =>
      obtain ⟨answer, next⟩ :=
        perform_holding deep (canonical call List.mem_cons_self) whole.1 holding
      obtain ⟨answers, last⟩ := ih (fun other member =>
        canonical other (List.mem_cons_of_mem _ member)) whole.2 next
      refine ⟨?_, last⟩
      simp only [performAll, Disk.performAll, answer, answers]

end LocalStorageService

/-- Whatever keys the driver is called with, it touches nothing outside its root. On the keys
the application makes it is the storage the services are modelled with, as long as nothing is read
that a failed save has torn: it answers alike, call for call, and ends up holding the same but
under such keys. -/
theorem local_driver_is_contained (service : LocalStorageService) :
    (∀ calls files path, ¬service.Holds path →
      (service.performAll calls files).2 path = files path) ∧
      (service.root ≠ "/" → ∀ calls, (∀ call ∈ calls, CanonicalKey call.key) →
        ReadsWhole [] calls → ∀ files disk, service.Holding files disk [] →
          (service.performAll calls files).1 = (Disk.performAll calls disk).1 ∧
            service.Holding (service.performAll calls files).2 (Disk.performAll calls disk).2
              (tornBy [] calls)) :=
  ⟨fun calls _ _ outside => LocalStorageService.performAll_outside calls outside,
    fun deep _ canonical whole _ _ holding =>
      LocalStorageService.performAll_holding deep canonical whole holding⟩

/-- A server that keeps its uploads beside itself. -/
def besideServer : LocalStorageService := .start "/srv" "./uploads"

/-- A save that fails half way is made good and read back, and a key that climbs out writes
nothing. -/
theorem upload_stored_beside_server (files : FileSystem) :
    let calls := [StorageCall.save (keyFor "s1" "f1") [1, 2] (.torn 1),
      .save (keyFor "s1" "f1") [1, 2] .whole, .read (keyFor "s1" "f1")]
    (besideServer.performAll calls fun _ => none).1 = [.failed, .done, .bytes [1, 2]] ∧
      (besideServer.performAll [.save "../../etc/passwd" [0] .whole] files).2 "/etc/passwd" =
        files "/etc/passwd" := by
  intro calls
  obtain ⟨contained, stores⟩ := local_driver_is_contained besideServer
  have root : besideServer.root = "/srv/uploads" := by decide
  have canonical : ∀ call ∈ calls, CanonicalKey call.key := by
    intro call member
    have key : call.key = keyFor "s1" "f1" := by
      rcases List.mem_cons.mp member with rfl | member
      · rfl
      · rcases List.mem_cons.mp member with rfl | last
        · rfl
        · rw [List.mem_singleton.mp last]
          rfl
    rw [key]
    exact keyFor_canonical (by decide) (by decide)
  have whole : ReadsWhole [] calls :=
    ⟨fun _ listed => (List.not_mem_nil listed).elim, fun _ _ same => (by cases same),
      fun _ listed => (List.not_mem_nil listed).elim, trivial⟩
  have deep : besideServer.root ≠ "/" := by
    rw [root]
    decide
  refine ⟨?_, contained _ files _ ?_⟩
  · rw [(stores deep calls canonical whole (fun _ => none) (fun _ => none) fun _ _ _ => rfl).1]
    decide
  · rw [LocalStorageService.Holds, root]
    decide

end TutorApp
