import TutorApp.PercentEncoding
import TutorApp.StoredFiles

set_option autoImplicit false

namespace TutorApp

open Relational

/-- The headers a download is sent with, and the bytes that are streamed. -/
structure Download where
  contentType : String
  contentLength : String
  contentDisposition : String
  body : List UInt8
  deriving Repr, DecidableEq

namespace FilesController

/-- What `encodeURIComponent` leaves as it is. -/
def component : PercentEncoding.Scheme where
  keeps c := c.isAlphanum || ['-', '_', '.', '!', '~', '*', '\'', '(', ')'].contains c
  marks := by decide

def encodeURIComponent (text : String) : String := PercentEncoding.encode component text

/-- `attachment` rather than `inline`. -/
def download (file : File) (contents : List UInt8) : Download where
  contentType := file.mimeType
  contentLength := toString file.sizeBytes
  contentDisposition := "attachment; filename=\"" ++ encodeURIComponent file.originalName ++ "\""
  body := contents

/-- The name a client finds between the quotes of the header. -/
def filenameOf (contentDisposition : String) : Option String :=
  match contentDisposition.toList.splitOn '"' with
  | [opening, name, []] =>
      if String.ofList opening = "attachment; filename=" then PercentEncoding.decodeList name else none
  | _ => none

theorem component_spares {c : Char} {text : String} (unkept : component.keeps c = false)
    (mark : c ≠ '%') : c ∉ PercentEncoding.encodeList component text.toList := by
  have other : c.isAlphanum = false := by
    simp only [component, Bool.or_eq_false_iff] at unkept
    exact unkept.1
  exact PercentEncoding.not_mem_encodeList unkept mark other

/-- The name in the header is the name that is stored, whatever characters it has. -/
theorem filenameOf_download (file : File) (contents : List UInt8) :
    filenameOf (download file contents).contentDisposition = some file.originalName := by
  have quoteless : '"' ∉ PercentEncoding.encodeList component file.originalName.toList :=
    component_spares (by decide) (by decide)
  have parts : (download file contents).contentDisposition.toList.splitOn '"' =
      ["attachment; filename=".toList,
        PercentEncoding.encodeList component file.originalName.toList, []] := by
    have joined : (download file contents).contentDisposition.toList =
        ['"'].intercalate ["attachment; filename=".toList,
          PercentEncoding.encodeList component file.originalName.toList, []] := by
      simp [download, encodeURIComponent, PercentEncoding.encode]
    rw [joined]
    apply List.splitOn_intercalate
    · simp [quoteless]
    · exact List.cons_ne_nil _ _
  rw [filenameOf, parts]
  simp only [String.ofList_toList, if_pos, PercentEncoding.decodeList_encodeList]

theorem alphanumeric_printable {c : Char} (alphanumeric : c.isAlphanum = true) :
    32 ≤ c.toNat ∧ c.toNat < 127 := by
  delta Char.isAlphanum Char.isAlpha Char.isUpper Char.isLower Char.isDigit at alphanumeric
  simp only [Bool.or_eq_true, Bool.and_eq_true, decide_eq_true_eq, ge_iff_le,
    UInt32.le_iff_toNat_le] at alphanumeric
  have value : c.toNat = c.val.toNat := rfl
  rcases alphanumeric with (⟨low, high⟩ | ⟨low, high⟩) | ⟨low, high⟩ <;>
    simp at low high <;> omega

/-- One printable line of ASCII: no name ends the header or begins another. -/
theorem disposition_printable (file : File) (contents : List UInt8) :
    ∀ c ∈ (download file contents).contentDisposition.toList, 32 ≤ c.toNat ∧ c.toNat < 127 := by
  intro c member
  have spelled : c ∈ "attachment; filename=\"".toList ∨
      c ∈ PercentEncoding.encodeList component file.originalName.toList ∨ c = '"' := by
    simpa [download, encodeURIComponent, PercentEncoding.encode, or_assoc] using member
  rcases spelled with opening | name | rfl
  · have printable : "attachment; filename=\"".toList.all
        (fun c => decide (32 ≤ c.toNat ∧ c.toNat < 127)) = true := by decide
    exact of_decide_eq_true (List.all_eq_true.mp printable c opening)
  · rcases PercentEncoding.mem_encodeList name with kept | rfl | alphanumeric
    · simp only [component, Bool.or_eq_true, List.contains_iff_mem] at kept
      rcases kept with alphanumeric | mark
      · exact alphanumeric_printable alphanumeric
      · have printable : ['-', '_', '.', '!', '~', '*', '\'', '(', ')'].all
            (fun c => decide (32 ≤ c.toNat ∧ c.toNat < 127)) = true := by decide
        exact of_decide_eq_true (List.all_eq_true.mp printable c mark)
    · decide
    · exact alphanumeric_printable alphanumeric
  · decide

end FilesController

open FilesService FilesController

/-- A row of one of the types that are stored, for bytes that look like it. -/
structure File.Vetted (platform : Platform) (contents : List UInt8) (file : File) : Prop where
  listed : file.mimeType ∈ allowedMimeTypes
  recognised : bytesLookLike file.mimeType contents = true
  filled : 0 < file.sizeBytes
  small : file.sizeBytes ≤ maxBytes platform
  short : Js.utf16Length file.originalName ≤ 255

/-- What a call's checks have established by the time it reaches a phase. -/
def UploadPhase.Vetted {τ : Type} (platform : Platform) (state : Uploads τ) : UploadPhase → Prop
  | .measuring _ _ incoming | .inserting _ _ incoming => unacceptable platform incoming = none
  | .saving row _ | .finalising row => row.Vetted platform (state.sent row.id)
  | .deleting file | .erasing file | .reading file | .opened file _ =>
      file.Vetted platform (state.sent file.id)
  | _ => True

structure Uploads.Vetted {τ : Type} (platform : Platform) (state : Uploads τ) : Prop where
  rows : ∀ row ∈ state.db.files.rows, row.Vetted platform (state.sent row.id)
  calls : ∀ t, (state.calls t).Vetted platform state

theorem sliceList_length (limit : Nat) (text : List Char) :
    ((Js.sliceList limit text).map fun c => if c.toNat < 0x10000 then 1 else 2).sum ≤ limit := by
  induction text generalizing limit with
  | nil => simp [Js.sliceList]
  | cons c rest ih =>
      by_cases narrow : c.toNat < 0x10000
      · simp only [Js.sliceList, narrow, if_true]
        split
        · have later := ih (limit - 1)
          simp only [List.map_cons, List.sum_cons, narrow, if_true]
          omega
        · rename_i full
          rw [if_pos (by omega)]
          exact Nat.zero_le _
      · simp only [Js.sliceList, narrow, if_false]
        split
        · have later := ih (limit - 2)
          simp only [List.map_cons, List.sum_cons, narrow, if_false]
          omega
        · split
          · exact Nat.zero_le _
          · -- the replacement character takes the unit that the half would
            rename_i left
            exact Nat.pos_of_ne_zero left

theorem utf16Length_slice (limit : Nat) (text : String) :
    Js.utf16Length (Js.slice limit text) ≤ limit := by
  rw [Js.utf16Length, Js.slice, String.toList_ofList]
  exact sliceList_length limit text.toList

section

variable {platform : Platform} {τ : Type} {state after : Uploads τ} {user : User} {draw : Draw}
  {target : UploadTarget} {incoming : IncomingFile} {row file : File} {phase : UploadPhase}

theorem acceptable_checks (acceptable : unacceptable platform incoming = none) :
    incoming.size ≠ 0 ∧ incoming.size ≤ maxBytes platform ∧
      incoming.mimeType ∈ allowedMimeTypes ∧
        bytesLookLike incoming.mimeType incoming.buffer = true := by
  unfold unacceptable at acceptable
  split at acceptable
  · cases acceptable
  · rename_i filled
    split at acceptable
    · cases acceptable
    · rename_i small
      split at acceptable
      · cases acceptable
      · rename_i listed
        split at acceptable
        · cases acceptable
        · rename_i recognised
          simp only [Bool.not_eq_true', Bool.not_eq_false, List.contains_iff_mem] at listed recognised
          exact ⟨filled, not_lt.mp small, listed, recognised⟩

theorem pendingRow_vetted (acceptable : unacceptable platform incoming = none) :
    (pendingRow user draw target incoming).Vetted platform incoming.buffer := by
  obtain ⟨filled, small, listed, recognised⟩ := acceptable_checks acceptable
  exact ⟨listed, recognised, Nat.pos_of_ne_zero filled, small, utf16Length_slice 255 _⟩

theorem admitted_vetted {userId : Id} {place : UploadPlace} :
    (admitted platform userId place incoming state.db).Vetted platform state := by
  unfold admitted
  split
  · trivial
  · split
    · rename_i admits
      simp only [acceptedTarget, bind_ok, pure_ok, assertAcceptable, refuse_ok] at admits
      obtain ⟨_, -, _, acceptable, -⟩ := admits
      exact acceptable
    · trivial

theorem measured_vetted (acceptable : unacceptable platform incoming = none) :
    (measured platform user target incoming state.db).Vetted platform state := by
  unfold measured
  split
  · exact acceptable
  · trivial

theorem found_vetted (vetted : state.Vetted platform) (userId id : Id) :
    (found userId id state.db).Vetted platform state := by
  unfold found
  split
  · trivial
  · split
    · rename_i file success
      simp only [removable, bind_ok, pure_ok] at success
      obtain ⟨_, reached, _, -, rfl⟩ := success
      exact vetted.rows _ (findReachable_member reached)
    · trivial

theorem sought_vetted (vetted : state.Vetted platform) (userId id : Id) :
    (sought userId id state.db).Vetted platform state := by
  unfold sought
  split
  · trivial
  · split
    · rename_i success
      exact vetted.rows _ (findReachable_member success)
    · trivial

theorem readBytes_vetted (vetted : file.Vetted platform (state.sent file.id)) :
    (readBytes file state.disk).Vetted platform state := by
  unfold readBytes
  split
  · exact vetted
  · trivial

theorem File.Vetted.pass (vetted : file.Vetted platform (state.sent file.id))
    (same : after.sent file.id = state.sent file.id) :
    file.Vetted platform (after.sent file.id) := by
  rw [same]
  exact vetted

/-- What a check has established stays so while the bytes a row was drawn for are the same. -/
theorem UploadPhase.Vetted.pass (vetted : phase.Vetted platform state) (held : phase.Held state)
    (same : ∀ id ∈ state.drawn, after.sent id = state.sent id) : phase.Vetted platform after := by
  cases phase with
  | measuring | inserting => exact vetted
  | saving row contents => exact File.Vetted.pass vetted (same row.id held.1.drawn)
  | finalising row => exact File.Vetted.pass vetted (same row.id held.1.drawn)
  | deleting file | reading file => exact File.Vetted.pass vetted (same file.id held.drawn)
  | erasing file | opened file contents => exact File.Vetted.pass vetted (same file.id held.1.drawn)
  | _ => trivial

variable [DecidableEq τ] {t : τ}

/-- The bytes that a row was drawn for are never drawn again. -/
theorem UploadStep.same_sent (step : UploadStep platform t state after) :
    ∀ id ∈ state.drawn, after.sent id = state.sent id := by
  intro id member
  cases step with
  | insert draw inserting new plain =>
      apply Function.update_of_ne
      rintro rfl
      exact new member
  | _ => rfl

/-- A row that a step leaves was there, under some key, or has just been inserted. -/
theorem UploadStep.row_from (step : UploadStep platform t state after)
    (member : row ∈ after.db.files.rows) :
    (∃ old ∈ state.db.files.rows, ∃ storageKey uploadedAt,
        row = { old with storageKey, uploadedAt }) ∨
      ∃ user draw target incoming, state.calls t = .inserting user target incoming ∧
        row = pendingRow user draw target incoming ∧ after.sent row.id = incoming.buffer := by
  have kept : row ∈ state.db.files.rows → ∃ old ∈ state.db.files.rows, ∃ storageKey uploadedAt,
      row = { old with storageKey, uploadedAt } := fun old => ⟨row, old, _, _, rfl⟩
  cases step with
  | @insert draw user target incoming inserting new plain =>
      replace member : row ∈ (inserted user draw target incoming state.db).2.files.rows := member
      unfold inserted at member
      split at member
      · rename_i created
        obtain ⟨-, -, -, files, added, rfl⟩ := Db.createFile_ok.mp created
        rcases (Table.mem_insert added).mp member with old | rfl
        · exact .inl (kept old)
        · exact .inr ⟨user, draw, target, incoming, inserting, rfl, Function.update_self ..⟩
      · exact .inl (kept member)
  | @finalise draw place finalising =>
      replace member : row ∈ (finalised draw place state.db).2.files.rows := member
      unfold finalised at member
      split at member
      · rename_i finished
        obtain ⟨files, rfl, rows⟩ := finishUpload_files finished
        have mapped : row ∈ files.rows := member
        rw [rows] at mapped
        obtain ⟨old, present, rfl⟩ := List.mem_map.mp mapped
        split
        · exact .inl ⟨old, present, _, _, rfl⟩
        · exact .inl ⟨old, present, _, _, rfl⟩
      · exact .inl (kept member)
  | @delete file deleting =>
      replace member : row ∈ (deleted file state.db).2.files.rows := member
      unfold deleted at member
      split at member
      · rename_i gone
        obtain rfl := deleteFile_files gone
        exact .inl (kept (List.mem_of_mem_filter member))
      · exact .inl (kept member)
  | _ => exact .inl (kept member)

theorem UploadStep.rows_vetted (step : UploadStep platform t state after) (filed : state.Filed)
    (vetted : state.Vetted platform) :
    ∀ row ∈ after.db.files.rows, row.Vetted platform (after.sent row.id) := by
  intro row member
  rcases step.row_from member with ⟨old, present, storageKey, uploadedAt, rfl⟩ |
    ⟨user, draw, target, incoming, inserting, rfl, sent⟩
  · have before := (vetted.rows old present).pass (step.same_sent old.id (filed.known old present).drawn)
    exact ⟨before.listed, before.recognised, before.filled, before.small, before.short⟩
  · have acceptable := vetted.calls t
    rw [inserting] at acceptable
    rw [sent]
    exact pendingRow_vetted acceptable

theorem UploadStep.call_vetted (step : UploadStep platform t state after)
    (vetted : state.Vetted platform) : (after.calls t).Vetted platform after := by
  have checked : ∀ {phase}, state.calls t = phase → phase.Vetted platform state :=
    fun same => same ▸ vetted.calls t
  cases step with
  | check asked => rw [Uploads.put_self]; exact admitted_vetted
  | measure measuring => rw [Uploads.put_self]; exact measured_vetted (checked measuring)
  | @insert draw user target incoming inserting new plain =>
      rw [Uploads.leave_self]
      unfold inserted
      split
      · show (pendingRow user draw target incoming).Vetted platform
          (Function.update state.sent draw.id incoming.buffer draw.id)
        rw [Function.update_self]
        exact pendingRow_vetted (checked inserting)
      · trivial
  | save saving => rw [Uploads.put_self]; exact checked saving
  | lose saving => rw [Uploads.put_self]; trivial
  | finalise draw finalising =>
      rw [Uploads.leave_self]
      unfold finalised
      split <;> trivial
  | find dropping => rw [Uploads.put_self]; exact found_vetted vetted _ _
  | delete deleting =>
      rw [Uploads.leave_self]
      unfold deleted
      split
      · exact checked deleting
      · trivial
  | erase erasing => rw [Uploads.put_self]; trivial
  | look opening => rw [Uploads.put_self]; exact sought_vetted vetted _ _
  | read reading => rw [Uploads.put_self]; exact readBytes_vetted (checked reading)

theorem UploadStep.vetted (step : UploadStep platform t state after) (filed : state.Filed)
    (vetted : state.Vetted platform) : after.Vetted platform where
  rows := step.rows_vetted filed vetted
  calls other := by
    by_cases same : other = t
    · rw [same]
      exact step.call_vetted vetted
    · rw [step.other same]
      exact (vetted.calls other).pass (filed.held other) step.same_sent

omit [DecidableEq τ] in
theorem Uploads.Blank.vetted (blank : state.Blank) : state.Vetted platform where
  rows row member := by
    rw [blank.rows] at member
    cases member
  calls t := by
    rcases blank.unbegun t with ⟨_, _, _, asked, -⟩ | ⟨_, _, drops | opens⟩
    · rw [asked]
      trivial
    · rw [drops]
      trivial
    · rw [opens]
      trivial

theorem UploadRun.vetted (run : UploadRun platform state after) (blank : state.Blank) :
    after.Vetted platform := by
  induction run with
  | refl => exact blank.vetted
  | tail before step ih =>
      obtain ⟨_, moved⟩ := step
      exact moved.vetted (UploadRun.filed before blank.filed) ih

/-- What a download says about the bytes it sends. -/
structure Download.Truthful (platform : Platform) (file : File) (sent : List UInt8)
    (download : Download) : Prop where
  body : download.body = sent
  length : download.contentLength = toString download.body.length
  small : 0 < download.body.length ∧ download.body.length ≤ maxBytes platform
  listed : download.contentType ∈ allowedMimeTypes
  recognised : bytesLookLike download.contentType download.body = true
  name : filenameOf download.contentDisposition = some file.originalName
  short : Js.utf16Length file.originalName ≤ 255
  line : ∀ c ∈ download.contentDisposition.toList, 32 ≤ c.toNat ∧ c.toNat < 127

/-- However uploads, removals and openings fall, what a download is labelled with is true of what it
sends. -/
theorem downloads_are_truthful (blank : state.Blank) (run : UploadRun platform state after)
    {contents : List UInt8} (opened : after.calls t = .opened file contents) :
    (download file contents).Truthful platform file (after.sent file.id) := by
  have held := (run.filed blank.filed).held t
  have vetted := (run.vetted blank).calls t
  rw [opened] at held vetted
  obtain ⟨known, rfl⟩ := held
  have size : (after.sent file.id).length = file.sizeBytes := known.sized
  refine ⟨rfl, congrArg toString size.symm, ?_, vetted.listed, vetted.recognised,
    filenameOf_download file _, vetted.short, disposition_printable file _⟩
  show 0 < (after.sent file.id).length ∧ (after.sent file.id).length ≤ maxBytes platform
  rw [size]
  exact ⟨vetted.filled, vetted.small⟩

end

/-- A name with quotes and an accent. -/
def essay : IncomingFile := ⟨"\"été\".txt", "text/plain", 5, ascii "hello"⟩

/-- An admin adds the essay to the library and opens it. -/
def essaySent : Uploads Bool where
  db := twoSchools.db
  disk := twoSchools.disk
  drawn := []
  sent _ := []
  calls t := if t then .asked "a1" .library essay else .opening "a1" "f1"

theorem essaySent_blank : essaySent.Blank where
  unbegun t := by
    cases t with
    | true => exact .inl ⟨_, _, _, rfl, rfl⟩
    | false => exact .inr ⟨_, _, .inr rfl⟩
  rows := by decide
  disk _ := rfl

theorem essay_is_labelled : ∃ next file, UploadRun .plain essaySent next ∧
    next.calls false = .opened file essay.buffer ∧
    (download file essay.buffer).contentDisposition =
      "attachment; filename=\"%22%C3%A9t%C3%A9%22.txt\"" ∧
    (download file essay.buffer).Truthful .plain file (next.sent file.id) := by
  let row := pendingRow foxAdmin (drawing "f1") (library "s1") essay
  let file : File :=
    { row with storageKey := keyFor "s1" "f1", uploadedAt := some (drawing "f1").now }
  have acceptable : unacceptable .plain essay = none := by decide +kernel
  have admits : admitted .plain "a1" .library essay twoSchools.db =
      .measuring foxAdmin (library "s1") essay :=
    admitted_library foxAdmin (by decide) acceptable
  have fits : measured .plain foxAdmin (library "s1") essay twoSchools.db =
      .inserting foxAdmin (library "s1") essay :=
    measured_fits (by decide)
  have inserts : (inserted foxAdmin (drawing "f1") (library "s1") essay twoSchools.db).1 =
      .saving row essay.buffer := by
    decide +kernel
  have looked : sought "a1" "f1" (finalised (drawing "f1") row
      (inserted foxAdmin (drawing "f1") (library "s1") essay twoSchools.db).2).2 =
        .reading file := by
    decide +kernel
  obtain ⟨next, run, opened⟩ : ∃ next, UploadRun .plain essaySent next ∧
      next.calls false = .opened file essay.buffer := by
    refine ⟨_, .head ⟨true, .check rfl⟩ <| .head ⟨true, .measure admits⟩ <|
      .head ⟨true, .insert (drawing "f1") fits List.not_mem_nil (by decide)⟩ <|
      .head ⟨true, .save inserts⟩ <| .head ⟨true, .finalise (drawing "f1") rfl⟩ <|
      .head ⟨false, .look rfl⟩ <| .single ⟨false, .read looked⟩, rfl⟩
  have label : (download file essay.buffer).contentDisposition =
      "attachment; filename=\"%22%C3%A9t%C3%A9%22.txt\"" := by
    decide +kernel
  exact ⟨next, file, run, opened, label, downloads_are_truthful essaySent_blank run opened⟩

end TutorApp
