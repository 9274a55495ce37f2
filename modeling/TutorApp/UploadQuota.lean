import TutorApp.Uploads
import TutorApp.CheckThenAct
import Mathlib.Algebra.Order.BigOperators.Group.List

set_option autoImplicit false

namespace TutorApp

open Relational
open FilesService

/-- The bytes the next statement of a call adds to a school's rows. -/
def UploadPhase.adds (schoolId : Id) : UploadPhase → Nat
  | .inserting _ target incoming => if target.schoolId = schoolId then incoming.size else 0
  | _ => 0

/-- The uploads into a school as calls that check its quota and insert their row later. A step that
adds to the sum of the school spoils what the other uploads have read. -/
def quotaChecks {τ : Type} [DecidableEq τ] (platform : Platform) (schoolId : Id) :
    CheckThenAct τ (Uploads τ) where
  step := UploadStep platform
  looks t state := ∃ user target incoming, state.calls t = .measuring user target incoming
  acts t state := ∃ user target incoming, state.calls t = .inserting user target incoming ∧
    target.schoolId = schoolId
  spoils _ before after := storedBytes schoolId before.db < storedBytes schoolId after.db

/-- An upload that is about to insert its row leaves the school within its limit. -/
def UploadPhase.Fits (platform : Platform) (schoolId : Id) (db : Db) : UploadPhase → Prop
  | .inserting _ target incoming => target.schoolId = schoolId →
      storedBytes schoolId db + incoming.size ≤ maxSchoolBytes platform
  | _ => True

section

variable {platform : Platform} {user : User} {draw : Draw} {target : UploadTarget}
  {incoming : IncomingFile} {schoolId : Id} {db next : Db} {row file : File} {phase : UploadPhase}

theorem assertWithinQuota_isOk {size : Nat} :
    (assertWithinQuota platform schoolId size db).isOk = true ↔
      storedBytes schoolId db + size ≤ maxSchoolBytes platform := by
  unfold assertWithinQuota require
  split
  · rename_i fits
    exact iff_of_true rfl (of_decide_eq_true fits)
  · rename_i exceeds
    exact iff_of_false (fun ok => by cases ok) fun fits => exceeds (decide_eq_true fits)

theorem storedBytes_insert (created : db.createFile row = .ok next) :
    storedBytes schoolId next =
      storedBytes schoolId db + if row.schoolId = schoolId then row.sizeBytes else 0 := by
  obtain ⟨-, -, -, files, inserted, rfl⟩ := Db.createFile_ok.mp created
  have rows : files.rows = db.files.rows ++ [row] := (Table.insert?_eq_some.mp inserted).2
  simp only [storedBytes, Table.select, rows, List.filter_append, List.map_append, List.sum_append]
  by_cases here : row.schoolId = schoolId
  · simp [here]
  · simp [here]

theorem storedBytes_finish (finished : finishUpload draw row db = .ok (file, next)) :
    storedBytes schoolId next = storedBytes schoolId db := by
  obtain ⟨files, rfl, rows⟩ := finishUpload_files finished
  have finalises : ∃ change : File → File, files.rows = db.files.rows.map change ∧
      (∀ other, (change other).schoolId = other.schoolId) ∧
      ∀ other, (change other).sizeBytes = other.sizeBytes := by
    refine ⟨_, rows, fun other => ?_, fun other => ?_⟩
    · split <;> rfl
    · split <;> rfl
  obtain ⟨change, changed, school, size⟩ := finalises
  have schools : (fun other : File => other.schoolId == schoolId) ∘ change =
      fun other => other.schoolId == schoolId := by
    funext other
    rw [Function.comp_apply, school]
  have sizes : File.sizeBytes ∘ change = File.sizeBytes := funext size
  simp only [storedBytes, Table.select, changed, List.filter_map, List.map_map, schools, sizes]

theorem storedBytes_delete {id : Id} (gone : db.deleteFile id = .ok next) :
    storedBytes schoolId next ≤ storedBytes schoolId db := by
  rw [deleteFile_files gone]
  exact ((List.filter_sublist.filter _).map _).sum_le_sum fun _ _ => Nat.zero_le _

variable {τ : Type} [DecidableEq τ] {state after : Uploads τ} {t : τ}

/-- No step but the insert of a row adds to the sum. -/
theorem UploadStep.storedBytes_le (step : UploadStep platform t state after) :
    storedBytes schoolId after.db ≤
      storedBytes schoolId state.db + (state.calls t).adds schoolId := by
  have kept : storedBytes schoolId state.db ≤
      storedBytes schoolId state.db + (state.calls t).adds schoolId := Nat.le_add_right ..
  cases step with
  | check | measure | save | lose | find | erase | look | read => exact kept
  | @insert draw user target incoming inserting =>
      show storedBytes schoolId (inserted user draw target incoming state.db).2 ≤ _
      unfold inserted
      split
      · rename_i created
        rw [storedBytes_insert created, inserting]
        rfl
      · exact kept
  | @finalise draw row =>
      show storedBytes schoolId (finalised draw row state.db).2 ≤ _
      unfold finalised
      split
      · rename_i finished
        rw [storedBytes_finish finished]
        exact kept
      · exact kept
  | @delete file =>
      show storedBytes schoolId (deleted file state.db).2 ≤ _
      unfold deleted
      split
      · rename_i gone
        exact (storedBytes_delete gone).trans kept
      · exact kept

/-- Only the check of the quota brings a call to its insert, and only when the file fits. -/
theorem UploadStep.comes_from_check (step : UploadStep platform t state after)
    (inserting : after.calls t = .inserting user target incoming) :
    state.calls t = .measuring user target incoming ∧ after.db = state.db ∧
      storedBytes target.schoolId state.db + incoming.size ≤ maxSchoolBytes platform := by
  cases step with
  | @measure user target incoming measuring =>
      rw [Uploads.put_self, measured] at inserting
      split at inserting
      · rename_i passed
        cases inserting
        exact ⟨measuring, rfl, assertWithinQuota_isOk.mp (by rw [passed]; rfl)⟩
      · cases inserting
  | check | find | look | read =>
      rw [Uploads.put_self] at inserting
      simp only [admitted, found, sought, readBytes] at inserting
      repeat' split at inserting
      all_goals cases inserting
  | insert | finalise | delete =>
      rw [Uploads.leave_self] at inserting
      simp only [inserted, finalised, deleted] at inserting
      split at inserting <;> cases inserting
  | save | lose | erase =>
      rw [Uploads.put_self] at inserting
      cases inserting

/-- What a check of the quota tells, until another step adds to the sum. -/
theorem quotaChecks_guards : (quotaChecks (τ := τ) platform schoolId).Guards
    (fun state => storedBytes schoolId state.db ≤ maxSchoolBytes platform)
    (fun t state => (state.calls t).Fits platform schoolId state.db) := by
  have checked {t : τ} {before after : Uploads τ} (step : UploadStep platform t before after) :
      (after.calls t).Fits platform schoolId after.db := by
    cases phase : after.calls t with
    | inserting user target incoming =>
        rintro rfl
        obtain ⟨-, same, fits⟩ := step.comes_from_check phase
        rw [same]
        exact fits
    | _ => trivial
  constructor
  · exact fun _ step _ => checked step
  · exact fun _ step _ _ => checked step
  · intro t u before after _ step different fits unspoiled
    show (after.calls u).Fits platform schoolId after.db
    rw [UploadStep.other step different]
    cases phase : before.calls u with
    | inserting user target incoming =>
        rw [phase] at fits
        exact fun here => (Nat.add_le_add_right (Nat.not_lt.mp unspoiled) _).trans (fits here)
    | _ => trivial
  · intro t before after within step fits
    refine (UploadStep.storedBytes_le step).trans ?_
    cases phase : before.calls t with
    | inserting user target incoming =>
        by_cases here : target.schoolId = schoolId
        · have known := fits ⟨user, target, incoming, phase, here⟩
          rw [phase] at known
          rw [UploadPhase.adds, if_pos here]
          exact known here
        · rw [UploadPhase.adds, if_neg here]
          exact within
    | _ => exact within

/-- A school's files stay within its limit along every run in which no upload inserts its row after
another step has added to the sum it read. -/
theorem school_stays_within {next : Uploads τ}
    (within : storedBytes schoolId state.db ≤ maxSchoolBytes platform)
    (run : (quotaChecks platform schoolId).Timely state next) :
    storedBytes schoolId next.db ≤ maxSchoolBytes platform :=
  quotaChecks_guards.timely within run

end

/-- A deployment with one megabyte for each school. -/
def Platform.tight : Platform :=
  { Platform.plain with maxUploadMb := 1, maxUploadMb_le := by decide, maxSchoolStorageMb := 1 }

def oneSchool : World := World.empty.after .tight [foxSchool]

@[irreducible] def letters (count : Nat) : List UInt8 := List.replicate count 65

theorem letters_text (count : Nat) : (letters count).contains 0 = false := by
  unfold letters
  rw [List.contains_eq_mem, decide_eq_false_iff_not, List.mem_replicate]
  exact fun zero => absurd zero.2 (by decide)

def largeFile : IncomingFile := textFile 600000 (letters 600000)

/-- One admin sends a large file twice. -/
def twoFiles : Uploads Bool where
  db := oneSchool.db
  disk := oneSchool.disk
  drawn := []
  sent _ := []
  calls _ := .asked "a1" .library largeFile

theorem oneSchool_empty : storedBytes "s1" oneSchool.db = 0 := by decide

theorem large_acceptable : unacceptable .tight largeFile = none :=
  textFile_acceptable (by decide) (by decide) (letters_text 600000)

theorem large_admitted : admitted .tight "a1" .library largeFile oneSchool.db =
    .measuring foxAdmin (library "s1") largeFile :=
  admitted_library foxAdmin (by decide) large_acceptable

theorem large_measured : measured .tight foxAdmin (library "s1") largeFile oneSchool.db =
    .inserting foxAdmin (library "s1") largeFile := by
  apply measured_fits
  show storedBytes "s1" oneSchool.db + 600000 ≤ 1048576
  rw [oneSchool_empty]
  decide

theorem oneSchool_within : storedBytes "s1" twoFiles.db ≤ maxSchoolBytes .tight := by
  rw [show storedBytes "s1" twoFiles.db = 0 from oneSchool_empty]
  exact Nat.zero_le _

theorem first_comes {guard : Db → UploadPhase → Prop}
    (asked : guard oneSchool.db (.asked "a1" .library largeFile))
    (measuring : guard oneSchool.db (.measuring foxAdmin (library "s1") largeFile)) :
    GuardedRun .tight guard twoFiles
      (twoFiles.put false (.inserting foxAdmin (library "s1") largeFile)) :=
  Uploads.comes_to_insert rfl large_admitted large_measured asked measuring

theorem quotaChecks_idle {τ : Type} [DecidableEq τ] {platform : Platform} {schoolId : Id} {t : τ}
    {state : Uploads τ} {phase : UploadPhase} (stands : state.calls t = phase)
    (idle : ∀ user target incoming, phase ≠ .inserting user target incoming) :
    ¬ (quotaChecks platform schoolId).acts t state := by
  rintro ⟨user, target, incoming, acting, -⟩
  exact idle user target incoming (stands.symm.trans acting)

theorem measured_exceeds {platform : Platform} {user : User} {target : UploadTarget}
    {incoming : IncomingFile} {db : Db}
    (exceeds : ¬ storedBytes target.schoolId db + incoming.size ≤ maxSchoolBytes platform) :
    ∃ reason, measured platform user target incoming db = .refused reason := by
  simp only [measured, assertWithinQuota, require, decide_eq_false exceeds, Bool.false_eq_true,
    if_false]
  exact ⟨_, rfl⟩

/-- The first of the two uploads, once its row is inserted. -/
def firstKept : Uploads Bool :=
  (twoFiles.draw "f1" largeFile.buffer).leave false
    (inserted foxAdmin (drawing "f1") (library "s1") largeFile oneSchool.db)

theorem firstKept_stored : storedBytes "s1" firstKept.db = 600000 := by decide +kernel

theorem firstKept_admits : admitted .tight "a1" .library largeFile firstKept.db =
    .measuring foxAdmin (library "s1") largeFile :=
  admitted_library foxAdmin (by decide +kernel) large_acceptable

theorem firstKept_refuses : ∃ reason,
    measured .tight foxAdmin (library "s1") largeFile firstKept.db = .refused reason := by
  apply measured_exceeds
  show ¬ storedBytes "s1" firstKept.db + 600000 ≤ maxSchoolBytes .tight
  rw [firstKept_stored]
  decide

theorem firstKept_reached : (quotaChecks .tight "s1").Timely twoFiles firstKept := by
  have asks : (quotaChecks .tight "s1").Timely twoFiles
      (twoFiles.put false (.measuring foxAdmin (library "s1") largeFile)) :=
    CheckThenAct.Timely.refl.idle (UploadStep.begins rfl large_admitted)
      (quotaChecks_idle rfl fun _ _ _ same => by cases same)
  exact asks.at_once ⟨_, _, _, Uploads.put_self⟩
    (quotaChecks_idle Uploads.put_self fun _ _ _ same => by cases same) (.proceeds large_measured)
    (Uploads.inserts foxAdmin (library "s1") List.not_mem_nil (by decide))

/-- The second upload reads the sum with the first file in it, and is refused. -/
theorem uploads_in_turn_within : ∃ next, (quotaChecks .tight "s1").Timely twoFiles next ∧
    (∃ reason, next.calls true = .refused reason) ∧ storedBytes "s1" next.db = 600000 ∧
    storedBytes "s1" next.db ≤ maxSchoolBytes .tight := by
  obtain ⟨reason, refuses⟩ := firstKept_refuses
  let asked := firstKept.put true (.measuring foxAdmin (library "s1") largeFile)
  let last := asked.put true (measured .tight foxAdmin (library "s1") largeFile firstKept.db)
  have asks : (quotaChecks .tight "s1").Timely twoFiles asked :=
    firstKept_reached.idle (UploadStep.begins rfl firstKept_admits)
      (quotaChecks_idle rfl fun _ _ _ same => by cases same)
  have run : (quotaChecks .tight "s1").Timely twoFiles last :=
    asks.idle (.measure Uploads.put_self)
      (quotaChecks_idle Uploads.put_self fun _ _ _ same => by cases same)
  exact ⟨last, run, ⟨reason, Uploads.put_self.trans refuses⟩, firstKept_stored,
    school_stays_within oneSchool_within run⟩

/-- Both uploads read the sum before either inserts its row. -/
theorem parallel_uploads_exceed :
    Reachable .tight oneSchool ∧ twoFiles.Begun ∧
      storedBytes "s1" twoFiles.db ≤ maxSchoolBytes .tight ∧
      ∃ next, UploadRun .tight twoFiles next ∧
        maxSchoolBytes .tight < storedBytes "s1" next.db := by
  have reached : Reachable .tight oneSchool := .after .tight .refl _
  have begun : twoFiles.Begun :=
    .of_empty (fun _ => ⟨_, _, _, rfl⟩) reached.tenanted (by decide)
  let alone := twoFiles.put false (.inserting foxAdmin (library "s1") largeFile)
  have first : GuardedRun .tight (fun _ _ => True) twoFiles alone := first_comes trivial trivial
  have second : GuardedRun .tight (fun _ _ => True) alone
      (alone.put true (.inserting foxAdmin (library "s1") largeFile)) :=
    Uploads.comes_to_insert rfl large_admitted large_measured trivial trivial
  obtain ⟨next, run, stored⟩ : ∃ next, UploadRun .tight twoFiles next ∧
      storedBytes "s1" next.db = 1200000 := by
    refine ⟨_, first.uploadRun.trans <| second.uploadRun.trans <|
      .head ⟨false, .insert (drawing "f1") rfl List.not_mem_nil (by decide)⟩ <|
      .head ⟨false, .save rfl⟩ <| .head ⟨false, .finalise (drawing "f1") rfl⟩ <|
      .single ⟨true, .insert (drawing "f2") rfl (by decide) (by decide)⟩, ?_⟩
    decide +kernel
  refine ⟨reached, begun, oneSchool_within, next, run, ?_⟩
  rw [stored]
  decide

end TutorApp
