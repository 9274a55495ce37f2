import TutorApp.Ledger
import TutorApp.ReadCommitted

set_option autoImplicit false

namespace TutorApp

open Relational
open ReadCommitted (Turn Rules Run)

/-- What the statements of a write-up change. -/
inductive JournalWrite where
  | addLessons (studentId : Id) (amount : Int)
  | upsertAttendance (lessonId studentId : Id) (status : AttendanceStatus)
      (homeworkDone : Option (Option Bool))
  | updateLesson (id : Id) (patch : Db.LessonPatch)
  deriving Repr, DecidableEq

/-- The rows these statements lock. -/
inductive JournalRow where
  | student (id : Id)
  | attendance (lessonId studentId : Id)
  | lesson (id : Id)
  deriving Repr, DecidableEq

/-- What such a row holds. -/
inductive JournalCell where
  | student (row : Option Student)
  | attendance (row : Option LessonAttendance)
  | lesson (row : Option Lesson)
  deriving Repr, DecidableEq

def JournalWrite.apply : JournalWrite → Db → Db
  | addLessons studentId amount, db => db.creditStudent studentId amount
  | upsertAttendance lessonId studentId status homeworkDone, db =>
      db.putAttendance lessonId studentId status homeworkDone
  | updateLesson id patch, db =>
      { db with lessons := db.lessons.update (fun row => decide (key row = id)) patch.apply
                  patch.key_apply }

def JournalWrite.locks : JournalWrite → List JournalRow
  | addLessons studentId _ => [.student studentId]
  | upsertAttendance lessonId studentId _ _ => [.attendance lessonId studentId]
  | updateLesson id _ => [.lesson id]

def JournalRow.read : JournalRow → Db → JournalCell
  | student id, db => .student (db.students.find id)
  | attendance lessonId studentId, db => .attendance (db.attendances.find (lessonId, studentId))
  | lesson id, db => .lesson (db.lessons.find id)

/-- Where a call of `writeJournal` stands. The loop keeps what it read of a mark until the
mark is written. -/
inductive JournalPhase where
  | asked (user : User) (lessonId : Id) (dto : WriteJournalDto)
  | looping (lessonId : Id) (patch : Db.LessonPatch) (marks : List MarkAttendanceDto)
  | settling (lessonId : Id) (patch : Db.LessonPatch) (wasCharged : Bool) (mark : MarkAttendanceDto)
      (rest : List MarkAttendanceDto)
  | upserting (lessonId : Id) (patch : Db.LessonPatch) (wasCharged : Bool) (mark : MarkAttendanceDto)
      (rest : List MarkAttendanceDto)
  | written (lessonId : Id)
  deriving DecidableEq

/-- A statement that fails ends the transaction. -/
def statement {α : Type} (result : Service α) (writes : α → List JournalWrite)
    (next : α → JournalPhase) : Turn JournalWrite JournalPhase :=
  match result with
  | .error _ => .fail
  | .ok value => .write (writes value) (next value)

namespace GradebookService

/-- The reads and checks before the transaction. -/
def writableLesson (user : User) (lessonId : Id) (dto : WriteJournalDto) (db : Db) : Service Lesson := do
  let lesson ← LessonsService.findReachable user lessonId db
  checkMarks lesson.id (dto.attendance.getD []) db
  return lesson

end GradebookService

def settleWrites (wasCharged : Bool) (mark : MarkAttendanceDto) : List JournalWrite :=
  if wasCharged != mark.status.charged then
    [.addLessons mark.studentId (chargeStep wasCharged mark.status.charged)]
  else []

def JournalPhase.turn : JournalPhase → Db → Turn JournalWrite JournalPhase
  | asked user lessonId dto, db =>
      statement (GradebookService.writableLesson user lessonId dto db) (fun _ => []) fun lesson =>
        looping lesson.id (GradebookService.journalPatch dto (dto.attendance.getD [])) (dto.attendance.getD [])
  | looping lessonId patch (mark :: rest), db =>
      .write [] (settling lessonId patch (GradebookService.wasCharged db lessonId mark.studentId)
        mark rest)
  | settling lessonId patch was mark rest, db =>
      statement (GradebookService.settleFrom was mark db) (fun _ => settleWrites was mark) fun _ =>
        upserting lessonId patch was mark rest
  | upserting lessonId patch _ mark rest, db =>
      let homeworkDone := GradebookService.homeworkPatch mark.homeworkDone
      statement (db.upsertAttendance lessonId mark.studentId mark.status homeworkDone)
        (fun _ => [.upsertAttendance lessonId mark.studentId mark.status homeworkDone]) fun _ =>
          looping lessonId patch rest
  | looping lessonId patch [], db =>
      statement (db.updateLesson lessonId patch) (fun _ => [.updateLesson lessonId patch]) fun _ =>
        written lessonId
  | written _, _ => .commit

abbrev JournalState (τ : Type) := ReadCommitted.State Db JournalWrite τ JournalPhase

def journals : Rules Db JournalWrite JournalRow JournalPhase where
  apply := JournalWrite.apply
  locks := JournalWrite.locks
  turn := JournalPhase.turn

theorem journals_rowLocal : ReadCommitted.RowLocal journals JournalRow.read where
  frame write k db outside := by
    cases write with
    | addLessons studentId amount =>
        cases k with
        | student id =>
            have other : id ≠ studentId := fun same => outside (same ▸ List.mem_singleton_self _)
            show JournalCell.student ((db.creditStudent studentId amount).students.find id) = _
            rw [Db.creditStudent, Table.find_update_key, if_neg other]
            rfl
        | attendance => rfl
        | lesson => rfl
    | upsertAttendance lessonId studentId status homeworkDone =>
        cases k with
        | student => rfl
        | attendance ofLesson ofStudent =>
            have other : (lessonId, studentId) ≠ (ofLesson, ofStudent) := by
              intro same
              obtain ⟨rfl, rfl⟩ := Prod.mk.inj same
              exact outside (List.mem_singleton_self _)
            show JournalCell.attendance ((db.putAttendance lessonId studentId status
              homeworkDone).attendances.find (ofLesson, ofStudent)) = _
            rw [Db.putAttendance, Table.find_upsert, if_neg (show key _ ≠ _ from other)]
            rfl
        | lesson => rfl
    | updateLesson id patch =>
        cases k with
        | student => rfl
        | attendance => rfl
        | lesson other =>
            have different : other ≠ id := fun same => outside (same ▸ List.mem_singleton_self _)
            show JournalCell.lesson (Table.find (db.lessons.update _ patch.apply patch.key_apply)
              other) = _
            rw [Table.find_update_key, if_neg different]
            rfl
  determined write left right same k locked := by
    have agree := same k locked
    cases write with
    | addLessons studentId amount =>
        obtain rfl := List.mem_singleton.mp locked
        have found := JournalCell.student.inj agree
        show JournalCell.student ((left.creditStudent studentId amount).students.find studentId) =
          .student ((right.creditStudent studentId amount).students.find studentId)
        simp only [Db.creditStudent, Table.find_update_key, found]
    | upsertAttendance lessonId studentId status homeworkDone =>
        obtain rfl := List.mem_singleton.mp locked
        have found := JournalCell.attendance.inj agree
        show JournalCell.attendance ((left.putAttendance lessonId studentId status
            homeworkDone).attendances.find (lessonId, studentId)) =
          .attendance ((right.putAttendance lessonId studentId status
            homeworkDone).attendances.find (lessonId, studentId))
        simp only [Db.putAttendance, Table.find_upsert, found]
    | updateLesson id patch =>
        obtain rfl := List.mem_singleton.mp locked
        have found := JournalCell.lesson.inj agree
        show JournalCell.lesson (Table.find (left.lessons.update _ patch.apply patch.key_apply) id) =
          .lesson (Table.find (right.lessons.update _ patch.apply patch.key_apply) id)
        simp only [Table.find_update_key, found]

theorem Db.creditStudent_ledger (db : Db) (id : Id) (amount : Int) (studentId : Id) :
    (db.creditStudent id amount).ledger studentId =
      db.ledger studentId + if studentId = id ∧ db.hasStudent id = true then amount else 0 := by
  have charges : (db.creditStudent id amount).charges studentId = db.charges studentId := rfl
  rw [ledger, creditStudent_balance, charges, ledger]
  omega

theorem Db.putAttendance_ledger (db : Db) (lessonId id : Id) (status : AttendanceStatus)
    (homeworkDone : Option (Option Bool)) (studentId : Id) :
    (db.putAttendance lessonId id status homeworkDone).ledger studentId =
      db.ledger studentId - if studentId = id
        then chargeStep (GradebookService.wasCharged db lessonId id) status.charged else 0 := by
  have balance : (db.putAttendance lessonId id status homeworkDone).balance studentId =
      db.balance studentId := rfl
  rw [ledger, putAttendance_charges, balance, ledger]
  omega

theorem journals_additive (studentId : Id) :
    ReadCommitted.Additive journals JournalRow.read fun db => db.ledger studentId where
  toRowLocal := journals_rowLocal
  gain write left right same := by
    cases write with
    | addLessons id amount =>
        have found : left.students.find id = right.students.find id :=
          JournalCell.student.inj (same _ (List.mem_singleton_self _))
        have present : left.hasStudent id = right.hasStudent id := congrArg Option.isSome found
        show (left.creditStudent id amount).ledger studentId + right.ledger studentId =
          (right.creditStudent id amount).ledger studentId + left.ledger studentId
        rw [Db.creditStudent_ledger, Db.creditStudent_ledger, present]
        omega
    | upsertAttendance lessonId id status homeworkDone =>
        have found : left.attendances.find (lessonId, id) = right.attendances.find (lessonId, id) :=
          JournalCell.attendance.inj (same _ (List.mem_singleton_self _))
        have was : GradebookService.wasCharged left lessonId id =
            GradebookService.wasCharged right lessonId id := by
          rw [GradebookService.wasCharged, found, GradebookService.wasCharged]
        show (left.putAttendance lessonId id status homeworkDone).ledger studentId +
            right.ledger studentId =
          (right.putAttendance lessonId id status homeworkDone).ledger studentId +
            left.ledger studentId
        rw [Db.putAttendance_ledger, Db.putAttendance_ledger, was]
        omega
    | updateLesson id patch => exact Int.add_comm ..

/-- The mark about to be replaced is charged or not as the transaction read it. -/
def JournalPhase.ReadHolds : JournalPhase → Db → Prop
  | upserting lessonId _ was mark _, db =>
      GradebookService.wasCharged db lessonId mark.studentId = was
  | _, _ => True

instance : (here : JournalPhase) → (db : Db) → Decidable (here.ReadHolds db)
  | .upserting .., _ => inferInstanceAs (Decidable (_ = _))
  | .asked .., _ | .looping .., _ | .settling .., _ | .written .., _ => .isTrue trivial

/-- What a transaction has taken from or given to a balance and not yet put on the register. -/
def JournalPhase.owed (studentId : Id) : JournalPhase → Int
  | upserting _ _ was mark _ =>
      if studentId = mark.studentId then chargeStep was mark.status.charged else 0
  | _ => 0

theorem statement_write {α : Type} {result : Service α} {writes : α → List JournalWrite}
    {next : α → JournalPhase} {written : List JournalWrite} {there : JournalPhase} :
    statement result writes next = .write written there ↔
      ∃ value, result = .ok value ∧ writes value = written ∧ next value = there := by
  cases result with
  | error reason => simp [statement]
  | ok value => simp [statement]

theorem statement_commit {α : Type} {result : Service α} {writes : α → List JournalWrite}
    {next : α → JournalPhase} : statement result writes next ≠ .commit := by
  cases result <;> (intro turn; cases turn)

theorem settleFrom_ledger {was : Bool} {mark : MarkAttendanceDto} {db next : Db}
    (done : GradebookService.settleFrom was mark db = .ok next) (studentId : Id) :
    (journals.applyAll (settleWrites was mark) db).ledger studentId = db.ledger studentId +
      if studentId = mark.studentId then chargeStep was mark.status.charged else 0 := by
  unfold GradebookService.settleFrom at done
  unfold settleWrites
  split at done
  · rename_i differs
    have present := (Db.addLessons_ok.mp done).2.1
    rw [if_pos differs]
    show (db.creditStudent mark.studentId _).ledger studentId = _
    rw [Db.creditStudent_ledger, present]
    simp only [and_true]
  · rename_i same
    rw [if_neg same]
    simp only [bne_iff_ne, ne_eq, not_not] at same
    rw [chargeStep, if_pos same, ite_self, Int.add_zero]
    rfl

/-- A statement of a write-up moves a lesson into or out of what its transaction owes. -/
theorem journals_conserves (studentId : Id) :
    ReadCommitted.Conserves journals JournalPhase.ReadHolds (fun db => db.ledger studentId)
      (JournalPhase.owed studentId) where
  statement here db writes next turn holds := by
    change here.turn db = _ at turn
    cases here with
    | asked user lessonId dto =>
        obtain ⟨lesson, -, rfl, rfl⟩ := statement_write.mp turn
        rfl
    | looping lessonId patch marks =>
        cases marks with
        | nil =>
            obtain ⟨_, -, rfl, rfl⟩ := statement_write.mp turn
            rfl
        | cons mark rest =>
            obtain ⟨rfl, rfl⟩ := Turn.write.inj turn
            rfl
    | settling lessonId patch was mark rest =>
        obtain ⟨_, settled, rfl, rfl⟩ := statement_write.mp turn
        have moved := settleFrom_ledger settled studentId
        simp only [JournalPhase.owed]
        omega
    | upserting lessonId patch was mark rest =>
        obtain ⟨_, upserted, rfl, rfl⟩ := statement_write.mp turn
        have moved := Db.putAttendance_ledger db lessonId mark.studentId mark.status
          (GradebookService.homeworkPatch mark.homeworkDone) studentId
        rw [show GradebookService.wasCharged db lessonId mark.studentId = was from holds] at moved
        show (db.putAttendance lessonId mark.studentId mark.status _).ledger studentId + _ = _
        simp only [JournalPhase.owed]
        omega
    | written lessonId => cases turn
  settled here db turn := by
    change here.turn db = _ at turn
    cases here with
    | asked => exact absurd turn statement_commit
    | looping lessonId patch marks =>
        cases marks with
        | nil => exact absurd turn statement_commit
        | cons => cases turn
    | settling => exact absurd turn statement_commit
    | upserting => exact absurd turn statement_commit
    | written => rfl

theorem applyAll_settleWrites {was : Bool} {mark : MarkAttendanceDto} {db next : Db}
    (done : GradebookService.settleFrom was mark db = .ok next) :
    journals.applyAll (settleWrites was mark) db = next := by
  unfold GradebookService.settleFrom at done
  unfold settleWrites
  split at done
  · rename_i differs
    rw [if_pos differs, ← (Db.addLessons_ok.mp done).2.2]
    rfl
  · rename_i same
    rw [if_neg same, ← Except.ok.inj done]
    rfl

/-- The statements of one turn of the loop. -/
theorem writeMark_path {lessonId : Id} {patch : Db.LessonPatch} {mark : MarkAttendanceDto}
    {rest : List MarkAttendanceDto} {db next : Db}
    (done : GradebookService.writeMark lessonId mark db = .ok next) :
    ReadCommitted.Path journals JournalPhase.ReadHolds (.looping lessonId patch (mark :: rest)) db
      (.looping lessonId patch rest) next := by
  obtain ⟨settled, settles, upserted⟩ := GradebookService.writeMark_ok.mp done
  have kept : GradebookService.wasCharged settled lessonId mark.studentId =
      GradebookService.wasCharged db lessonId mark.studentId := by
    obtain ⟨students, rfl⟩ := GradebookService.settle_frame settles
    rfl
  refine .issue rfl trivial (.issue (statement_write.mpr ⟨settled, settles, rfl, rfl⟩) trivial ?_)
  rw [Rules.applyAll_nil, applyAll_settleWrites settles]
  refine .issue (statement_write.mpr ⟨next, upserted, rfl, rfl⟩) kept ?_
  rw [← (Db.upsertAttendance_ok.mp upserted).2]
  exact .stay _ _

theorem writeMarks_path {lessonId : Id} {patch : Db.LessonPatch} {marks : List MarkAttendanceDto}
    {db next : Db} (done : GradebookService.writeMarks lessonId marks db = .ok next) :
    ReadCommitted.Path journals JournalPhase.ReadHolds (.looping lessonId patch marks) db
      (.looping lessonId patch []) next := by
  induction marks generalizing db with
  | nil =>
      rw [Except.ok.inj done]
      exact .stay _ _
  | cons mark rest ih =>
      obtain ⟨marked, first, others⟩ := GradebookService.writeMarks_cons_ok.mp done
      exact (writeMark_path first).trans (ih others)

/-- Where the service accepts a write-up, its transaction commits what the service returns,
whoever else has called and not begun. -/
theorem writeJournal_run {τ : Type} [DecidableEq τ] {platform : Platform} {user : User}
    {lessonId : Id} {dto : WriteJournalDto} {view : JournalView} {db next : Db}
    {calls : τ → JournalPhase} {t : τ} (asked : calls t = .asked user lessonId dto)
    (success : GradebookService.writeJournal platform user lessonId dto db = .ok (view, next)) :
    ∃ after, Run journals JournalPhase.ReadHolds (.start db calls) after ∧
      after.committed = next ∧ (after.sessions t).here = none ∧
      ∀ other, other ≠ t → after.sessions other = ⟨some (calls other), []⟩ := by
  obtain ⟨lesson, reached, checked, written, marked, updated, -⟩ :=
    GradebookService.writeJournal_ok.mp success
  have admitted : GradebookService.writableLesson user lessonId dto db = .ok lesson := by
    simp only [GradebookService.writableLesson, bind_ok, pure_ok]
    exact ⟨lesson, reached, _, checked, rfl⟩
  have path : ReadCommitted.Path journals JournalPhase.ReadHolds (.asked user lessonId dto) db
      (.written lesson.id) (journals.applyAll [.updateLesson lesson.id
        (GradebookService.journalPatch dto (dto.attendance.getD []))] written) := by
    refine .issue (statement_write.mpr ⟨lesson, admitted, rfl, rfl⟩) trivial ?_
    refine (writeMarks_path marked).trans ?_
    exact .issue (statement_write.mpr ⟨_, updated, rfl, rfl⟩) trivial (.stay _ _)
  have begun : ((ReadCommitted.State.start db calls : JournalState τ).sessions t).here =
      some (JournalPhase.asked user lessonId dto) := congrArg some asked
  obtain ⟨after, run, committed, ended, others⟩ := path.run rfl begun rfl fun _ _ => rfl
  refine ⟨after, run, ?_, ended, others⟩
  rw [committed]
  obtain ⟨_, rewritten, rfl⟩ := Db.updateLesson_ok.mp updated
  obtain ⟨-, rfl⟩ := updateRow_ok.mp rewritten
  rfl

def JournalPhase.lessonId : JournalPhase → Id
  | asked _ lessonId _ | looping lessonId _ _ | settling lessonId _ _ _ _
  | upserting lessonId _ _ _ _ | written lessonId => lessonId

/-- A call stays on its lesson and writes no other lesson's register. -/
theorem JournalPhase.turn_lessonId {here next : JournalPhase} {db : Db} {writes : List JournalWrite}
    (turn : here.turn db = .write writes next) :
    next.lessonId = here.lessonId ∧ ∀ write ∈ writes, ∀ lessonId studentId,
      JournalRow.attendance lessonId studentId ∈ write.locks → lessonId = here.lessonId := by
  cases here with
  | asked user lessonId dto =>
      obtain ⟨lesson, admitted, rfl, rfl⟩ := statement_write.mp turn
      simp only [GradebookService.writableLesson, bind_ok, pure_ok] at admitted
      obtain ⟨found, reached, _, -, rfl⟩ := admitted
      have lookup := ((LessonsService.findReachable_ok user).mp reached).1
      exact ⟨(Table.find_eq_some.mp lookup).2, fun _ member => absurd member List.not_mem_nil⟩
  | looping lessonId patch marks =>
      cases marks with
      | nil =>
          obtain ⟨_, -, rfl, rfl⟩ := statement_write.mp turn
          refine ⟨rfl, fun write member ofLesson ofStudent locked => ?_⟩
          rw [List.mem_singleton.mp member] at locked
          simp [JournalWrite.locks] at locked
      | cons mark rest =>
          obtain ⟨rfl, rfl⟩ := Turn.write.inj turn
          exact ⟨rfl, fun _ member => absurd member List.not_mem_nil⟩
  | settling lessonId patch was mark rest =>
      obtain ⟨_, -, rfl, rfl⟩ := statement_write.mp turn
      refine ⟨rfl, fun write member ofLesson ofStudent locked => ?_⟩
      unfold settleWrites at member
      split at member
      · rw [List.mem_singleton.mp member] at locked
        simp [JournalWrite.locks] at locked
      · cases member
  | upserting lessonId patch was mark rest =>
      obtain ⟨_, -, rfl, rfl⟩ := statement_write.mp turn
      refine ⟨rfl, fun write member ofLesson ofStudent locked => ?_⟩
      rw [List.mem_singleton.mp member] at locked
      exact (JournalRow.attendance.inj (List.mem_singleton.mp locked)).1
  | written => cases turn

section

variable {τ : Type} [DecidableEq τ] {db : Db} {calls : τ → JournalPhase}
  {guard : JournalPhase → Db → Prop} {state : JournalState τ}

/-- Calls on one lesson leave the registers of the others alone. -/
theorem markOf_committed {lessonId other studentId : Id}
    (onLesson : ∀ t, (calls t).lessonId = lessonId)
    (run : Run journals guard (.start db calls) state) (different : other ≠ lessonId) :
    state.committed.markOf (other, studentId) = db.markOf (other, studentId) := by
  have kept : ∀ here view writes next, JournalPhase.lessonId here = lessonId →
      journals.turn here view = .write writes next → JournalPhase.lessonId next = lessonId ∧
        ∀ write ∈ writes, JournalRow.attendance other studentId ∉ journals.locks write := by
    intro here view writes next stays turn
    obtain ⟨same, locks⟩ := JournalPhase.turn_lessonId turn
    refine ⟨same.trans stays, fun write member locked => different ?_⟩
    exact (locks write member other studentId locked).trans stays
  have same := run.read_committed journals_rowLocal kept onLesson
  have found := JournalCell.attendance.inj same
  rw [Db.markOf, found, Db.markOf]

/-- Marks on one lesson charge a student once more at most. -/
theorem charges_le {lessonId : Id} (studentId : Id) {left right : Db}
    (same : ∀ other, other ≠ lessonId →
      right.markOf (other, studentId) = left.markOf (other, studentId)) :
    right.charges studentId ≤ left.charges studentId + 1 := by
  rw [Db.charges_eq_length, Db.charges_eq_length]
  have included : right.chargedLessons studentId ⊆ lessonId :: left.chargedLessons studentId := by
    intro other charged
    by_cases named : other = lessonId
    · exact named ▸ List.mem_cons_self
    · obtain ⟨status, held, counts⟩ := Db.mem_chargedLessons.mp charged
      rw [same other named] at held
      exact List.mem_cons_of_mem _ (Db.mem_chargedLessons.mpr ⟨status, held, counts⟩)
  exact (right.chargedLessons_nodup.subperm included).length_le

/-- Write-ups whose reads hold when they write keep every ledger in every state they reach, and
those on one lesson take one lesson at most from anybody. -/
theorem write_ups_charge_once
    (begun : ∀ t, ∃ user lessonId dto, calls t = .asked user lessonId dto)
    (run : Run journals JournalPhase.ReadHolds (.start db calls) state) (studentId : Id) :
    state.committed.ledger studentId = db.ledger studentId ∧
      ∀ lessonId, (∀ t, (calls t).lessonId = lessonId) →
        db.balance studentId ≤ state.committed.balance studentId + 1 := by
  have kept : state.committed.ledger studentId = db.ledger studentId := by
    apply run.measure_committed (journals_additive studentId) (journals_conserves studentId)
    intro t
    obtain ⟨user, lessonId, dto, asked⟩ := begun t
    rw [asked]
    rfl
  refine ⟨kept, fun lessonId onLesson => ?_⟩
  have charged := charges_le studentId fun other different =>
    markOf_committed onLesson run different
  rw [Db.ledger, Db.ledger] at kept
  omega

end

/-- Two taps of one register by the first school's admin. -/
def doubleTap : Bool → JournalPhase :=
  fun _ => .asked foxAdmin "l1" (taps [("k1", .present)])

/-- One tap after the other. -/
theorem double_tap_in_turn : ∃ state,
    Run journals JournalPhase.ReadHolds (.start pairLesson.db doubleTap) state ∧
      (∀ t, (state.sessions t).here = none) ∧
      state.committed.ledger "k1" = pairLesson.db.ledger "k1" ∧
      pairLesson.db.balance "k1" ≤ state.committed.balance "k1" + 1 := by
  have carried : ((ReadCommitted.State.start pairLesson.db doubleTap).schedule journals
      (fun here db => decide (here.ReadHolds db)) [false, false, false, false, false, false,
        true, true, true, true, true, true]).any
      (fun state => decide (∀ t, (state.sessions t).here = none)) = true := by
    decide
  obtain ⟨state, scheduled, ended⟩ := (Option.any_eq_true _ _).mp carried
  have run : Run journals JournalPhase.ReadHolds (.start pairLesson.db doubleTap) state :=
    ReadCommitted.State.schedule_run (fun _ _ => of_decide_eq_true) scheduled
  have charged := write_ups_charge_once (fun _ => ⟨foxAdmin, "l1", _, rfl⟩) run "k1"
  exact ⟨state, run, of_decide_eq_true ended, charged.1, charged.2 "l1" fun _ => rfl⟩

/-- When both read before either writes, a student is charged two lessons and one is marked. -/
theorem double_tap_charges_twice :
    Reachable .plain pairLesson ∧ ∃ state,
      Run journals (fun _ _ => True) (.start pairLesson.db doubleTap) state ∧
      (∀ t, (state.sessions t).here = none) ∧
      pairLesson.db.balance "k1" = 5 ∧ state.committed.balance "k1" = 3 ∧
      state.committed.charges "k1" = 1 := by
  have reached : Reachable .plain pairLesson := .after .plain .refl _
  have carried : ((ReadCommitted.State.start pairLesson.db doubleTap).schedule journals
      (fun _ _ => true) [false, false, true, true, false, false, false, false,
        true, true, true, true]).any (fun state => decide ((∀ t, (state.sessions t).here = none) ∧
        pairLesson.db.balance "k1" = 5 ∧ state.committed.balance "k1" = 3 ∧
        state.committed.charges "k1" = 1)) = true := by
    decide
  obtain ⟨state, scheduled, ended⟩ := (Option.any_eq_true _ _).mp carried
  exact ⟨reached, state, ReadCommitted.State.schedule_run (fun _ _ _ => trivial) scheduled,
    of_decide_eq_true ended⟩

end TutorApp
