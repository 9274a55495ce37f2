import TutorApp.Owners
import TutorApp.Register

set_option autoImplicit false

namespace TutorApp

open Relational

/-- What a lesson is charged for by a mark, if there is one. -/
def charge (mark : Option AttendanceStatus) : Int :=
  if mark.any AttendanceStatus.charged then 1 else 0

/-- A homework check after a mark that may carry one. -/
def homeworkAfter (old : Option Bool) : Js.Field Bool → Option Bool
  | .absent => old
  | .null => none
  | .given done => some done

/-- A text after a payload that may carry one. -/
def textAfter (old : Option String) : Js.Field String → Option String
  | .absent => old
  | .null => none
  | .given text => if Js.trim text = "" then none else some (Js.trim text)

def WriteJournalDto.marks (dto : WriteJournalDto) : List MarkAttendanceDto := dto.attendance.getD []

/-- The status after a payload: its own, else what its marks say, if it marks anybody. -/
def WriteJournalDto.statusAfter (dto : WriteJournalDto) (old : LessonStatus) : LessonStatus :=
  match dto.status with
  | .given status => status
  | _ =>
      if dto.marks = [] then old
      else if dto.marks.any fun mark => mark.status.charged then .completed else .cancelled

/-- The student of a lesson, or a current member of its group. -/
def Db.Attends (db : Db) (lesson : Lesson) (studentId : Id) : Prop :=
  lesson.studentId = some studentId ∨
    ∃ row ∈ db.members.rows, lesson.groupId = some row.groupId ∧ row.studentId = studentId

/-- What one mark leaves of its student and of its row. -/
structure Db.Marked (db next : Db) (lessonId : Id) (mark : MarkAttendanceDto) : Prop where
  row : next.attendances.find (lessonId, mark.studentId) = some
    ⟨lessonId, mark.studentId, mark.status, homeworkAfter
      ((db.attendances.find (lessonId, mark.studentId)).bind LessonAttendance.homeworkDone)
      mark.homeworkDone⟩
  balance : ∃ student, db.students.find mark.studentId = some student ∧
    next.students.find mark.studentId = some { student with
      paidLessonsLeft := student.paidLessonsLeft -
        (charge (some mark.status) - charge (db.markOf (lessonId, mark.studentId))) }

/-- Whoever is not named is as before, and so is the rest of the database. -/
structure Db.WrittenUp (db next : Db) (lesson : Lesson) (dto : WriteJournalDto) : Prop where
  rest : ∃ students attendances lessons, next = { db with students, attendances, lessons }
  named : ∀ mark ∈ dto.marks, db.Attends lesson mark.studentId ∧ db.Marked next lesson.id mark
  rows : ∀ k, (∀ mark ∈ dto.marks, (lesson.id, mark.studentId) ≠ k) →
    next.attendances.find k = db.attendances.find k
  balances : ∀ id, (∀ mark ∈ dto.marks, mark.studentId ≠ id) →
    next.students.find id = db.students.find id
  written : next.lessons.find lesson.id = some { lesson with
    topic := textAfter lesson.topic dto.topic
    homework := textAfter lesson.homework dto.homework
    status := dto.statusAfter lesson.status }
  lessons : ∀ id, id ≠ lesson.id → next.lessons.find id = db.lessons.find id

section

variable {db next : Db} {lessonId studentId : Id} {mark : MarkAttendanceDto}

theorem textPatch_getD (old : Option String) (sent : Js.Field String) :
    (textPatch sent).getD old = textAfter old sent := by
  cases sent <;> rfl

theorem homeworkPatch_getD (old : Option Bool) (sent : Js.Field Bool) :
    (GradebookService.homeworkPatch sent).getD old = homeworkAfter old sent := by
  cases sent <;> rfl

theorem chargeStep_eq (was : Option AttendanceStatus) (status : AttendanceStatus) :
    chargeStep (was.any AttendanceStatus.charged) status.charged =
      -(charge (some status) - charge was) := by
  have turns (before after : Bool) : chargeStep before after =
      -((if after then 1 else 0) - if before then 1 else 0) := by
    cases before <;> cases after <;> rfl
  exact turns _ _

theorem wasCharged_eq : GradebookService.wasCharged db lessonId studentId =
    (db.markOf (lessonId, studentId)).any AttendanceStatus.charged := by
  rw [GradebookService.wasCharged, Db.markOf, Option.any_map]

theorem journalPatch_apply (dto : WriteJournalDto) (lesson : Lesson) :
    (GradebookService.journalPatch dto dto.marks).apply lesson = { lesson with
      topic := textAfter lesson.topic dto.topic
      homework := textAfter lesson.homework dto.homework
      status := dto.statusAfter lesson.status } := by
  have status : (GradebookService.journalPatch dto dto.marks).status.getD lesson.status =
      dto.statusAfter lesson.status := by
    have implied : (statusFromRegister dto.marks).getD lesson.status =
        if dto.marks = [] then lesson.status
        else if dto.marks.any fun mark => mark.status.charged then .completed else .cancelled := by
      by_cases none : dto.marks = []
      · rw [if_pos none, none]
        rfl
      · rw [if_neg none, GradebookService.statusFromRegister_eq none, Option.getD_some]
    unfold GradebookService.journalPatch WriteJournalDto.statusAfter
    cases dto.status with
    | given status => rfl
    | absent => exact implied
    | null => exact implied
  rw [Db.LessonPatch.apply, status]
  congr 1
  · exact textPatch_getD lesson.topic dto.topic
  · exact textPatch_getD lesson.homework dto.homework

theorem Db.addLessons_students {amount : Int} (done : db.addLessons studentId amount = .ok next)
    (id : Id) : next.students.find id = if id = studentId
      then (db.students.find id).map fun row =>
        { row with paidLessonsLeft := row.paidLessonsLeft + amount }
      else db.students.find id := by
  obtain ⟨-, -, rfl⟩ := addLessons_ok.mp done
  dsimp only [creditStudent]
  rw [Table.find_update_key]

theorem GradebookService.settle_students (done : settle lessonId mark db = .ok next) (id : Id) :
    next.students.find id = if id = mark.studentId
      then (db.students.find id).map fun row => { row with
        paidLessonsLeft := row.paidLessonsLeft -
          (charge (some mark.status) - charge (db.markOf (lessonId, mark.studentId))) }
      else db.students.find id := by
  have step := chargeStep_eq (db.markOf (lessonId, mark.studentId)) mark.status
  unfold settle settleFrom at done
  rw [wasCharged_eq] at done
  split at done
  · rw [Db.addLessons_students done, step]
    rfl
  · rename_i same
    obtain rfl := Except.ok.inj done
    simp only [bne_iff_ne, ne_eq, not_not] at same
    rw [same, chargeStep, if_pos rfl] at step
    rw [show charge (some mark.status) - charge (db.markOf (lessonId, mark.studentId)) = 0 by omega]
    simp only [Int.sub_zero, Option.map_id']
    split <;> rfl

theorem Db.upsertAttendance_find {status : AttendanceStatus} {homeworkDone : Js.Field Bool}
    (done : db.upsertAttendance lessonId studentId status
      (GradebookService.homeworkPatch homeworkDone) = .ok next) (k : Id × Id) :
    next.attendances.find k = if (lessonId, studentId) = k
      then some ⟨lessonId, studentId, status,
        homeworkAfter ((db.attendances.find k).bind LessonAttendance.homeworkDone) homeworkDone⟩
      else db.attendances.find k := by
  obtain ⟨-, rfl⟩ := upsertAttendance_ok.mp done
  rw [putAttendance, Table.find_upsert]
  by_cases same : (lessonId, studentId) = k
  · rw [if_pos same, if_pos (show key _ = k from same)]
    cases found : db.attendances.find k with
    | none =>
        rw [Option.elim_none, homeworkPatch_getD]
        rfl
    | some row =>
        have named : (row.lessonId, row.studentId) = (lessonId, studentId) :=
          (Table.find_eq_some.mp found).2.trans same.symm
        obtain ⟨ofLesson, ofStudent⟩ := Prod.mk.inj named
        rw [Option.elim_some, Option.bind_some, homeworkPatch_getD, ← ofLesson, ← ofStudent]
  · rw [if_neg same, if_neg (show key _ ≠ k from same)]

/-- What a turn of the loop leaves of its student. -/
theorem GradebookService.writeMark_marked (done : writeMark lessonId mark db = .ok next) :
    db.Marked next lessonId mark := by
  obtain ⟨settled, settles, upserted⟩ := writeMark_ok.mp done
  have balance := settle_students settles mark.studentId
  rw [if_pos rfl] at balance
  have known : settled.hasStudent mark.studentId = true := by
    have present := (Db.upsertAttendance_ok.mp upserted).1
    rw [Bool.and_eq_true] at present
    exact present.2
  have row := Db.upsertAttendance_find upserted (lessonId, mark.studentId)
  rw [if_pos rfl] at row
  obtain ⟨_, rfl⟩ := Db.upsertAttendance_frame upserted
  obtain ⟨_, rfl⟩ := settle_frame settles
  refine ⟨row, ?_⟩
  rw [Db.hasStudent, balance, Option.isSome_map, Option.isSome_iff_exists] at known
  obtain ⟨student, found⟩ := known
  rw [found, Option.map_some] at balance
  exact ⟨student, found, balance⟩

theorem GradebookService.writeMark_balances (done : writeMark lessonId mark db = .ok next) {id : Id}
    (other : mark.studentId ≠ id) : next.students.find id = db.students.find id := by
  obtain ⟨settled, settles, upserted⟩ := writeMark_ok.mp done
  have balance := settle_students settles id
  obtain ⟨_, rfl⟩ := Db.upsertAttendance_frame upserted
  exact balance.trans (if_neg other.symm)

theorem GradebookService.writeMarks_balances {marks : List MarkAttendanceDto}
    (done : writeMarks lessonId marks db = .ok next) {id : Id}
    (unnamed : ∀ mark ∈ marks, mark.studentId ≠ id) :
    next.students.find id = db.students.find id := by
  induction marks generalizing db with
  | nil => rw [Except.ok.inj done]
  | cons mark rest ih =>
      obtain ⟨marked, first, others⟩ := writeMarks_cons_ok.mp done
      have later := ih others fun other member => unnamed other (List.mem_cons_of_mem _ member)
      rw [later, writeMark_balances first (unnamed mark List.mem_cons_self)]

/-- A mark reads only the row and the balance it writes. -/
theorem Db.Marked.congr {before after : Db} (marked : before.Marked after lessonId mark)
    (row : before.attendances.find (lessonId, mark.studentId) =
      db.attendances.find (lessonId, mark.studentId))
    (balance : before.students.find mark.studentId = db.students.find mark.studentId)
    (row' : next.attendances.find (lessonId, mark.studentId) =
      after.attendances.find (lessonId, mark.studentId))
    (balance' : next.students.find mark.studentId = after.students.find mark.studentId) :
    db.Marked next lessonId mark := by
  constructor
  · rw [row', ← row]
    exact marked.row
  · rw [balance', ← balance, Db.markOf, ← row]
    exact marked.balance

/-- No mark of the loop touches what another one left. -/
theorem GradebookService.writeMarks_each {marks : List MarkAttendanceDto}
    (done : writeMarks lessonId marks db = .ok next)
    (once : (marks.map MarkAttendanceDto.studentId).Nodup) :
    ∀ mark ∈ marks, db.Marked next lessonId mark := by
  induction marks generalizing db with
  | nil => exact fun mark member => absurd member List.not_mem_nil
  | cons first rest ih =>
      rw [List.map_cons, List.nodup_cons] at once
      obtain ⟨written, turn, others⟩ := writeMarks_cons_ok.mp done
      have different : ∀ other ∈ rest, other.studentId ≠ first.studentId := by
        intro other listed same
        exact once.1 (same ▸ List.mem_map_of_mem listed)
      intro mark member
      rcases List.mem_cons.mp member with rfl | later
      · have balance := writeMarks_balances others different
        have row : next.attendances.find (lessonId, mark.studentId) = _ :=
          writeMarks_rows others fun other listed same =>
            different other listed (Prod.mk.inj same).2
        exact (writeMark_marked turn).congr rfl rfl row balance
      · have apart := (different mark later).symm
        have balance := writeMark_balances turn apart
        have row : written.attendances.find (lessonId, mark.studentId) = _ :=
          writeMark_rows turn fun same => apart (Prod.mk.inj same).2
        exact (ih others once.2 mark later).congr row balance rfl rfl

theorem Db.updateLesson_find {patch : LessonPatch} (done : db.updateLesson lessonId patch = .ok next)
    (id : Id) : next.lessons.find id =
      if id = lessonId then (db.lessons.find id).map patch.apply else db.lessons.find id := by
  obtain ⟨_, updated, rfl⟩ := updateLesson_ok.mp done
  obtain ⟨-, rfl⟩ := updateRow_ok.mp updated
  exact Table.find_update_key db.lessons lessonId patch.apply patch.key_apply id

theorem LessonsService.mem_studentIdsFor {lesson : Lesson}
    (found : db.lessons.find lessonId = some lesson) (one : lesson.studentId.isSome ↔ lesson.groupId = none) :
    studentId ∈ studentIdsFor lessonId db ↔ db.Attends lesson studentId := by
  rw [studentIdsFor, found]
  dsimp only
  rcases one_of_two one with ⟨own, ungrouped⟩ | ⟨unowned, grouped⟩
  · obtain ⟨owner, own⟩ := Option.isSome_iff_exists.mp own
    simp only [Db.Attends, own, ungrouped, List.mem_singleton, Option.some.injEq, reduceCtorEq,
      false_and, and_false, exists_false, or_false]
    exact eq_comm
  · obtain ⟨groupId, grouped⟩ := Option.isSome_iff_exists.mp grouped
    simp only [Db.Attends, unowned, grouped, List.mem_map, Table.mem_select, beq_iff_eq,
      Option.some.injEq, reduceCtorEq, false_or]
    constructor
    · rintro ⟨row, ⟨member, home⟩, named⟩
      exact ⟨row, member, home.symm, named⟩
    · rintro ⟨row, member, home, named⟩
      exact ⟨row, ⟨member, home.symm⟩, named⟩

namespace GradebookService

variable {platform : Platform} {user : User} {dto : WriteJournalDto} {view : JournalView}

theorem writeJournal_writtenUp {lesson : Lesson} (owned : db.Owned)
    (found : LessonsService.findReachable user lessonId db = .ok lesson)
    (success : writeJournal platform user lessonId dto db = .ok (view, next)) :
    db.WrittenUp next lesson dto := by
  obtain ⟨reached, written, lookup, same, once, eligible, marked, updated⟩ := writeJournal_accepted success
  obtain rfl := Except.ok.inj (found.symm.trans lookup)
  obtain ⟨row, -⟩ := (LessonsService.findReachable_ok user).mp found
  have one := owned.lessons lesson (Table.find_eq_some.mp row).1
  have lessons := Db.updateLesson_find updated
  obtain ⟨students, attendances, rfl⟩ := writeMarks_frame marked
  have each := writeMarks_each marked once
  obtain ⟨_, rfl⟩ := Db.updateLesson_frame updated
  subst same
  constructor
  · exact ⟨students, attendances, _, rfl⟩
  · intro mark member
    have marked := each mark member
    exact ⟨(LessonsService.mem_studentIdsFor row one).mp (eligible mark member),
      marked.row, marked.balance⟩
  · exact fun k unnamed => writeMarks_rows marked unnamed
  · exact fun id unnamed => writeMarks_balances marked unnamed
  · rw [lessons, if_pos rfl]
    exact (congrArg (Option.map _) row).trans (congrArg some (journalPatch_apply dto lesson))
  · intro id other
    rw [lessons, if_neg other]

theorem homeworkAfter_again (old : Option Bool) (sent : Js.Field Bool) :
    homeworkAfter (homeworkAfter old sent) sent = homeworkAfter old sent := by
  cases sent <;> rfl

theorem textAfter_again (old : Option String) (sent : Js.Field String) :
    textAfter (textAfter old sent) sent = textAfter old sent := by
  cases sent <;> rfl

theorem statusAfter_again (dto : WriteJournalDto) (old : LessonStatus) :
    dto.statusAfter (dto.statusAfter old) = dto.statusAfter old := by
  unfold WriteJournalDto.statusAfter
  cases dto.status with
  | given status => rfl
  | absent | null => by_cases none : dto.marks = [] <;> simp only [none, if_true, if_false]

/-- A mark that is in place already moves nothing. -/
theorem writeMark_again {homework : Option Bool} (booked : db.hasLesson lessonId = true)
    (known : db.hasStudent mark.studentId = true)
    (row : db.attendances.find (lessonId, mark.studentId) =
      some ⟨lessonId, mark.studentId, mark.status, homework⟩)
    (settled : homeworkAfter homework mark.homeworkDone = homework) :
    writeMark lessonId mark db = .ok db := by
  have uncharged : settle lessonId mark db = .ok db := by
    rw [settle, settleFrom, wasCharged_eq, Db.markOf, row, Option.map_some, Option.any_some,
      bne_self_eq_false]
    rfl
  have kept : db.putAttendance lessonId mark.studentId mark.status
      (homeworkPatch mark.homeworkDone) = db := by
    have same : db.attendances.upsert
        ⟨lessonId, mark.studentId, mark.status, (homeworkPatch mark.homeworkDone).getD none⟩
        (fun row => { row with
          status := mark.status
          homeworkDone := (homeworkPatch mark.homeworkDone).getD row.homeworkDone })
        (fun _ => rfl) = db.attendances := by
      apply Table.upsert_eq_self row
      rw [homeworkPatch_getD, settled]
    rw [Db.putAttendance, same]
  rw [writeMark, uncharged, ok_bind, Db.upsertAttendance, booked, known, kept]
  rfl

theorem writeMarks_again {marks : List MarkAttendanceDto}
    (settled : ∀ mark ∈ marks, writeMark lessonId mark db = .ok db) :
    writeMarks lessonId marks db = .ok db := by
  induction marks with
  | nil => rfl
  | cons mark rest ih =>
      rw [writeMarks, settled mark List.mem_cons_self, ok_bind]
      exact ih fun other member => settled other (List.mem_cons_of_mem _ member)

theorem writeJournal_of {lesson : Lesson} {written : Db}
    (found : LessonsService.findReachable user lessonId db = .ok lesson)
    (checks : checkMarks lesson.id dto.marks db = .ok ())
    (marked : writeMarks lesson.id dto.marks db = .ok written)
    (updated : written.updateLesson lesson.id (journalPatch dto dto.marks) = .ok next) :
    ∃ view, writeJournal platform user lessonId dto db = .ok (view, next) :=
  ⟨_, writeJournal_ok.mpr ⟨lesson, found, checks, written, marked, updated, rfl⟩⟩

/-- What has been written up is written up again without a change. -/
theorem writeJournal_again {lesson : Lesson} (owned : db.Owned)
    (found : LessonsService.findReachable user lessonId db = .ok lesson)
    (success : writeJournal platform user lessonId dto db = .ok (view, next)) :
    ∃ view', writeJournal platform user lessonId dto next = .ok (view', next) := by
  have after := writeJournal_writtenUp owned found success
  obtain ⟨reached, written, lookup, same, once, eligible, marked, updated⟩ := writeJournal_accepted success
  obtain rfl := Except.ok.inj (found.symm.trans lookup)
  obtain ⟨row, owns⟩ := (LessonsService.findReachable_ok user).mp found
  subst same
  obtain ⟨students, attendances, lessons, rest⟩ := after.rest
  have found' : LessonsService.findReachable user lesson.id next = .ok _ :=
    (LessonsService.findReachable_ok user).mpr ⟨after.written, owns⟩
  have checks : checkMarks lesson.id dto.marks next = .ok () := by
    have same : LessonsService.studentIdsFor lesson.id next =
        LessonsService.studentIdsFor lesson.id db := by
      rw [LessonsService.studentIdsFor, LessonsService.studentIdsFor, after.written, row, rest]
    rw [checkMarks_ok, same]
    exact ⟨eligible, once⟩
  have marks : writeMarks lesson.id dto.marks next = .ok next := by
    apply writeMarks_again
    intro mark member
    obtain ⟨-, row, student, -, balance⟩ := after.named mark member
    have booked : next.hasLesson lesson.id = true := by
      rw [Db.hasLesson, after.written, Option.isSome_some]
    have known : next.hasStudent mark.studentId = true := by
      rw [Db.hasStudent, balance, Option.isSome_some]
    exact writeMark_again booked known row (homeworkAfter_again _ mark.homeworkDone)
  have patched : next.updateLesson lesson.id (journalPatch dto dto.marks) = .ok next := by
    simp only [Db.updateLesson_ok, updateRow_ok]
    refine ⟨next.lessons, ⟨Option.isSome_of_eq_some after.written, ?_⟩, rfl⟩
    apply Table.update_eq_self
    intro other member hit
    have named : next.lessons.find lesson.id = some other :=
      Table.find_eq_some.mpr ⟨member, of_decide_eq_true hit⟩
    obtain rfl := Option.some.inj (after.written.symm.trans named)
    rw [journalPatch_apply]
    dsimp only
    rw [textAfter_again, textAfter_again, statusAfter_again]
  exact writeJournal_of found' checks marks patched

/-- A stranger in the register, or a student named twice, ends the call. -/
theorem writeJournal_refused {lesson : Lesson} (owned : db.Owned)
    (found : LessonsService.findReachable user lessonId db = .ok lesson)
    (wrong : (∃ mark ∈ dto.marks, ¬ db.Attends lesson mark.studentId) ∨
      ¬ (dto.marks.map MarkAttendanceDto.studentId).Nodup) :
    ∃ reason, writeJournal platform user lessonId dto db = .error reason := by
  cases done : writeJournal platform user lessonId dto db with
  | error reason => exact ⟨reason, rfl⟩
  | ok value =>
      obtain ⟨-, -, -, -, once, -⟩ := writeJournal_accepted done
      have after := writeJournal_writtenUp owned found done
      rcases wrong with ⟨mark, member, stranger⟩ | twice
      · exact absurd (after.named mark member).1 stranger
      · exact absurd once twice

end GradebookService

end

/-- A write-up does all of what its payload says and nothing else, or nothing at all. -/
theorem write_up_all_or_nothing {platform : Platform} {world : World}
    (reachable : Reachable platform world) (user : User) (outside : Outside) (lessonId : Id)
    (dto : WriteJournalDto) :
    let call := (Command.writeJournal lessonId dto).run platform user outside
    (∀ reason, (call world).result = .error reason → (call world).world = world) ∧
      (∀ lesson, LessonsService.findReachable user lessonId world.db = .ok lesson →
        (∃ mark ∈ dto.marks, ¬ world.db.Attends lesson mark.studentId) ∨
          ¬ (dto.marks.map MarkAttendanceDto.studentId).Nodup →
        ∃ reason, (call world).result = .error reason) ∧
      ∀ answer, (call world).result = .ok answer →
        (∃ lesson next, LessonsService.findReachable user lessonId world.db = .ok lesson ∧
          (call world).world = { world with db := next } ∧ world.db.WrittenUp next lesson dto) ∧
        (∃ again, (call (call world).world).result = .ok again) ∧
          (call (call world).world).world = (call world).world := by
  have owned := reachable.owned
  refine ⟨fun reason failed => World.commit_error failed, ?_, ?_⟩
  · intro lesson found wrong
    obtain ⟨reason, refused⟩ := @GradebookService.writeJournal_refused world.db lessonId platform
      user dto lesson owned found wrong
    dsimp only [Command.run]
    exact ⟨reason, by rw [refused]; rfl⟩
  · intro answer succeeded
    obtain ⟨view, next, done, after⟩ := World.commit_ok succeeded
    obtain ⟨lesson, -, found, -⟩ := GradebookService.writeJournal_accepted done
    have written := GradebookService.writeJournal_writtenUp owned found done
    obtain ⟨view', again⟩ := GradebookService.writeJournal_again owned found done
    refine ⟨⟨lesson, next, found, after, written⟩, ?_, ?_⟩
    · dsimp only [Command.run] at after ⊢
      rw [after, again]
      exact ⟨_, rfl⟩
    · dsimp only [Command.run] at after ⊢
      rw [after, again]
      rfl

/-- One of a pair is marked present. -/
theorem kim_written_up :
    let dto := taps [("k1", .present)]
    let call := (Command.writeJournal "l1" dto).run .plain foxAdmin (.quiet "")
    (call pairLesson).result.isOk = true ∧
      (∃ lesson next, LessonsService.findReachable foxAdmin "l1" pairLesson.db = .ok lesson ∧
        (call pairLesson).world = { pairLesson with db := next } ∧
        pairLesson.db.WrittenUp next lesson dto) ∧
      (∃ again, (call (call pairLesson).world).result = .ok again) ∧
        (call (call pairLesson).world).world = (call pairLesson).world := by
  intro dto call
  have accepted : (call pairLesson).result.isOk = true := by decide
  obtain ⟨answer, succeeded⟩ := exists_of_isOk accepted
  have reachable : Reachable .plain pairLesson := .after .plain .refl _
  exact ⟨accepted,
    (write_up_all_or_nothing reachable foxAdmin (.quiet "") "l1" dto).2.2 answer succeeded⟩

end TutorApp
