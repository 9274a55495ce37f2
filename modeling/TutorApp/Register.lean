import TutorApp.System

set_option autoImplicit false

namespace TutorApp

open Relational

namespace Db

variable {db next : Db} {lessonId studentId : Id}

/-- The mark a student holds for a lesson. -/
def markOf (db : Db) (k : Id × Id) : Option AttendanceStatus :=
  (db.attendances.find k).map LessonAttendance.status

def statusOf (db : Db) (lessonId : Id) : Option LessonStatus :=
  (db.lessons.find lessonId).map Lesson.status

theorem mark_of_row {row : LessonAttendance} (member : row ∈ db.attendances.rows) :
    db.markOf (row.lessonId, row.studentId) = some row.status := by
  have found : db.attendances.find (row.lessonId, row.studentId) = some row :=
    Table.find_key member
  rw [markOf, found, Option.map_some]

theorem row_of_mark {status : AttendanceStatus}
    (held : db.markOf (lessonId, studentId) = some status) :
    ∃ row ∈ db.attendances.rows,
      row.lessonId = lessonId ∧ row.studentId = studentId ∧ row.status = status := by
  obtain ⟨row, found, same⟩ := Option.map_eq_some_iff.mp held
  obtain ⟨member, named⟩ := Table.find_eq_some.mp found
  obtain ⟨ofLesson, ofStudent⟩ := Prod.mk.inj named
  exact ⟨row, member, ofLesson, ofStudent, same⟩

theorem addLessons_frame {amount : Int} (done : db.addLessons studentId amount = .ok next) :
    ∃ students, next = { db with students } := by
  obtain ⟨-, -, rfl⟩ := addLessons_ok.mp done
  exact ⟨_, rfl⟩

theorem upsertAttendance_frame {status : AttendanceStatus} {homeworkDone : Option (Option Bool)}
    (done : db.upsertAttendance lessonId studentId status homeworkDone = .ok next) :
    ∃ attendances, next = { db with attendances } := by
  obtain ⟨-, rfl⟩ := upsertAttendance_ok.mp done
  exact ⟨_, rfl⟩

theorem updateLesson_frame {patch : LessonPatch} (done : db.updateLesson lessonId patch = .ok next) :
    ∃ lessons, next = { db with lessons } := by
  obtain ⟨lessons, -, rfl⟩ := updateLesson_ok.mp done
  exact ⟨lessons, rfl⟩

/-- An upsert sets the mark under its key and no other. -/
theorem upsertAttendance_markOf {status : AttendanceStatus} {homeworkDone : Option (Option Bool)}
    (done : db.upsertAttendance lessonId studentId status homeworkDone = .ok next) (k : Id × Id) :
    next.markOf k = if (lessonId, studentId) = k then some status else db.markOf k := by
  obtain ⟨-, rfl⟩ := upsertAttendance_ok.mp done
  rw [markOf, putAttendance, Table.find_upsert]
  by_cases same : (lessonId, studentId) = k
  · rw [if_pos same, if_pos (show key _ = k from same), Option.map_some]
    cases db.attendances.find k <;> rfl
  · rw [if_neg same, if_neg (show key _ ≠ k from same), markOf]

/-- The rows under other keys stay as they were. -/
theorem upsertAttendance_other {status : AttendanceStatus} {homeworkDone : Option (Option Bool)}
    (done : db.upsertAttendance lessonId studentId status homeworkDone = .ok next) {k : Id × Id}
    (other : (lessonId, studentId) ≠ k) : next.attendances.find k = db.attendances.find k := by
  obtain ⟨-, rfl⟩ := upsertAttendance_ok.mp done
  rw [putAttendance, Table.find_upsert, if_neg (show key _ ≠ k from other)]

theorem updateLesson_statusOf {patch : LessonPatch}
    (done : db.updateLesson lessonId patch = .ok next) :
    next.statusOf lessonId = (db.statusOf lessonId).map patch.status.getD := by
  obtain ⟨lessons, updated, rfl⟩ := updateLesson_ok.mp done
  obtain ⟨-, rfl⟩ := updateRow_ok.mp updated
  rw [statusOf, Table.find_update, statusOf]
  cases found : db.lessons.find lessonId with
  | none => rfl
  | some row =>
      have named : key row = lessonId := (Table.find_eq_some.mp found).2
      rw [Option.map_some, if_pos (decide_eq_true named)]
      rfl

end Db

namespace GradebookService

variable {platform : Platform} {user : User} {db next : Db} {lessonId : Id}

theorem settle_frame {mark : MarkAttendanceDto} (done : settle lessonId mark db = .ok next) :
    ∃ students, next = { db with students } := by
  unfold settle settleFrom at done
  split at done
  · exact Db.addLessons_frame done
  · exact ⟨db.students, (Except.ok.inj done).symm⟩

theorem writeMark_markOf {mark : MarkAttendanceDto} (done : writeMark lessonId mark db = .ok next)
    (k : Id × Id) :
    next.markOf k = if (lessonId, mark.studentId) = k then some mark.status else db.markOf k := by
  obtain ⟨settled, settles, upserted⟩ := writeMark_ok.mp done
  obtain ⟨students, rfl⟩ := settle_frame settles
  exact Db.upsertAttendance_markOf upserted k

/-- A turn of the loop touches balances and register rows, nothing else. -/
theorem writeMark_frame {mark : MarkAttendanceDto} (done : writeMark lessonId mark db = .ok next) :
    ∃ students attendances, next = { db with students, attendances } := by
  obtain ⟨settled, settles, upserted⟩ := writeMark_ok.mp done
  obtain ⟨students, rfl⟩ := settle_frame settles
  obtain ⟨attendances, rfl⟩ := Db.upsertAttendance_frame upserted
  exact ⟨students, attendances, rfl⟩

theorem writeMarks_frame {marks : List MarkAttendanceDto}
    (done : writeMarks lessonId marks db = .ok next) :
    ∃ students attendances, next = { db with students, attendances } := by
  induction marks generalizing db with
  | nil => exact ⟨db.students, db.attendances, (Except.ok.inj done).symm⟩
  | cons mark rest ih =>
      obtain ⟨marked, first, others⟩ := writeMarks_cons_ok.mp done
      obtain ⟨_, _, rfl⟩ := writeMark_frame first
      obtain ⟨students, attendances, same⟩ := ih others
      exact ⟨students, attendances, same⟩

theorem writeMark_rows {mark : MarkAttendanceDto} (done : writeMark lessonId mark db = .ok next)
    {k : Id × Id} (other : (lessonId, mark.studentId) ≠ k) :
    next.attendances.find k = db.attendances.find k := by
  obtain ⟨settled, settles, upserted⟩ := writeMark_ok.mp done
  obtain ⟨students, rfl⟩ := settle_frame settles
  exact Db.upsertAttendance_other upserted other

/-- Rows nobody in the register is named by stay as they were. -/
theorem writeMarks_rows {marks : List MarkAttendanceDto}
    (done : writeMarks lessonId marks db = .ok next) {k : Id × Id}
    (unnamed : ∀ mark ∈ marks, (lessonId, mark.studentId) ≠ k) :
    next.attendances.find k = db.attendances.find k := by
  induction marks generalizing db with
  | nil => rw [Except.ok.inj done]
  | cons mark rest ih =>
      obtain ⟨marked, first, others⟩ := writeMarks_cons_ok.mp done
      have later := ih others fun other member => unnamed other (List.mem_cons_of_mem _ member)
      rw [later, writeMark_rows first (unnamed mark List.mem_cons_self)]

theorem writeMarks_unmarked {marks : List MarkAttendanceDto}
    (done : writeMarks lessonId marks db = .ok next) {k : Id × Id}
    (unnamed : ∀ mark ∈ marks, (lessonId, mark.studentId) ≠ k) : next.markOf k = db.markOf k := by
  rw [Db.markOf, writeMarks_rows done unnamed, Db.markOf]

/-- Everybody in the register holds the mark it names them with. -/
theorem writeMarks_marked {marks : List MarkAttendanceDto}
    (done : writeMarks lessonId marks db = .ok next)
    (once : (marks.map MarkAttendanceDto.studentId).Nodup) {mark : MarkAttendanceDto}
    (member : mark ∈ marks) : next.markOf (lessonId, mark.studentId) = some mark.status := by
  induction marks generalizing db with
  | nil => cases member
  | cons first rest ih =>
      rw [List.map_cons, List.nodup_cons] at once
      obtain ⟨marked, written, others⟩ := writeMarks_cons_ok.mp done
      rcases List.mem_cons.mp member with rfl | later
      · have unnamed : ∀ other ∈ rest, (lessonId, other.studentId) ≠ (lessonId, mark.studentId) := by
          intro other listed same
          exact once.1 ((Prod.mk.inj same).2 ▸ List.mem_map_of_mem listed)
        rw [writeMarks_unmarked others unnamed, writeMark_markOf written, if_pos rfl]
      · exact ih others once.2 later

/-- The steps of an accepted write-up. -/
theorem writeJournal_accepted {dto : WriteJournalDto} {view : JournalView}
    (success : writeJournal platform user lessonId dto db = .ok (view, next)) :
    ∃ lesson written, LessonsService.findReachable user lessonId db = .ok lesson ∧
      lesson.id = lessonId ∧
      ((dto.attendance.getD []).map MarkAttendanceDto.studentId).Nodup ∧
      (∀ mark ∈ dto.attendance.getD [],
        mark.studentId ∈ LessonsService.studentIdsFor lessonId db) ∧
      writeMarks lessonId (dto.attendance.getD []) db = .ok written ∧
      written.updateLesson lessonId (journalPatch dto (dto.attendance.getD [])) = .ok next := by
  obtain ⟨lesson, found, checks, written, marked, updated, -⟩ := writeJournal_ok.mp success
  have same : lesson.id = lessonId :=
    (Table.find_eq_some.mp ((LessonsService.findReachable_ok user).mp found).1).2
  rw [same] at checks marked updated
  obtain ⟨eligible, once⟩ := checkMarks_ok.mp checks
  exact ⟨lesson, written, found, same, once, eligible, marked, updated⟩

theorem statusFromRegister_eq {marks : List MarkAttendanceDto} (marked : marks ≠ []) :
    statusFromRegister marks =
      some (if marks.any fun mark => mark.status.charged then .completed else .cancelled) := by
  unfold statusFromRegister
  rw [if_neg (by simpa using marked)]
  split <;> rfl

/-- A payload with marks and no status of its own. -/
def MarksOnly (dto : WriteJournalDto) : Prop :=
  dto.attendance.getD [] ≠ [] ∧ dto.status.toOption = none

theorem journalPatch_status {dto : WriteJournalDto} (marksOnly : MarksOnly dto) :
    (journalPatch dto (dto.attendance.getD [])).status =
      some (if (dto.attendance.getD []).any fun mark => mark.status.charged
        then .completed else .cancelled) := by
  rw [← statusFromRegister_eq marksOnly.1]
  have unstated := marksOnly.2
  unfold journalPatch
  cases stated : dto.status with
  | given status =>
      rw [stated] at unstated
      cases unstated
  | absent => rfl
  | null => rfl

/-- The status follows from the marks of the payload alone. -/
theorem writeJournal_statusOf {dto : WriteJournalDto} {view : JournalView}
    (success : writeJournal platform user lessonId dto db = .ok (view, next))
    (marksOnly : MarksOnly dto) :
    next.statusOf lessonId =
      some (if (dto.attendance.getD []).any fun mark => mark.status.charged
        then .completed else .cancelled) := by
  obtain ⟨lesson, written, found, -, -, -, marked, updated⟩ := writeJournal_accepted success
  obtain ⟨students, attendances, rfl⟩ := writeMarks_frame marked
  have lookup := ((LessonsService.findReachable_ok user).mp found).1
  rw [Db.updateLesson_statusOf updated, journalPatch_status marksOnly, Db.statusOf, lookup]
  rfl

/-- The register a write-up leaves: its own marks, and the rows of whoever it does not name. -/
theorem writeJournal_markOf {dto : WriteJournalDto} {view : JournalView}
    (success : writeJournal platform user lessonId dto db = .ok (view, next)) :
    (∀ mark ∈ dto.attendance.getD [],
        next.markOf (lessonId, mark.studentId) = some mark.status) ∧
      ∀ k, (∀ mark ∈ dto.attendance.getD [], (lessonId, mark.studentId) ≠ k) →
        next.markOf k = db.markOf k := by
  obtain ⟨lesson, written, -, -, once, -, marked, updated⟩ := writeJournal_accepted success
  obtain ⟨lessons, rfl⟩ := Db.updateLesson_frame updated
  constructor
  · intro mark member
    exact writeMarks_marked marked once member
  · intro k unnamed
    exact writeMarks_unmarked marked unnamed

end GradebookService

/-- Whether anybody was charged for a lesson. -/
def Db.AnyCharged (db : Db) (lessonId : Id) : Prop :=
  ∃ row ∈ db.attendances.rows, row.lessonId = lessonId ∧ row.status.charged = true

/-- Whether the status of a lesson says what all of its register says. -/
def Db.StatusAgrees (db : Db) (lessonId : Id) : Prop :=
  ∃ lesson, db.lessons.find lessonId = some lesson ∧
    (lesson.status = .completed ↔
      ∃ row ∈ db.attendances.rows, row.lessonId = lessonId ∧ row.status.charged = true) ∧
    (lesson.status = .cancelled ↔
      ∀ row ∈ db.attendances.rows, row.lessonId = lessonId → row.status = .absentExcused)

section

variable {db next : Db} {lessonId : Id}

theorem AttendanceStatus.charged_iff {status : AttendanceStatus} :
    status.charged = true ↔ status ≠ .absentExcused := by
  cases status <;> simp [charged]

theorem Db.noneCharged_iff :
    ¬ db.AnyCharged lessonId ↔
      ∀ row ∈ db.attendances.rows, row.lessonId = lessonId → row.status = .absentExcused := by
  simp only [AnyCharged, AttendanceStatus.charged_iff, not_exists, not_and, not_not]

theorem Db.statusAgrees_completed (completed : db.statusOf lessonId = some .completed) :
    db.StatusAgrees lessonId ↔ db.AnyCharged lessonId := by
  obtain ⟨lesson, found, status⟩ := Option.map_eq_some_iff.mp completed
  constructor
  · rintro ⟨other, lookup, happened, -⟩
    rw [found, Option.some.injEq] at lookup
    subst lookup
    exact happened.mp status
  · intro anyCharged
    refine ⟨lesson, found, ⟨fun _ => anyCharged, fun _ => status⟩, ?_⟩
    rw [← noneCharged_iff, status]
    exact ⟨fun cancelled => (by cases cancelled), fun none => absurd anyCharged none⟩

theorem Db.statusAgrees_cancelled (cancelled : db.statusOf lessonId = some .cancelled) :
    db.StatusAgrees lessonId ↔ ¬ db.AnyCharged lessonId := by
  obtain ⟨lesson, found, status⟩ := Option.map_eq_some_iff.mp cancelled
  constructor
  · rintro ⟨other, lookup, happened, -⟩ anyCharged
    rw [found, Option.some.injEq] at lookup
    subst lookup
    have completed := happened.mpr anyCharged
    rw [status] at completed
    cases completed
  · intro none
    refine ⟨lesson, found, ?_, ⟨fun _ => noneCharged_iff.mp none, fun _ => status⟩⟩
    rw [status]
    exact ⟨fun completed => (by cases completed), fun anyCharged => absurd anyCharged none⟩

/-- Who is charged after a write-up: whoever it marks so, and whoever was and is not named. -/
theorem GradebookService.writeJournal_anyCharged {platform : Platform} {user : User}
    {dto : WriteJournalDto} {view : JournalView}
    (success : writeJournal platform user lessonId dto db = .ok (view, next)) :
    next.AnyCharged lessonId ↔
      (∃ mark ∈ dto.attendance.getD [], mark.status.charged = true) ∨
        ∃ row ∈ db.attendances.rows, row.lessonId = lessonId ∧ row.status.charged = true ∧
          ∀ mark ∈ dto.attendance.getD [], mark.studentId ≠ row.studentId := by
  obtain ⟨marked, unmarked⟩ := writeJournal_markOf success
  constructor
  · rintro ⟨row, member, ofLesson, charged⟩
    have held := Db.mark_of_row member
    rw [ofLesson] at held
    by_cases named : ∃ mark ∈ dto.attendance.getD [], mark.studentId = row.studentId
    · obtain ⟨mark, listed, same⟩ := named
      have set := marked mark listed
      rw [same, held, Option.some.injEq] at set
      exact .inl ⟨mark, listed, set ▸ charged⟩
    · right
      have unnamed : ∀ mark ∈ dto.attendance.getD [], mark.studentId ≠ row.studentId :=
        fun mark listed same => named ⟨mark, listed, same⟩
      rw [unmarked _ fun mark listed same => unnamed mark listed (Prod.mk.inj same).2] at held
      obtain ⟨old, present, oldLesson, oldStudent, status⟩ := Db.row_of_mark held
      exact ⟨old, present, oldLesson, status ▸ charged, oldStudent ▸ unnamed⟩
  · rintro (⟨mark, listed, charged⟩ | ⟨row, member, ofLesson, charged, unnamed⟩)
    · obtain ⟨row, present, ofLesson, -, status⟩ := Db.row_of_mark (marked mark listed)
      exact ⟨row, present, ofLesson, status ▸ charged⟩
    · have held := Db.mark_of_row member
      rw [ofLesson, ← unmarked _ fun mark listed same =>
        unnamed mark listed (Prod.mk.inj same).2] at held
      obtain ⟨new, present, newLesson, -, status⟩ := Db.row_of_mark held
      exact ⟨new, present, newLesson, status ▸ charged⟩

end

namespace GradebookService

variable {platform : Platform} {user : User} {db next : Db} {lessonId : Id}

/-- A register written in several calls, one after the other. -/
def writeParts (platform : Platform) (user : User) (lessonId : Id) :
    List WriteJournalDto → Db → Service Db
  | [], db => .ok db
  | part :: rest, db => do
      let (_, db) ← writeJournal platform user lessonId part db
      writeParts platform user lessonId rest db

theorem writeParts_statusOf {parts : List WriteJournalDto} {last : WriteJournalDto}
    (success : writeParts platform user lessonId (parts ++ [last]) db = .ok next)
    (marksOnly : MarksOnly last) :
    next.statusOf lessonId =
      some (if (last.attendance.getD []).any fun mark => mark.status.charged
        then .completed else .cancelled) := by
  induction parts generalizing db with
  | nil =>
      simp only [List.nil_append, writeParts, bind_ok] at success
      obtain ⟨⟨view, written⟩, written_ok, done⟩ := success
      rw [← Except.ok.inj done]
      exact writeJournal_statusOf written_ok marksOnly
  | cons part rest ih =>
      simp only [List.cons_append, writeParts, bind_ok] at success
      obtain ⟨_, -, others⟩ := success
      exact ih others

/-- A call that gives marks and no status leaves a status its whole register agrees with
exactly when it charges somebody or names everybody the lesson has charged. -/
theorem writeJournal_agrees_iff {dto : WriteJournalDto} {view : JournalView}
    (success : writeJournal platform user lessonId dto db = .ok (view, next))
    (marksOnly : MarksOnly dto) :
    next.StatusAgrees lessonId ↔
      (∃ mark ∈ dto.attendance.getD [], mark.status.charged = true) ∨
        ∀ row ∈ db.attendances.rows, row.lessonId = lessonId → row.status.charged = true →
          ∃ mark ∈ dto.attendance.getD [], mark.studentId = row.studentId := by
  have status := writeJournal_statusOf success marksOnly
  have after := writeJournal_anyCharged success
  by_cases charges : ∃ mark ∈ dto.attendance.getD [], mark.status.charged = true
  · rw [if_pos (List.any_eq_true.mpr charges)] at status
    rw [Db.statusAgrees_completed status, after]
    exact ⟨fun _ => .inl charges, fun _ => .inl charges⟩
  · rw [if_neg fun any => charges (List.any_eq_true.mp any)] at status
    rw [Db.statusAgrees_cancelled status, after]
    constructor
    · intro none
      right
      intro row member ofLesson charged
      by_contra unnamed
      exact none (.inr ⟨row, member, ofLesson, charged,
        fun mark listed same => unnamed ⟨mark, listed, same⟩⟩)
    · rintro (marked | named) (marked' | ⟨row, member, ofLesson, charged, unnamed⟩)
      · exact charges marked
      · exact charges marked
      · exact charges marked'
      · obtain ⟨mark, listed, same⟩ := named row member ofLesson charged
        exact unnamed mark listed same

/-- A register split over calls ends in the status of the undivided one exactly when its
last part charges somebody or no part does. -/
theorem writeParts_status_iff {parts : List WriteJournalDto} {last whole : WriteJournalDto}
    {split joined : Db} {view : JournalView}
    (divided : ((parts ++ [last]).flatMap fun part => part.attendance.getD []).Perm
      (whole.attendance.getD []))
    (lastOnly : MarksOnly last) (wholeOnly : MarksOnly whole)
    (inParts : writeParts platform user lessonId (parts ++ [last]) db = .ok split)
    (atOnce : writeJournal platform user lessonId whole db = .ok (view, joined)) :
    split.statusOf lessonId = joined.statusOf lessonId ↔
      (∃ mark ∈ last.attendance.getD [], mark.status.charged = true) ∨
        ∀ mark ∈ whole.attendance.getD [], mark.status.charged = false := by
  rw [writeParts_statusOf inParts lastOnly, writeJournal_statusOf atOnce wholeOnly]
  have included : ∀ mark ∈ last.attendance.getD [], mark ∈ whole.attendance.getD [] := by
    intro mark member
    apply divided.mem_iff.mp
    exact List.mem_flatMap.mpr ⟨last, List.mem_append_right _ List.mem_cons_self, member⟩
  by_cases charges : ∃ mark ∈ last.attendance.getD [], mark.status.charged = true
  · obtain ⟨mark, member, charged⟩ := charges
    rw [if_pos (List.any_eq_true.mpr ⟨mark, member, charged⟩),
      if_pos (List.any_eq_true.mpr ⟨mark, included mark member, charged⟩)]
    exact ⟨fun _ => .inl ⟨mark, member, charged⟩, fun _ => rfl⟩
  · rw [if_neg fun any => charges (List.any_eq_true.mp any)]
    have none : (∀ mark ∈ whole.attendance.getD [], mark.status.charged = false) ↔
        ¬ (whole.attendance.getD []).any (fun mark => mark.status.charged) = true := by
      simp only [List.any_eq_true, not_exists, not_and, Bool.not_eq_true]
    rw [none]
    split
    · rename_i any
      simp only [any, not_true_eq_false, or_false, Option.some.injEq, reduceCtorEq, charges]
    · rename_i any
      exact ⟨fun _ => .inr any, fun _ => rfl⟩

end GradebookService

/-- When the status derived from a payload agrees with the whole register, and when a split
register ends as the undivided one does. -/
theorem derived_status_iff {platform : Platform} {user : User} {lessonId : Id} {db : Db} :
    (∀ dto view next, GradebookService.writeJournal platform user lessonId dto db = .ok (view, next) →
      GradebookService.MarksOnly dto →
      (next.StatusAgrees lessonId ↔
        (∃ mark ∈ dto.attendance.getD [], mark.status.charged = true) ∨
          ∀ row ∈ db.attendances.rows, row.lessonId = lessonId → row.status.charged = true →
            ∃ mark ∈ dto.attendance.getD [], mark.studentId = row.studentId)) ∧
      ∀ parts last whole split view joined,
        ((parts ++ [last]).flatMap fun part : WriteJournalDto => part.attendance.getD []).Perm
          (whole.attendance.getD []) →
        GradebookService.MarksOnly last → GradebookService.MarksOnly whole →
        GradebookService.writeParts platform user lessonId (parts ++ [last]) db = .ok split →
        GradebookService.writeJournal platform user lessonId whole db = .ok (view, joined) →
        (split.statusOf lessonId = joined.statusOf lessonId ↔
          (∃ mark ∈ last.attendance.getD [], mark.status.charged = true) ∨
            ∀ mark ∈ whole.attendance.getD [], mark.status.charged = false) :=
  ⟨fun _ _ _ success marksOnly => GradebookService.writeJournal_agrees_iff success marksOnly,
    fun _ _ _ _ _ _ divided lastOnly wholeOnly inParts atOnce =>
      GradebookService.writeParts_status_iff divided lastOnly wholeOnly inParts atOnce⟩

/-- Two students of one group, with a lesson booked for it. -/
def pairLesson : World := World.empty.after .plain [
  foxSchool,
  (.quiet "m1", .command "a1" (.createSubject "Maths")),
  (.quiet "g1", .command "a1" (.createGroup ⟨"Pair", "m1", .absent⟩)),
  enrol "a1" "k1" "Kim",
  enrol "a1" "k2" "Lee",
  (.quiet "", .command "a1" (.addMember "g1" "k1")),
  (.quiet "", .command "a1" (.addMember "g1" "k2")),
  (.quiet "l1", .command "a1" (.createLesson
    ⟨.absent, .given "g1", .absent, "2026-03-01T10:00:00.000Z", 60⟩))]

/-- A payload with these marks and nothing else. -/
def taps (marks : List (Id × AttendanceStatus)) : WriteJournalDto where
  topic := .absent
  homework := .absent
  attendance := .given (marks.map fun mark => ⟨mark.1, mark.2, .absent⟩)
  status := .absent

def oneTap : World :=
  pairLesson.after .plain
    [(.quiet "", .command "a1" (.writeJournal "l1" (taps [("k1", .present)])))]

/-- Excusing the second student cancels a lesson the first one was charged for. -/
theorem second_tap_cancels :
    Reachable .plain oneTap ∧ ∃ view next,
      GradebookService.writeJournal .plain foxAdmin "l1" (taps [("k2", .absentExcused)]) oneTap.db =
        .ok (view, next) ∧
      next.statusOf "l1" = some .cancelled ∧ next.markOf ("l1", "k1") = some .present ∧
      ¬ next.StatusAgrees "l1" := by
  refine ⟨(Reachable.after .plain .refl _).after .plain _, ?_⟩
  obtain ⟨⟨view, next⟩, success⟩ : ∃ value, GradebookService.writeJournal .plain foxAdmin "l1"
      (taps [("k2", .absentExcused)]) oneTap.db = .ok value := exists_of_isOk (by decide)
  have status : next.statusOf "l1" = some .cancelled :=
    GradebookService.writeJournal_statusOf success ⟨by decide, rfl⟩
  have kept : next.markOf ("l1", "k1") = oneTap.db.markOf ("l1", "k1") :=
    (GradebookService.writeJournal_markOf success).2 _ (by decide)
  have held : next.markOf ("l1", "k1") = some .present := kept.trans (by decide)
  refine ⟨view, next, success, status, held, ?_⟩
  rw [Db.statusAgrees_cancelled status, not_not]
  obtain ⟨row, member, ofLesson, -, marked⟩ := Db.row_of_mark held
  exact ⟨row, member, ofLesson, by rw [marked]; rfl⟩

/-- The pair's register in one call and in two. -/
theorem derived_status_of_pair :
    let whole := taps [("k1", .present), ("k2", .absentExcused)]
    let first := taps [("k1", .present)]
    let last := taps [("k2", .absentExcused)]
    ∃ split view joined,
      GradebookService.writeJournal .plain foxAdmin "l1" whole pairLesson.db = .ok (view, joined) ∧
        GradebookService.writeParts .plain foxAdmin "l1" ([first] ++ [last]) pairLesson.db =
          .ok split ∧
        (joined.StatusAgrees "l1" ↔
          (∃ mark ∈ whole.attendance.getD [], mark.status.charged = true) ∨
            ∀ row ∈ pairLesson.db.attendances.rows, row.lessonId = "l1" →
              row.status.charged = true →
                ∃ mark ∈ whole.attendance.getD [], mark.studentId = row.studentId) ∧
        (split.statusOf "l1" = joined.statusOf "l1" ↔
          (∃ mark ∈ last.attendance.getD [], mark.status.charged = true) ∨
            ∀ mark ∈ whole.attendance.getD [], mark.status.charged = false) := by
  intro whole first last
  obtain ⟨⟨view, joined⟩, atOnce⟩ : ∃ value,
      GradebookService.writeJournal .plain foxAdmin "l1" whole pairLesson.db = .ok value :=
    exists_of_isOk (by decide)
  obtain ⟨split, inParts⟩ : ∃ value,
      GradebookService.writeParts .plain foxAdmin "l1" ([first] ++ [last]) pairLesson.db =
        .ok value := exists_of_isOk (by decide)
  have wholeOnly : GradebookService.MarksOnly whole := ⟨by decide, rfl⟩
  refine ⟨split, view, joined, atOnce, inParts, ?_, ?_⟩
  · exact derived_status_iff.1 whole view joined atOnce wholeOnly
  · exact derived_status_iff.2 [first] last whole split view joined (.refl _) ⟨by decide, rfl⟩
      wholeOnly inParts atOnce

end TutorApp
