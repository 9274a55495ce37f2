import TutorApp.ReportFigures

set_option autoImplicit false

namespace TutorApp

open Relational
open Js (Instant)

/-- What meets a condition meets exactly one of two others. -/
structure Halves {α : Type} (keep left right : α → Bool) : Prop where
  either : ∀ row, keep row = (left row || right row)
  apart : ∀ row, left row = true → right row = false

namespace Halves

variable {α β : Type} {keep left right : α → Bool}

theorem filter (halves : Halves keep left right) (rows : List α) :
    (rows.filter keep).Perm (rows.filter left ++ rows.filter right) := by
  have kept := List.filter_append_perm left (rows.filter keep)
  have lefts : (rows.filter keep).filter left = rows.filter left := by
    rw [List.filter_filter]
    refine List.filter_congr fun row _ => ?_
    rw [halves.either]
    cases left row <;> simp
  have rights : ((rows.filter keep).filter fun row => !left row) = rows.filter right := by
    rw [List.filter_filter]
    refine List.filter_congr fun row _ => ?_
    rw [halves.either]
    cases first : left row with
    | true => simp [halves.apart row first]
    | false => simp
  rw [lefts, rights] at kept
  exact kept.symm

/-- The condition on what a row refers to. -/
theorem through (halves : Halves keep left right) (refer : β → Option α) :
    Halves (fun row => (refer row).any keep) (fun row => (refer row).any left)
      (fun row => (refer row).any right) where
  either row := by
    cases refer row with
    | none => rfl
    | some referred => exact halves.either referred
  apart row first := by
    cases refers : refer row with
    | none => rfl
    | some referred =>
        rw [refers] at first
        exact halves.apart referred first

/-- A window cut in two. -/
theorem window {start middle stop : Instant} (opens : start ≤ middle) (closes : middle ≤ stop)
    (more : α → Bool) (time : α → Instant) :
    Halves (fun row => more row && start ≤ time row && time row < stop)
      (fun row => more row && start ≤ time row && time row < middle)
      (fun row => more row && middle ≤ time row && time row < stop) where
  either row := by
    rw [Bool.eq_iff_iff]
    simp only [Bool.and_eq_true, Bool.or_eq_true, decide_eq_true_eq]
    constructor
    · rintro ⟨⟨others, after⟩, before⟩
      rcases lt_or_ge (time row) middle with early | late
      · exact .inl ⟨⟨others, after⟩, early⟩
      · exact .inr ⟨⟨others, late⟩, before⟩
    · rintro (⟨⟨others, after⟩, before⟩ | ⟨⟨others, after⟩, before⟩)
      · exact ⟨⟨others, after⟩, before.trans_le closes⟩
      · exact ⟨⟨others, opens.trans after⟩, before⟩
  apart row first := by
    simp only [Bool.and_eq_true, decide_eq_true_eq] at first
    rw [decide_eq_false (not_le.mpr first.2), Bool.and_false, Bool.false_and]

end Halves

section

variable (left right : List GradeLike)

theorem averagedOver_append (keep : GradeLike → Bool) :
    averagedOver (averageOf ((left ++ right).filter keep)) =
      averagedOver (averageOf (left.filter keep)) + averagedOver (averageOf (right.filter keep)) := by
  rw [averagedOver_averageOf, averagedOver_averageOf, averagedOver_averageOf, List.filter_append,
    List.countP_append]

theorem length_filter_append {α : Type} (first second : List α) (keep : α → Bool) :
    ((first ++ second).filter keep).length =
      (first.filter keep).length + (second.filter keep).length := by
  rw [List.filter_append, List.length_append]

end

/-- The additive figures of a report are those of two others together. -/
structure Report.Joins (whole left right : Report) : Prop where
  total : whole.lessons.total = left.lessons.total + right.lessons.total
  completed : whole.lessons.completed = left.lessons.completed + right.lessons.completed
  cancelled : whole.lessons.cancelled = left.lessons.cancelled + right.lessons.cancelled
  scheduled : whole.lessons.scheduled = left.lessons.scheduled + right.lessons.scheduled
  unwritten : whole.lessons.unwritten = left.lessons.unwritten + right.lessons.unwritten
  minutesTaught : whole.minutesTaught = left.minutesTaught + right.minutesTaught
  present : whole.attendance.present = left.attendance.present + right.attendance.present
  late : whole.attendance.late = left.attendance.late + right.attendance.late
  absentExcused : whole.attendance.absentExcused =
    left.attendance.absentExcused + right.attendance.absentExcused
  absentUnexcused : whole.attendance.absentUnexcused =
    left.attendance.absentUnexcused + right.attendance.absentUnexcused
  marked : whole.attendance.marked = left.attendance.marked + right.attendance.marked
  grades : whole.grades.count = left.grades.count + right.grades.count
  classic : averagedOver whole.grades.classic =
    averagedOver left.grades.classic + averagedOver right.grades.classic
  percentage : averagedOver whole.grades.percentage =
    averagedOver left.grades.percentage + averagedOver right.grades.percentage
  descriptive : whole.grades.descriptiveCount =
    left.grades.descriptiveCount + right.grades.descriptiveCount

namespace ReportsService

/-- The marks a report covers. -/
def gradeInScope (db : Db) (schoolId : Id) (tutorId : Option Id) (start stop : Instant)
    (row : Grade) : Bool :=
  db.schoolOfGrade row == some schoolId && tutorId.all (fun id => row.authorId == id) &&
    start ≤ row.createdAt && row.createdAt < stop

section

variable {start middle stop : Instant} (opens : start ≤ middle) (closes : middle ≤ stop)
  (schoolId : Id) (tutorId : Option Id)

include opens closes

theorem inScope_halves : Halves (inScope schoolId tutorId start stop)
    (inScope schoolId tutorId start middle) (inScope schoolId tutorId middle stop) :=
  Halves.window opens closes (fun row : Lesson => row.schoolId == schoolId &&
    tutorId.all fun id => row.tutorId == id) Lesson.startsAt

theorem gradeInScope_halves (db : Db) : Halves (gradeInScope db schoolId tutorId start stop)
    (gradeInScope db schoolId tutorId start middle)
    (gradeInScope db schoolId tutorId middle stop) :=
  Halves.window opens closes (fun row : Grade => db.schoolOfGrade row == some schoolId &&
    tutorId.all fun id => row.authorId == id) Grade.createdAt

end

end ReportsService

/-- The additive figures of a report, by the rows they are counted over. -/
structure Report.Over (report : Report) (unmarked : Lesson → Bool) (lessons : List Lesson)
    (marks : List AttendanceStatus) (grades : List GradeLike) : Prop where
  total : report.lessons.total = lessons.length
  completed : report.lessons.completed =
    (lessons.filter fun row => row.status == .completed).length
  cancelled : report.lessons.cancelled =
    (lessons.filter fun row => row.status == .cancelled).length
  scheduled : report.lessons.scheduled =
    (lessons.filter fun row => row.status == .scheduled).length
  unwritten : report.lessons.unwritten =
    ((lessons.filter fun row => row.status == .completed).filter unmarked).length
  minutesTaught : report.minutesTaught =
    ((lessons.filter fun row => row.status == .completed).map Lesson.durationMinutes).sum
  attendance : report.attendance = summariseAttendance marks
  grades : report.grades = summariseGrades grades

theorem Report.Over.joins {whole left right : Report} {unmarked : Lesson → Bool}
    {lessons lessons₁ lessons₂ : List Lesson} {marks marks₁ marks₂ : List AttendanceStatus}
    {grades grades₁ grades₂ : List GradeLike} (spans : whole.Over unmarked lessons marks grades)
    (first : left.Over unmarked lessons₁ marks₁ grades₁)
    (second : right.Over unmarked lessons₂ marks₂ grades₂)
    (taught : lessons.Perm (lessons₁ ++ lessons₂)) (marked : marks.Perm (marks₁ ++ marks₂))
    (graded : grades.Perm (grades₁ ++ grades₂)) : whole.Joins left right := by
  have counted : ∀ status, (marks.filter fun entry => entry == status).length =
      (marks₁.filter fun entry => entry == status).length +
        (marks₂.filter fun entry => entry == status).length :=
    fun status => (marked.filter _).length_eq.trans (length_filter_append _ _ _)
  have statuses : ∀ status, (lessons.filter fun row => row.status == status).length =
      (lessons₁.filter fun row => row.status == status).length +
        (lessons₂.filter fun row => row.status == status).length :=
    fun status => (taught.filter _).length_eq.trans (length_filter_append _ _ _)
  constructor
  case total => rw [spans.total, first.total, second.total, taught.length_eq, List.length_append]
  case completed => rw [spans.completed, first.completed, second.completed, statuses]
  case cancelled => rw [spans.cancelled, first.cancelled, second.cancelled, statuses]
  case scheduled => rw [spans.scheduled, first.scheduled, second.scheduled, statuses]
  case unwritten =>
    rw [spans.unwritten, first.unwritten, second.unwritten, ((taught.filter _).filter _).length_eq,
      List.filter_append, length_filter_append]
  case minutesTaught =>
    rw [spans.minutesTaught, first.minutesTaught, second.minutesTaught,
      ((taught.filter _).map _).sum_eq, List.filter_append, List.map_append, List.sum_append]
  case present => rw [spans.attendance, first.attendance, second.attendance]; exact counted .present
  case late => rw [spans.attendance, first.attendance, second.attendance]; exact counted .late
  case absentExcused =>
    rw [spans.attendance, first.attendance, second.attendance]
    exact counted .absentExcused
  case absentUnexcused =>
    rw [spans.attendance, first.attendance, second.attendance]
    exact counted .absentUnexcused
  case marked =>
    rw [spans.attendance, first.attendance, second.attendance]
    simp only [summariseAttendance, counted]
    ac_rfl
  case grades =>
    rw [spans.grades, first.grades, second.grades]
    exact graded.length_eq.trans List.length_append
  case classic =>
    rw [spans.grades, first.grades, second.grades]
    exact (averagedOver_perm graded _).trans (averagedOver_append _ _ _)
  case percentage =>
    rw [spans.grades, first.grades, second.grades]
    exact (averagedOver_perm graded _).trans (averagedOver_append _ _ _)
  case descriptive =>
    rw [spans.grades, first.grades, second.grades]
    exact (graded.filter _).length_eq.trans (length_filter_append _ _ _)

section

variable {platform : Platform} {user : User} {db : Db}

theorem ReportsService.summary_ordered {draw : Draw} {query : ReportQueryDto} {report : Report}
    (given : summary platform user draw query db = .ok report) : report.fromDate < report.toDate := by
  obtain ⟨-, -, bounded, -⟩ := summary_ok given
  simp only [window, bind_ok, pure_ok, refuse_ok, Prod.mk.injEq] at bounded
  obtain ⟨_, accepted, starts, stops⟩ := bounded
  rw [starts, stops] at accepted
  by_contra backwards
  rw [windowProblem, if_pos (not_lt.mp backwards)] at accepted
  cases accepted

/-- The rows of a scope between the report's two ends, and no others, are what it counts. -/
def Report.Reads (report : Report) (db : Db) (schoolId : Id) (tutorId : Option Id) : Prop :=
  report.Over (fun lesson =>
      (db.attendances.select fun row => row.lessonId == lesson.id).length == 0)
    (db.lessons.select (ReportsService.inScope schoolId tutorId report.fromDate report.toDate))
    ((db.attendances.select fun row => (db.lessons.find row.lessonId).any
      (ReportsService.inScope schoolId tutorId report.fromDate report.toDate)).map
        LessonAttendance.status)
    ((db.grades.select (ReportsService.gradeInScope db schoolId tutorId report.fromDate
      report.toDate)).map fun row => ⟨row.kind, row.value, row.weight⟩)

theorem ReportsService.summary_reads {draw : Draw} {query : ReportQueryDto} {report : Report}
    (given : summary platform user draw query db = .ok report) :
    ∃ covered, tutorScope user query.tutorId "Only an admin can report on another tutor" =
        .ok covered ∧
      report.Reads db user.schoolId covered := by
  obtain ⟨covered, allowed, -, total, completed, cancelled, scheduled, minutes, attendance, grades,
    unwritten⟩ := summary_ok given
  exact ⟨covered, allowed, total, completed, cancelled, scheduled, unwritten, minutes, attendance, grades⟩

/-- A report over a window has the figures of the reports over its two parts together. -/
theorem reports_join {wholeDraw leftDraw rightDraw : Draw} {wholeQuery leftQuery rightQuery : ReportQueryDto}
    {whole left right : Report}
    (spans : ReportsService.summary platform user wholeDraw wholeQuery db = .ok whole)
    (first : ReportsService.summary platform user leftDraw leftQuery db = .ok left)
    (second : ReportsService.summary platform user rightDraw rightQuery db = .ok right)
    (scopes : leftQuery.tutorId = wholeQuery.tutorId ∧ rightQuery.tutorId = wholeQuery.tutorId)
    (starts : left.fromDate = whole.fromDate) (meets : left.toDate = right.fromDate)
    (stops : right.toDate = whole.toDate) : whole.Joins left right := by
  have opens := (ReportsService.summary_ordered first).le
  have closes := (ReportsService.summary_ordered second).le
  obtain ⟨covered, allowed, rows⟩ := ReportsService.summary_reads spans
  obtain ⟨covered₁, allowed₁, rows₁⟩ := ReportsService.summary_reads first
  obtain ⟨covered₂, allowed₂, rows₂⟩ := ReportsService.summary_reads second
  rw [scopes.1, allowed, Except.ok.injEq] at allowed₁
  rw [scopes.2, allowed, Except.ok.injEq] at allowed₂
  subst allowed₁ allowed₂
  rw [Report.Reads, starts, meets] at rows₁
  rw [Report.Reads, stops] at rows₂
  rw [starts, meets] at opens
  rw [stops] at closes
  have lessons := ReportsService.inScope_halves opens closes user.schoolId covered
  have grades := ReportsService.gradeInScope_halves opens closes user.schoolId covered db
  refine rows.joins rows₁ rows₂ (lessons.filter _) ?_ ?_
  · rw [← List.map_append]
    exact ((lessons.through _).filter _).map _
  · rw [← List.map_append]
    exact (grades.filter _).map _

end

def daySlice (fromDate toDate : String) : Service Report :=
  ReportsService.summary .oneDay foxAdmin (Outside.quiet "").draw
    ⟨some fromDate, some toDate, none⟩ taughtDay.db

/-- The day cut at the start of its lesson, which the later part counts. -/
theorem day_joins : ∃ whole left right,
    daySlice "2026-03-01" "2026-03-02" = .ok whole ∧
    daySlice "2026-03-01" "2026-03-01T10:00:00.000Z" = .ok left ∧
    daySlice "2026-03-01T10:00:00.000Z" "2026-03-02" = .ok right ∧
    whole.Joins left right ∧ left.lessons.total = 0 ∧ right.lessons.total = 1 := by
  have figures : ∀ fromDate toDate start stop total,
      (daySlice fromDate toDate).map (fun report =>
        (report.fromDate, report.toDate, report.lessons.total)) = .ok (start, stop, total) →
      ∃ report, daySlice fromDate toDate = .ok report ∧ report.fromDate = start ∧
        report.toDate = stop ∧ report.lessons.total = total := by
    intro fromDate toDate start stop total same
    obtain ⟨report, given, same⟩ := map_ok.mp same
    rw [Prod.mk.injEq, Prod.mk.injEq] at same
    exact ⟨report, given, same⟩
  obtain ⟨whole, spans, starts, stops, -⟩ := figures "2026-03-01" "2026-03-02"
    1772323200000 1772409600000 1 (by decide +kernel)
  obtain ⟨left, first, opens, meets, none⟩ := figures "2026-03-01" "2026-03-01T10:00:00.000Z"
    1772323200000 1772359200000 0 (by decide +kernel)
  obtain ⟨right, second, meets', closes, one⟩ := figures "2026-03-01T10:00:00.000Z" "2026-03-02"
    1772359200000 1772409600000 1 (by decide +kernel)
  exact ⟨whole, left, right, spans, first, second, reports_join spans first second ⟨rfl, rfl⟩
    (opens.trans starts.symm) (meets.trans meets'.symm) (closes.trans stops.symm), none, one⟩

end TutorApp
