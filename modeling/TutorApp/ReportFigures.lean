import TutorApp.TenantIsolation
import TutorApp.Texts

set_option autoImplicit false

namespace TutorApp

open Relational
open Js (Instant)

/-- Whose lessons a report and a calendar are asked for, when they are asked for the same. -/
inductive SameScope (user : User) : Option Id → Option String → Prop where
  | own (role : user.isAdmin = false) : SameScope user none none
  | school (role : user.isAdmin = true) : SameScope user none none
  | tutor (role : user.isAdmin = true) (id : Id) (named : id ≠ "") (single : ',' ∉ id.toList)
      (bare : Js.trim id = id) : SameScope user (some id) (some id)

/-- A report's lessons counted over the rows of a calendar. -/
structure Report.CountsOf (report : Report) (lessons : List LessonView) : Prop where
  total : report.lessons.total = lessons.length
  scheduled : report.lessons.scheduled = lessons.countP fun row => row.lesson.status == .scheduled
  completed : report.lessons.completed = lessons.countP fun row => row.lesson.status == .completed
  cancelled : report.lessons.cancelled = lessons.countP fun row => row.lesson.status == .cancelled
  minutesTaught : report.minutesTaught =
    ((lessons.filter fun row => row.lesson.status == .completed).map fun row =>
      row.lesson.durationMinutes).sum

section

variable {platform : Platform} {user : User} {draw drawn : Draw} {db : Db}
  {fromDate toDate : String} {start stop : Instant} {tutorId : Option Id} {tutorIds : Option String}

theorem LessonsService.requestedTutors_single {id : Id} (named : id ≠ "") (single : ',' ∉ id.toList)
    (bare : Js.trim id = id) : requestedTutors (some id) = some [id] := by
  have kept : (id != "") = true := bne_iff_ne.mpr named
  simp only [requestedTutors, Option.map_some, Js.split, Js.splitList_single single, List.map_cons,
    List.map_nil, String.ofList_toList, bare, List.filter_cons, kept, ↓reduceIte, List.filter_nil]

/-- The two bounds checks differ in their messages only. -/
theorem windowProblem_alike (start stop : Option Instant) :
    ReportsService.windowProblem start stop = none ↔ LessonsService.windowProblem start stop = none := by
  cases start with
  | none => simp only [ReportsService.windowProblem, LessonsService.windowProblem]
  | some start =>
      cases stop with
      | none => simp only [ReportsService.windowProblem, LessonsService.windowProblem]
      | some stop =>
          simp only [ReportsService.windowProblem, LessonsService.windowProblem,
            ReportsService.maxWindowDays, LessonsService.maxWindowDays]
          by_cases ends : stop ≤ start
          · simp only [ends, ↓reduceIte, reduceCtorEq]
          · by_cases long : 400 * LessonsService.dayMs < stop - start
            · simp only [ends, long, ↓reduceIte, reduceCtorEq]
            · simp only [ends, long, ↓reduceIte]

/-- The tutors a calendar asks for pass its own check, and it reads the rows the report does. -/
theorem SameScope.covers (scope : SameScope user tutorId tutorIds) (refusal : String) :
    ∃ covered, tutorScope user tutorId refusal = .ok covered ∧
      ((LessonsService.requestedTutors tutorIds).all fun ids =>
        ids.length ≤ LessonsService.maxTutorFilters) = true ∧
      ∀ start stop, ReportsService.inScope user.schoolId covered start stop =
        LessonsService.inWindow user (LessonsService.requestedTutors tutorIds) start stop := by
  cases scope with
  | own role =>
      refine ⟨some user.id, by rw [tutorScope, role]; rfl, rfl, fun start stop => ?_⟩
      funext row
      simp only [ReportsService.inScope, LessonsService.inWindow, LessonsService.requestedTutors,
        Option.map_none, role, Bool.false_or, Option.all_some]
      ac_rfl
  | school role =>
      refine ⟨none, by rw [tutorScope, role]; rfl, rfl, fun start stop => ?_⟩
      funext row
      simp only [ReportsService.inScope, LessonsService.inWindow, LessonsService.requestedTutors,
        Option.map_none, role, Bool.true_or, Option.all_none, Bool.and_true]
  | tutor role id named single bare =>
      rw [LessonsService.requestedTutors_single named single bare]
      refine ⟨some id, by rw [tutorScope, role]; rfl, rfl, fun start stop => ?_⟩
      funext row
      simp only [ReportsService.inScope, LessonsService.inWindow, Option.all_some,
        List.contains_cons, List.contains_nil, Bool.or_false]
      ac_rfl

/-- What a report was put together from. -/
theorem ReportsService.summary_ok {query : ReportQueryDto} {report : Report}
    (given : summary platform user draw query db = .ok report) :
    ∃ covered, tutorScope user query.tutorId "Only an admin can report on another tutor" =
        .ok covered ∧
      window platform draw query = .ok (some report.fromDate, some report.toDate) ∧
      let covers := inScope user.schoolId covered report.fromDate report.toDate
      let lessons := db.lessons.select covers
      let completed := lessons.filter fun row => row.status == .completed
      report.lessons.total = lessons.length ∧
      report.lessons.completed = completed.length ∧
      report.lessons.cancelled = (lessons.filter fun row => row.status == .cancelled).length ∧
      report.lessons.scheduled = (lessons.filter fun row => row.status == .scheduled).length ∧
      report.minutesTaught = (completed.map Lesson.durationMinutes).sum ∧
      report.attendance = summariseAttendance ((db.attendances.select fun row =>
        (db.lessons.find row.lessonId).any covers).map LessonAttendance.status) ∧
      report.grades = summariseGrades ((db.grades.select fun row =>
        db.schoolOfGrade row == some user.schoolId && covered.all (fun id => row.authorId == id) &&
          report.fromDate ≤ row.createdAt && row.createdAt < report.toDate).map fun row =>
            ⟨row.kind, row.value, row.weight⟩) ∧
      report.lessons.unwritten = (completed.filter fun lesson =>
        (db.attendances.select fun row => row.lessonId == lesson.id).length == 0).length := by
  simp only [summary, bind_ok, pure_ok] at given
  obtain ⟨⟨fromDate, toDate⟩, bounded, covered, allowed, start, starts, stop, stops, rfl⟩ := given
  obtain rfl := timestampColumn_ok starts
  obtain rfl := timestampColumn_ok stops
  exact ⟨covered, allowed, bounded, rfl, rfl, rfl, rfl, rfl, rfl, rfl, rfl⟩

theorem ReportsService.window_explicit (first : platform.parseDate fromDate = some start)
    (last : platform.parseDate toDate = some stop) :
    window platform draw ⟨some fromDate, some toDate, tutorId⟩ =
      refuse (windowProblem (some start) (some stop)) >>= fun _ => .ok (some start, some stop) := by
  simp only [window, first, last]
  rfl

theorem LessonsService.findInRange_explicit (first : platform.parseDate fromDate = some start)
    (last : platform.parseDate toDate = some stop)
    (few : ((requestedTutors tutorIds).all fun ids => ids.length ≤ maxTutorFilters) = true) :
    findInRange platform user drawn ⟨some fromDate, some toDate, tutorIds⟩ db = (do
      refuse (windowProblem (some start) (some stop))
      let start ← timestampColumn (some start)
      let stop ← timestampColumn (some stop)
      return listed platform (inWindow user (requestedTutors tutorIds) start stop) db) := by
  simp only [findInRange, first, last, few, require, ↓reduceIte, ok_bind]

/-- The same window and scope are accepted or refused alike. -/
theorem report_accepted_iff (first : platform.parseDate fromDate = some start)
    (last : platform.parseDate toDate = some stop) (scope : SameScope user tutorId tutorIds) :
    (ReportsService.summary platform user draw ⟨some fromDate, some toDate, tutorId⟩ db).isOk =
      (LessonsService.findInRange platform user drawn ⟨some fromDate, some toDate, tutorIds⟩ db).isOk := by
  obtain ⟨covered, allowed, few, -⟩ := scope.covers "Only an admin can report on another tutor"
  rw [LessonsService.findInRange_explicit first last few, ReportsService.summary,
    ReportsService.window_explicit first last, allowed]
  have alike := windowProblem_alike (some start) (some stop)
  cases asked : ReportsService.windowProblem (some start) (some stop) with
  | some reason =>
      cases shown : LessonsService.windowProblem (some start) (some stop) with
      | some other => rfl
      | none => cases asked.symm.trans (alike.mpr shown)
  | none =>
      rw [alike.mp asked]
      simp only [refuse, ok_bind]
      cases timestampColumn (some start) with
      | error reason => rfl
      | ok start => cases timestampColumn (some stop) <;> rfl

/-- A calendar's rows are the lessons it selects, in the order of their start. -/
theorem LessonsService.listed_perm (platform : Platform) (keep : Lesson → Bool) (db : Db) :
    ((listed platform keep db).map LessonView.lesson).Perm (db.lessons.select keep) := by
  have rows : (listed platform keep db).map LessonView.lesson =
      sortByTime Lesson.startsAt (db.lessons.select keep) := by
    rw [listed, List.map_map]
    exact List.map_id _
  rw [rows]
  exact List.perm_insertionSort _ _

/-- The report and the calendar count the same lessons: a window is taken by both or by neither,
and what the report counts are the rows the calendar shows. -/
theorem report_counts_calendar (first : platform.parseDate fromDate = some start)
    (last : platform.parseDate toDate = some stop) (scope : SameScope user tutorId tutorIds) :
    (ReportsService.summary platform user draw ⟨some fromDate, some toDate, tutorId⟩ db).isOk =
        (LessonsService.findInRange platform user drawn ⟨some fromDate, some toDate, tutorIds⟩ db).isOk ∧
      ∀ report lessons,
        ReportsService.summary platform user draw ⟨some fromDate, some toDate, tutorId⟩ db =
          .ok report →
        LessonsService.findInRange platform user drawn ⟨some fromDate, some toDate, tutorIds⟩ db =
          .ok lessons →
        report.CountsOf lessons := by
  refine ⟨report_accepted_iff first last scope, fun report lessons given shown => ?_⟩
  obtain ⟨covered, allowed, few, same⟩ := scope.covers "Only an admin can report on another tutor"
  rw [LessonsService.findInRange_explicit first last few] at shown
  simp only [bind_ok, pure_ok] at shown
  obtain ⟨-, -, _, starts, _, stops, rfl⟩ := shown
  obtain rfl := Option.some.inj (timestampColumn_ok starts)
  obtain rfl := Option.some.inj (timestampColumn_ok stops)
  obtain ⟨asked, allowed', bounded, total, completed, cancelled, scheduled, minutes, -, -⟩ :=
    ReportsService.summary_ok given
  obtain rfl := Except.ok.inj (allowed.symm.trans allowed')
  rw [ReportsService.window_explicit first last] at bounded
  simp only [bind_ok, Except.ok.injEq, Prod.mk.injEq, Option.some.injEq] at bounded
  obtain ⟨-, -, opens, closes⟩ := bounded
  rw [← opens, ← closes, same] at total completed cancelled scheduled minutes
  have rows := LessonsService.listed_perm platform
    (LessonsService.inWindow user (LessonsService.requestedTutors tutorIds) start stop) db
  have counted : ∀ status, ((db.lessons.select (LessonsService.inWindow user
      (LessonsService.requestedTutors tutorIds) start stop)).filter fun row =>
        row.status == status).length =
      (LessonsService.listed platform (LessonsService.inWindow user
        (LessonsService.requestedTutors tutorIds) start stop) db).countP fun row =>
          row.lesson.status == status := by
    intro status
    rw [← List.countP_eq_length_filter, ← rows.countP_eq, List.countP_map]
    rfl
  constructor
  · rw [total, ← rows.length_eq, List.length_map]
  · rw [scheduled, counted]
  · rw [completed, counted]
  · rw [cancelled, counted]
  · rw [minutes, ← (rows.filter _).map _ |>.sum_eq, List.filter_map, List.map_map]
    rfl

end

/-- The students of a school. -/
def Db.studentsOf (db : Db) (schoolId : Id) : List Student :=
  db.students.select fun row => row.schoolId == schoolId

/-- A report's window reaches every lesson of a school that has a register, and every mark. -/
structure Report.Spans (report : Report) (db : Db) (schoolId : Id) : Prop where
  registers : ∀ row ∈ db.attendances.rows, ∀ lesson, db.lessons.find row.lessonId = some lesson →
    lesson.schoolId = schoolId →
    report.fromDate ≤ lesson.startsAt ∧ lesson.startsAt < report.toDate
  grades : ∀ row ∈ db.grades.rows, db.schoolOfGrade row = some schoolId →
    report.fromDate ≤ row.createdAt ∧ row.createdAt < report.toDate

/-- Every counter of a report is the sum of the counter over progress cards. -/
structure Report.AddsUp (report : Report) (cards : List ProgressSummary) : Prop where
  present : report.attendance.present = (cards.map fun card => card.attendance.present).sum
  late : report.attendance.late = (cards.map fun card => card.attendance.late).sum
  absentExcused : report.attendance.absentExcused =
    (cards.map fun card => card.attendance.absentExcused).sum
  absentUnexcused : report.attendance.absentUnexcused =
    (cards.map fun card => card.attendance.absentUnexcused).sum
  marked : report.attendance.marked = (cards.map fun card => card.attendance.marked).sum
  grades : report.grades.count = (cards.map fun card => card.grades.count).sum
  classic : averagedOver report.grades.classic =
    (cards.map fun card => averagedOver card.grades.classic).sum
  percentage : averagedOver report.grades.percentage =
    (cards.map fun card => averagedOver card.grades.percentage).sum
  descriptive : report.grades.descriptiveCount =
    (cards.map fun card => card.grades.descriptiveCount).sum

section

variable {db : Db} {schoolId : Id}

theorem Db.mem_studentsOf {id : Id} :
    id ∈ (db.studentsOf schoolId).map Student.id ↔ db.schoolOfStudent id = some schoolId := by
  simp only [studentsOf, List.mem_map, Table.mem_select, beq_iff_eq, schoolOfStudent,
    Option.map_eq_some_iff, Table.find_eq_some]
  constructor
  · rintro ⟨row, ⟨member, school⟩, rfl⟩
    exact ⟨row, ⟨member, rfl⟩, school⟩
  · rintro ⟨row, ⟨member, rfl⟩, school⟩
    exact ⟨row, ⟨member, school⟩, rfl⟩

theorem Db.studentsOf_nodup (db : Db) (schoolId : Id) :
    ((db.studentsOf schoolId).map Student.id).Nodup :=
  db.students.unique.sublist (List.filter_sublist.map _)

/-- A register row counts for a school through its lesson as it does through its student. -/
theorem Report.Spans.register {report : Report} (spans : report.Spans db schoolId)
    (tenanted : db.Tenanted) {row : LessonAttendance} (member : row ∈ db.attendances.rows) :
    (db.lessons.find row.lessonId).any
        (ReportsService.inScope schoolId none report.fromDate report.toDate) = true ↔
      row.studentId ∈ (db.studentsOf schoolId).map Student.id := by
  obtain ⟨school, belongs⟩ := tenanted (.attendance row) member
  obtain ⟨ofLesson, ofStudent⟩ := Db.belongs_attendance.mp belongs
  obtain ⟨lesson, found, home⟩ := Option.map_eq_some_iff.mp ofLesson
  rw [Db.mem_studentsOf, show db.schoolOfStudent row.studentId = some school from ofStudent, found,
    Option.any_some, Option.some.injEq]
  simp only [ReportsService.inScope, Option.all_none, Bool.and_true, Bool.and_eq_true, beq_iff_eq,
    decide_eq_true_eq]
  constructor
  · rintro ⟨⟨same, -⟩, -⟩
    exact home.symm.trans same
  · intro same
    have inside := spans.registers row member lesson found (home.trans same)
    exact ⟨⟨home.trans same, inside.1⟩, inside.2⟩

theorem Report.Spans.grade {report : Report} (spans : report.Spans db schoolId) {row : Grade}
    (member : row ∈ db.grades.rows) :
    (db.schoolOfGrade row == some schoolId && (none : Option Id).all (fun id => row.authorId == id) &&
        report.fromDate ≤ row.createdAt && row.createdAt < report.toDate) = true ↔
      row.studentId ∈ (db.studentsOf schoolId).map Student.id := by
  rw [Db.mem_studentsOf, ← show db.schoolOfGrade row = db.schoolOfStudent row.studentId from rfl]
  simp only [Option.all_none, Bool.and_true, Bool.and_eq_true, beq_iff_eq, decide_eq_true_eq]
  constructor
  · rintro ⟨⟨same, -⟩, -⟩
    exact same
  · intro same
    have inside := spans.grades row member same
    exact ⟨⟨same, inside.1⟩, inside.2⟩

/-- The card of a student of the school. -/
def Db.progressCard (db : Db) (studentId : Id) : ProgressSummary :=
  summariseProgress
    ((db.lessons.select fun row =>
      row.studentId == some studentId || row.groupId.any fun group => db.isMember group studentId).map
        Lesson.status)
    ((db.grades.select fun row => row.studentId == studentId).map fun row =>
      ⟨row.kind, row.value, row.weight⟩)
    ((db.attendances.select fun row => row.studentId == studentId).map LessonAttendance.status)

theorem GradebookService.progressForStudent_admin {user : User} {student : Student}
    (admin : user.isAdmin = true) (member : student ∈ db.studentsOf user.schoolId) :
    progressForStudent user student.id db = .ok (db.progressCard student.id) := by
  obtain ⟨present, school⟩ := Table.mem_select.mp member
  have owned : user.owns student.schoolId student.tutorId = true := by
    rw [User.owns, school, admin, Bool.true_or, Bool.and_true]
  have found : StudentsService.findOne user student.id db = .ok student :=
    (StudentsService.findOne_ok user).mpr ⟨Table.find_key present, owned⟩
  rw [progressForStudent, found, ok_bind]
  rfl

/-- The school report is the sum of the progress cards: in a window that leaves nothing out, every
counter of an admin's report adds up the cards of the school's students. -/
theorem report_adds_up_cards {platform : Platform} {world : World} {user : User} {draw : Draw}
    {fromDate toDate : Option String} {report : Report} (reachable : Reachable platform world)
    (admin : user.isAdmin = true)
    (given : ReportsService.summary platform user draw ⟨fromDate, toDate, none⟩ world.db = .ok report)
    (spans : report.Spans world.db user.schoolId) :
    ∃ cards, List.Forall₂ (fun student card =>
        GradebookService.progressForStudent user student.id world.db = .ok card)
        (world.db.studentsOf user.schoolId) cards ∧ report.AddsUp cards := by
  obtain ⟨covered, allowed, -, -, -, -, -, -, attendance, grades, -⟩ := ReportsService.summary_ok given
  obtain rfl : none = covered := by
    rw [tutorScope, if_pos admin] at allowed
    exact Except.ok.inj allowed
  have once := world.db.studentsOf_nodup user.schoolId
  have registers : (world.db.attendances.select _).Perm
      (((world.db.studentsOf user.schoolId).map Student.id).flatMap fun id =>
        world.db.attendances.select fun row => row.studentId == id) :=
    Table.select_perm_flatMap once fun row member => spans.register reachable.tenanted member
  have marks : (world.db.grades.select _).Perm
      (((world.db.studentsOf user.schoolId).map Student.id).flatMap fun id =>
        world.db.grades.select fun row => row.studentId == id) :=
    Table.select_perm_flatMap once fun row member => spans.grade member
  have statuses := registers.map LessonAttendance.status
  have values := marks.map fun row => (⟨row.kind, row.value, row.weight⟩ : GradeLike)
  rw [List.map_flatMap, List.flatMap_map] at statuses values
  rw [summariseAttendance_perm statuses] at attendance
  have counted : ∀ keep : AttendanceStatus → Bool,
      (((world.db.studentsOf user.schoolId).flatMap fun student =>
        (world.db.attendances.select fun row => row.studentId == student.id).map
          LessonAttendance.status).filter keep).length = _ :=
    fun keep => length_filter_flatMap _ _ keep
  refine ⟨(world.db.studentsOf user.schoolId).map fun student => world.db.progressCard student.id, ?_, ?_⟩
  · rw [List.forall₂_map_right_iff, List.forall₂_same]
    exact fun student member => GradebookService.progressForStudent_admin admin member
  · constructor <;> rw [List.map_map]
    case present =>
      rw [attendance]
      exact counted fun entry => entry == .present
    case late =>
      rw [attendance]
      exact counted fun entry => entry == .late
    case absentExcused =>
      rw [attendance]
      exact counted fun entry => entry == .absentExcused
    case absentUnexcused =>
      rw [attendance]
      exact counted fun entry => entry == .absentUnexcused
    case marked =>
      rw [attendance]
      exact marked_flatMap _ _
    case grades =>
      rw [grades]
      exact values.length_eq.trans List.length_flatMap
    case classic =>
      rw [grades]
      exact (averagedOver_perm values _).trans (averagedOver_flatMap _ _ _)
    case percentage =>
      rw [grades]
      exact (averagedOver_perm values _).trans (averagedOver_flatMap _ _ _)
    case descriptive =>
      rw [grades]
      exact (values.filter _).length_eq.trans (length_filter_flatMap _ _ _)

end

/-- Reads the two ends of a day and an instant in it. -/
def Platform.oneDay : Platform :=
  { Platform.plain with
    parseDate := fun text =>
      if text == "2026-03-01" then some 1772323200000
      else if text == "2026-03-02" then some 1772409600000
      else Platform.plain.parseDate text }

/-- Two students, a lesson written up for one of them and a mark for the other. -/
def taughtDay : World := World.empty.after .oneDay [
  foxSchool,
  (.quiet "m1", .command "a1" (.createSubject "Maths")),
  enrol "a1" "k1" "Kim",
  enrol "a1" "k2" "Lee",
  (.quiet "l1", .command "a1" (.createLesson
    ⟨.given "k1", .absent, .given "m1", "2026-03-01T10:00:00.000Z", 60⟩)),
  (.quiet "", .command "a1" (.writeJournal "l1"
    ⟨.absent, .absent, .given [⟨"k1", .late, .absent⟩], .absent⟩)),
  (.quiet "g1", .command "a1" (.addGradeForStudent "k2"
    ⟨.absent, .classic, some 5, .absent, none, .absent⟩))]

/-- The day's report against the admin's own calendar of the day. -/
theorem day_counts_alike :
    ∃ report lessons,
      ReportsService.summary .oneDay foxAdmin (Outside.quiet "").draw
        ⟨some "2026-03-01", some "2026-03-02", some "a1"⟩ taughtDay.db = .ok report ∧
      LessonsService.findInRange .oneDay foxAdmin (Outside.quiet "").draw
        ⟨some "2026-03-01", some "2026-03-02", some "a1"⟩ taughtDay.db = .ok lessons ∧
      report.CountsOf lessons ∧ lessons.length = 1 := by
  have counts := @report_counts_calendar .oneDay foxAdmin (Outside.quiet "").draw
    (Outside.quiet "").draw taughtDay.db "2026-03-01" "2026-03-02" 1772323200000 1772409600000
    _ _ (by decide) (by decide) (.tutor rfl "a1" (by decide) (by decide) (by decide))
  obtain ⟨lessons, shown⟩ : ∃ lessons, LessonsService.findInRange .oneDay foxAdmin
      (Outside.quiet "").draw ⟨some "2026-03-01", some "2026-03-02", some "a1"⟩ taughtDay.db =
        .ok lessons := exists_of_isOk (by decide)
  have accepted := counts.1
  rw [shown] at accepted
  obtain ⟨report, given⟩ := exists_of_isOk accepted
  have one : (LessonsService.findInRange .oneDay foxAdmin (Outside.quiet "").draw
      ⟨some "2026-03-01", some "2026-03-02", some "a1"⟩ taughtDay.db).map List.length = .ok 1 := by
    decide
  rw [shown] at one
  exact ⟨report, lessons, given, shown, counts.2 report lessons given shown, Except.ok.inj one⟩

/-- The day's report against the cards of the two students. -/
theorem day_adds_up_cards :
    ∃ report cards,
      ReportsService.summary .oneDay foxAdmin (Outside.quiet "").draw
        ⟨some "2026-03-01", some "2026-03-02", none⟩ taughtDay.db = .ok report ∧
      List.Forall₂ (fun student card =>
        GradebookService.progressForStudent foxAdmin student.id taughtDay.db = .ok card)
        (taughtDay.db.studentsOf "s1") cards ∧
      report.AddsUp cards := by
  have accepted : (ReportsService.summary .oneDay foxAdmin (Outside.quiet "").draw
      ⟨some "2026-03-01", some "2026-03-02", none⟩ taughtDay.db).map (fun report =>
        (report.fromDate, report.toDate)) = .ok (1772323200000, 1772409600000) := by decide +kernel
  obtain ⟨report, given, accepted⟩ := map_ok.mp accepted
  rw [Prod.mk.injEq] at accepted
  have spans : report.Spans taughtDay.db "s1" := by
    constructor <;> rw [accepted.1, accepted.2]
    · have lessons : ∀ lesson ∈ taughtDay.db.lessons.rows,
          1772323200000 ≤ lesson.startsAt ∧ lesson.startsAt < 1772409600000 := by decide
      intro row _ lesson found _
      exact lessons lesson (Table.find_eq_some.mp found).1
    · have marks : ∀ row ∈ taughtDay.db.grades.rows,
          1772323200000 ≤ row.createdAt ∧ row.createdAt < 1772409600000 := by decide +kernel
      exact fun row member _ => marks row member
  obtain ⟨cards, each, sum⟩ := report_adds_up_cards (.after .oneDay .refl _) rfl given spans
  exact ⟨report, cards, given, each, sum⟩

end TutorApp
