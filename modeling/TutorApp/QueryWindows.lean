import TutorApp.AdjacentWindows

set_option autoImplicit false

namespace TutorApp

open Relational
open Js (Instant)

/-- An ISO week date, such as the validation of a query lets through: a year, its week and the
day of the week. -/
def isWeekDate (text : String) : Bool :=
  match text.toList with
  | [y, e, a, r, '-', 'W', ten, one, '-', day] =>
      [y, e, a, r, ten, one].all Char.isDigit && decide ("01" ≤ String.ofList [ten, one]) &&
        decide (String.ofList [ten, one] ≤ "53") && '1' ≤ day && day ≤ '7'
  | _ => false

example : isWeekDate "2026-W54-1" = false := by decide +kernel

/-- The first instant a timestamp column takes, the start of the year one. -/
def firstInstant : Instant := -62135596800000

/-- A window no service has to read beyond. -/
structure Bounded (days : Int) (start stop : Instant) : Prop where
  ordered : start < stop
  short : stop - start ≤ days * LessonsService.dayMs

/-- What a window from `start` to `stop` needs to be answered: to be refused for what is wrong
with it, or to start at a time the column takes. -/
def Answerable (days : Int) (start stop : Instant) : Prop :=
  stop ≤ start ∨ days * LessonsService.dayMs < stop - start ∨ firstInstant ≤ start

theorem Bounded.not_answerable {days : Int} {start stop : Instant} (bounded : Bounded days start stop)
    (early : start < firstInstant) : ¬ Answerable days start stop := by
  rintro (backwards | long | taken)
  · exact absurd bounded.ordered (not_lt.mpr backwards)
  · exact absurd bounded.short (not_le.mpr long)
  · exact absurd early (not_lt.mpr taken)

theorem timestampColumn_some {instant : Instant} :
    timestampColumn (some instant) =
      if firstInstant ≤ instant then .ok instant else .error .internal := rfl

theorem timestampColumn_cases (date : Option Instant) :
    timestampColumn date = .error .internal ∨ ∃ instant, timestampColumn date = .ok instant := by
  cases date with
  | none => exact .inl rfl
  | some instant =>
      rw [timestampColumn_some]
      split
      · exact .inr ⟨instant, rfl⟩
      · exact .inl rfl

section

variable {platform : Platform} {user : User} {draw : Draw} {db : Db}

/-- The two ends of a report, where the query names both: what it leaves out is now, or 30 days
before the end. -/
structure ReportQueryDto.Names (platform : Platform) (draw : Draw) (query : ReportQueryDto)
    (start stop : Instant) : Prop where
  stops : query.toDate.elim (some draw.now) platform.parseDate = some stop
  starts : query.fromDate.elim
    (Js.dateOfMs (stop - ReportsService.defaultWindowDays * LessonsService.dayMs))
    platform.parseDate = some start

/-- The two ends of a calendar, where the query names both: what it leaves out is the start of
today, or 30 days after the start. -/
structure ListLessonsQueryDto.Names (platform : Platform) (draw : Draw) (query : ListLessonsQueryDto)
    (start stop : Instant) : Prop where
  starts : query.fromDate.elim (some (platform.startOfDay draw.now)) platform.parseDate = some start
  stops : query.toDate.elim
    (Js.dateOfMs (start + LessonsService.defaultWindowDays * LessonsService.dayMs))
    platform.parseDate = some stop

theorem ReportQueryDto.Names.unique {query : ReportQueryDto} {start stop start' stop' : Instant}
    (names : query.Names platform draw start stop) (other : query.Names platform draw start' stop') :
    start = start' ∧ stop = stop' := by
  obtain rfl := Option.some.inj (names.stops.symm.trans other.stops)
  exact ⟨Option.some.inj (names.starts.symm.trans other.starts), rfl⟩

theorem ListLessonsQueryDto.Names.unique {query : ListLessonsQueryDto}
    {start stop start' stop' : Instant} (names : query.Names platform draw start stop)
    (other : query.Names platform draw start' stop') : start = start' ∧ stop = stop' := by
  obtain rfl := Option.some.inj (names.starts.symm.trans other.starts)
  exact ⟨rfl, Option.some.inj (names.stops.symm.trans other.stops)⟩

/-- The report is refused as a bad request, or made from the rows of a bounded window. -/
def ReportsService.Answers (platform : Platform) (user : User) (draw : Draw) (query : ReportQueryDto)
    (db : Db) : Prop :=
  (∃ message, summary platform user draw query db = .error (.badRequest message)) ∨
    ∃ report tutorId, summary platform user draw query db = .ok report ∧
      Bounded maxWindowDays report.fromDate report.toDate ∧ report.Reads db user.schoolId tutorId

/-- The same of a calendar, with the rows it lists. -/
def LessonsService.Answers (platform : Platform) (user : User) (draw : Draw)
    (query : ListLessonsQueryDto) (db : Db) : Prop :=
  (∃ message, findInRange platform user draw query db = .error (.badRequest message)) ∨
    ∃ start stop, Bounded maxWindowDays start stop ∧
      findInRange platform user draw query db =
        .ok (listed platform (inWindow user (requestedTutors query.tutorIds) start stop) db)

/-- A guard of a window, when both ends are instants: it refuses the window, or that is bounded. -/
theorem guard_cases (days : Int) (backwards long : String) (start stop : Instant) :
    let problem : Option HttpError :=
      if stop ≤ start then some (.badRequest backwards)
      else if days * LessonsService.dayMs < stop - start then some (.badRequest long)
      else none
    (∃ message, problem = some (.badRequest message)) ∧
        (stop ≤ start ∨ days * LessonsService.dayMs < stop - start) ∨
      problem = none ∧ Bounded days start stop := by
  intro problem
  by_cases ends : stop ≤ start
  · exact .inl ⟨⟨backwards, if_pos ends⟩, .inl ends⟩
  · by_cases wide : days * LessonsService.dayMs < stop - start
    · exact .inl ⟨⟨long, (if_neg ends).trans (if_pos wide)⟩, .inr wide⟩
    · exact .inr ⟨(if_neg ends).trans (if_neg wide), not_le.mp ends, not_lt.mp wide⟩

theorem ReportsService.windowProblem_cases (start stop : Instant) :
    (∃ message, windowProblem (some start) (some stop) = some (.badRequest message)) ∧
        (stop ≤ start ∨ maxWindowDays * LessonsService.dayMs < stop - start) ∨
      windowProblem (some start) (some stop) = none ∧ Bounded maxWindowDays start stop :=
  guard_cases maxWindowDays _ _ start stop

theorem LessonsService.windowProblem_cases (start stop : Instant) :
    (∃ message, windowProblem (some start) (some stop) = some (.badRequest message)) ∧
        (stop ≤ start ∨ maxWindowDays * dayMs < stop - start) ∨
      windowProblem (some start) (some stop) = none ∧ Bounded maxWindowDays start stop :=
  guard_cases maxWindowDays _ _ start stop

theorem LessonsService.windowProblem_unread {start stop : Option Instant}
    (invalid : start = none ∨ stop = none) : windowProblem start stop = none := by
  rcases invalid with rfl | rfl
  · cases stop <;> rfl
  · cases start <;> rfl

theorem ReportsService.windowProblem_unread {start stop : Option Instant}
    (invalid : start = none ∨ stop = none) : windowProblem start stop = none :=
  (windowProblem_alike start stop).mpr (LessonsService.windowProblem_unread invalid)

theorem LessonsService.windowProblem_badRequest {start stop : Option Instant} {reason : HttpError}
    (refused : windowProblem start stop = some reason) : ∃ message, reason = .badRequest message := by
  cases start with
  | none =>
      rw [windowProblem_unread (.inl rfl)] at refused
      cases refused
  | some start =>
      cases stop with
      | none =>
          rw [windowProblem_unread (.inr rfl)] at refused
          cases refused
      | some stop =>
          rcases windowProblem_cases start stop with ⟨⟨message, bad⟩, -⟩ | ⟨guarded, -⟩
          · rw [bad, Option.some.injEq] at refused
            exact ⟨message, refused.symm⟩
          · rw [guarded] at refused
            cases refused

namespace ReportsService

variable {query : ReportQueryDto} {start stop : Instant} {covered : Option Id}

theorem window_named (names : query.Names platform draw start stop) :
    window platform draw query =
      refuse (windowProblem (some start) (some stop)) >>= fun _ => .ok (some start, some stop) := by
  obtain ⟨fromDate, toDate, tutorId⟩ := query
  obtain ⟨stops, starts⟩ := names
  cases toDate with
  | none =>
      obtain rfl : draw.now = stop := Option.some.inj stops
      cases fromDate <;> simp only [Option.elim_none, Option.elim_some] at starts <;>
        simp only [window, starts, Option.bind_some] <;> rfl
  | some last =>
      simp only [Option.elim_some] at stops
      cases fromDate <;> simp only [Option.elim_none, Option.elim_some] at starts <;>
        simp only [window, stops, starts, Option.bind_some] <;> rfl

/-- An end that is no date is compared with nothing. -/
theorem window_unnamed (unnamed : ¬ ∃ start stop, query.Names platform draw start stop) :
    ∃ fromDate toDate, window platform draw query = .ok (fromDate, toDate) ∧
      (fromDate = none ∨ toDate = none) := by
  let toDate := query.toDate.elim (some draw.now) platform.parseDate
  let fromDate := query.fromDate.elim
    (toDate.bind fun stop => Js.dateOfMs (stop - defaultWindowDays * LessonsService.dayMs))
    platform.parseDate
  have ends : window platform draw query =
      refuse (windowProblem fromDate toDate) >>= fun _ => .ok (fromDate, toDate) := by
    obtain ⟨first, last, tutorId⟩ := query
    cases first <;> cases last <;> rfl
  have invalid : fromDate = none ∨ toDate = none := by
    cases stops : toDate with
    | none => exact .inr rfl
    | some stop =>
        cases starts : fromDate with
        | none => exact .inl rfl
        | some start =>
            refine absurd ⟨start, stop, stops, ?_⟩ unnamed
            simpa only [fromDate, stops, Option.bind_some] using starts
  refine ⟨fromDate, toDate, ?_, invalid⟩
  rw [ends, windowProblem_unread invalid]
  rfl

/-- A report is made of its window and its scope, once the driver has taken both dates. -/
theorem summary_shape : ∃ made : Option Id → Instant → Instant → Report,
    (∀ tutorId start stop, (made tutorId start stop).fromDate = start ∧
      (made tutorId start stop).toDate = stop) ∧
    summary platform user draw query db = do
      let (fromDate, toDate) ← window platform draw query
      let tutorId ← tutorScope user query.tutorId "Only an admin can report on another tutor"
      let start ← timestampColumn fromDate
      let stop ← timestampColumn toDate
      return made tutorId start stop :=
  ⟨_, fun _ _ _ => ⟨rfl, rfl⟩, rfl⟩

theorem summary_refused {reason : HttpError} (refused : window platform draw query = .error reason) :
    summary platform user draw query db = .error reason := by
  rw [summary, refused]
  rfl

/-- The driver takes neither a date that is none nor one before the year one. -/
theorem summary_unreadable {fromDate toDate : Option Instant}
    (asks : tutorScope user query.tutorId "Only an admin can report on another tutor" = .ok covered)
    (accepted : window platform draw query = .ok (fromDate, toDate))
    (unreadable : fromDate = none ∨ toDate = none ∨ ∃ start, fromDate = some start ∧
      start < firstInstant) :
    summary platform user draw query db = .error .internal := by
  obtain ⟨made, -, shape⟩ := @summary_shape platform user draw db query
  rw [shape, accepted, asks]
  rcases unreadable with rfl | rfl | ⟨start, rfl, early⟩
  · rfl
  · rcases timestampColumn_cases fromDate with failed | ⟨instant, taken⟩
    · simp only [ok_bind, failed, error_bind]
    · simp only [ok_bind, taken]
      rfl
  · simp only [ok_bind, timestampColumn_some, if_neg (not_le.mpr early), error_bind]

theorem summary_taken
    (asks : tutorScope user query.tutorId "Only an admin can report on another tutor" = .ok covered)
    (accepted : window platform draw query = .ok (some start, some stop)) (ordered : start < stop)
    (taken : firstInstant ≤ start) : ∃ report, summary platform user draw query db = .ok report ∧
      report.fromDate = start ∧ report.toDate = stop := by
  obtain ⟨made, ends, shape⟩ := @summary_shape platform user draw db query
  refine ⟨made covered start stop, ?_, ends covered start stop⟩
  simp only [shape, accepted, asks, ok_bind, timestampColumn_some, if_pos taken,
    if_pos (taken.trans ordered.le)]
  rfl

theorem not_answers (failed : summary platform user draw query db = .error .internal) :
    ¬ Answers platform user draw query db := by
  rintro (⟨message, refused⟩ | ⟨report, tutorId, given, -⟩)
  · rw [failed] at refused
    cases refused
  · rw [failed] at given
    cases given

/-- A report is refused or bounded exactly when both its ends are dates, and early ones only in a
window that is refused. -/
theorem answers_iff
    (asks : tutorScope user query.tutorId "Only an admin can report on another tutor" = .ok covered) :
    Answers platform user draw query db ↔
      ∃ start stop, query.Names platform draw start stop ∧ Answerable maxWindowDays start stop := by
  by_cases named : ∃ start stop, query.Names platform draw start stop
  · obtain ⟨start, stop, names⟩ := named
    rcases windowProblem_cases start stop with ⟨⟨message, refused⟩, bad⟩ | ⟨guarded, bounded⟩
    · have failed : window platform draw query = .error (.badRequest message) := by
        rw [window_named names, refused]
        rfl
      exact ⟨fun _ => ⟨start, stop, names, bad.imp_right .inl⟩,
        fun _ => .inl ⟨message, summary_refused failed⟩⟩
    · have accepted : window platform draw query = .ok (some start, some stop) := by
        rw [window_named names, guarded]
        rfl
      by_cases taken : firstInstant ≤ start
      · obtain ⟨report, given, starts, stops⟩ := summary_taken asks accepted bounded.ordered taken
        obtain ⟨tutorId, -, reads⟩ := summary_reads given
        rw [← starts, ← stops] at bounded
        exact ⟨fun _ => ⟨start, stop, names, .inr (.inr taken)⟩,
          fun _ => .inr ⟨report, tutorId, given, bounded, reads⟩⟩
      · have failed : summary platform user draw query db = .error .internal :=
          summary_unreadable asks accepted (.inr (.inr ⟨start, rfl, not_le.mp taken⟩))
        refine ⟨fun answers => absurd answers (not_answers failed), ?_⟩
        rintro ⟨start', stop', names', answerable⟩
        obtain ⟨rfl, rfl⟩ := names.unique names'
        exact absurd answerable (bounded.not_answerable (not_le.mp taken))
  · obtain ⟨fromDate, toDate, accepted, invalid⟩ := window_unnamed named
    have failed : summary platform user draw query db = .error .internal :=
      summary_unreadable asks accepted (invalid.elim .inl fun none => .inr (.inl none))
    refine ⟨fun answers => absurd answers (not_answers failed), ?_⟩
    rintro ⟨start, stop, names, -⟩
    exact absurd ⟨start, stop, names⟩ named

end ReportsService

namespace LessonsService

variable {query : ListLessonsQueryDto} {start stop : Instant}

/-- The two ends of a calendar, as `Date` has them. -/
def ends (platform : Platform) (draw : Draw) (query : ListLessonsQueryDto) :
    Option Instant × Option Instant :=
  let fromDate := query.fromDate.elim (some (platform.startOfDay draw.now)) platform.parseDate
  (fromDate, query.toDate.elim
    (fromDate.bind fun start => Js.dateOfMs (start + defaultWindowDays * dayMs)) platform.parseDate)

theorem findInRange_ends : findInRange platform user draw query db = (do
    refuse (windowProblem (ends platform draw query).1 (ends platform draw query).2)
    require ((requestedTutors query.tutorIds).all fun ids => ids.length ≤ maxTutorFilters)
      (.badRequest "A request cannot ask for more than 50 calendars")
    let start ← timestampColumn (ends platform draw query).1
    let stop ← timestampColumn (ends platform draw query).2
    return listed platform (inWindow user (requestedTutors query.tutorIds) start stop) db) := by
  obtain ⟨first, last, tutorIds⟩ := query
  cases first <;> cases last <;> rfl

theorem ends_iff : ends platform draw query = (some start, some stop) ↔
    query.Names platform draw start stop := by
  rw [ends, Prod.mk.injEq]
  constructor
  · rintro ⟨starts, stops⟩
    rw [starts] at stops
    exact ⟨starts, stops⟩
  · rintro ⟨starts, stops⟩
    rw [starts]
    exact ⟨rfl, stops⟩

theorem not_answers (failed : findInRange platform user draw query db = .error .internal) :
    ¬ Answers platform user draw query db := by
  rintro (⟨message, refused⟩ | ⟨start, stop, -, given⟩)
  · rw [failed] at refused
    cases refused
  · rw [failed] at given
    cases given

/-- The driver takes neither a date that is none nor one before the year one. -/
theorem findInRange_unreadable
    (few : ((requestedTutors query.tutorIds).all fun ids => ids.length ≤ maxTutorFilters) = true)
    (guarded : windowProblem (ends platform draw query).1 (ends platform draw query).2 = none)
    (unreadable : (ends platform draw query).1 = none ∨ (ends platform draw query).2 = none ∨
      ∃ start, (ends platform draw query).1 = some start ∧ start < firstInstant) :
    findInRange platform user draw query db = .error .internal := by
  rw [findInRange_ends, guarded, few]
  rcases unreadable with none | none | ⟨start, starts, early⟩
  · rw [none]
    rfl
  · rw [none]
    rcases timestampColumn_cases (ends platform draw query).1 with failed | ⟨instant, taken⟩
    · rw [failed]
      rfl
    · rw [taken]
      rfl
  · rw [starts, timestampColumn_some, if_neg (not_le.mpr early)]
    rfl

/-- A calendar is refused or bounded exactly when both its ends are dates, early ones only in a
window that is refused, or when it asks for too many calendars. -/
theorem answers_iff : Answers platform user draw query db ↔
    (∃ start stop, query.Names platform draw start stop ∧ Answerable maxWindowDays start stop) ∨
      ∃ ids, requestedTutors query.tutorIds = some ids ∧ maxTutorFilters < ids.length := by
  by_cases few : ((requestedTutors query.tutorIds).all fun ids => ids.length ≤ maxTutorFilters) = true
  · have enough : ¬ ∃ ids, requestedTutors query.tutorIds = some ids ∧ maxTutorFilters < ids.length := by
      rintro ⟨ids, asked, many⟩
      rw [asked, Option.all_some, decide_eq_true_eq] at few
      exact absurd many (not_lt.mpr few)
    rw [or_iff_left enough]
    by_cases named : ∃ start stop, query.Names platform draw start stop
    · obtain ⟨start, stop, names⟩ := named
      have both := ends_iff.mpr names
      rcases windowProblem_cases start stop with ⟨⟨message, refused⟩, bad⟩ | ⟨guarded, bounded⟩
      · refine ⟨fun _ => ⟨start, stop, names, bad.imp_right .inl⟩, fun _ => .inl ⟨message, ?_⟩⟩
        rw [findInRange_ends, both, refused]
        rfl
      · by_cases taken : firstInstant ≤ start
        · refine ⟨fun _ => ⟨start, stop, names, .inr (.inr taken)⟩,
            fun _ => .inr ⟨start, stop, bounded, ?_⟩⟩
          rw [findInRange_ends, both, guarded, few, timestampColumn_some, if_pos taken,
            timestampColumn_some, if_pos (taken.trans bounded.ordered.le)]
          rfl
        · have failed : findInRange platform user draw query db = .error .internal :=
            findInRange_unreadable few (by rw [both, guarded])
              (.inr (.inr ⟨start, by rw [both], not_le.mp taken⟩))
          refine ⟨fun answers => absurd answers (not_answers failed), ?_⟩
          rintro ⟨start', stop', names', answerable⟩
          obtain ⟨rfl, rfl⟩ := names.unique names'
          exact absurd answerable (bounded.not_answerable (not_le.mp taken))
    · have invalid : (ends platform draw query).1 = none ∨ (ends platform draw query).2 = none := by
        cases starts : (ends platform draw query).1 with
        | none => exact .inl rfl
        | some start =>
            cases stops : (ends platform draw query).2 with
            | none => exact .inr rfl
            | some stop => exact absurd ⟨start, stop, ends_iff.mp (Prod.ext starts stops)⟩ named
      have failed : findInRange platform user draw query db = .error .internal :=
        findInRange_unreadable few (windowProblem_unread invalid) (invalid.imp_right .inl)
      refine ⟨fun answers => absurd answers (not_answers failed), ?_⟩
      rintro ⟨start, stop, names, -⟩
      exact absurd ⟨start, stop, names⟩ named
  · obtain ⟨ids, asked, many⟩ :
        ∃ ids, requestedTutors query.tutorIds = some ids ∧ maxTutorFilters < ids.length := by
      cases asked : requestedTutors query.tutorIds with
      | none =>
          rw [asked] at few
          exact absurd rfl few
      | some ids =>
          rw [asked, Option.all_some, decide_eq_true_eq] at few
          exact ⟨ids, rfl, not_le.mp few⟩
    refine ⟨fun _ => .inr ⟨ids, asked, many⟩, fun _ => .inl ?_⟩
    rw [findInRange_ends]
    cases guarded : windowProblem (ends platform draw query).1 (ends platform draw query).2 with
    | some reason =>
        obtain ⟨message, rfl⟩ := windowProblem_badRequest guarded
        exact ⟨message, rfl⟩
    | none => exact ⟨_, by rw [Bool.not_eq_true] at few; rw [few]; rfl⟩

end LessonsService

/-- Both services answer or refuse a window exactly when its ends are dates that the driver takes
or that the guard gets to refuse. -/
theorem windows_answered_iff {report : ReportQueryDto} {calendar : ListLessonsQueryDto}
    {covered : Option Id}
    (asks : tutorScope user report.tutorId "Only an admin can report on another tutor" = .ok covered) :
    (ReportsService.Answers platform user draw report db ↔ ∃ start stop,
      report.Names platform draw start stop ∧
        Answerable ReportsService.maxWindowDays start stop) ∧
    (LessonsService.Answers platform user draw calendar db ↔
      (∃ start stop, calendar.Names platform draw start stop ∧
        Answerable LessonsService.maxWindowDays start stop) ∨
      ∃ ids, LessonsService.requestedTutors calendar.tutorIds = some ids ∧
        LessonsService.maxTutorFilters < ids.length) :=
  ⟨ReportsService.answers_iff asks, LessonsService.answers_iff⟩

end

theorem day_answered :
    ReportsService.Answers .oneDay foxAdmin (Outside.quiet "").draw
      ⟨some "2026-03-01", some "2026-03-02", none⟩ taughtDay.db ∧
    LessonsService.Answers .oneDay foxAdmin (Outside.quiet "").draw
      ⟨some "2026-03-01", some "2026-03-02", none⟩ taughtDay.db := by
  obtain ⟨reports, calendars⟩ := @windows_answered_iff .oneDay foxAdmin (Outside.quiet "").draw
    taughtDay.db ⟨some "2026-03-01", some "2026-03-02", none⟩
    ⟨some "2026-03-01", some "2026-03-02", none⟩ none rfl
  have late : Answerable 400 1772323200000 1772409600000 := .inr (.inr (by decide))
  exact ⟨reports.mpr ⟨1772323200000, 1772409600000, ⟨by decide, by decide⟩, late⟩,
    calendars.mpr (.inl ⟨1772323200000, 1772409600000, ⟨by decide, by decide⟩, late⟩)⟩

/-- A week date passes the validation, and the driver then fails on it. -/
theorem week_date_breaks : Reachable .oneDay taughtDay ∧ isWeekDate "2026-W10-1" = true ∧
    Platform.oneDay.parseDate "2026-W10-1" = none ∧
    Platform.oneDay.parseDate "2026-03-02" = some 1772409600000 ∧
    ReportsService.summary .oneDay foxAdmin (Outside.quiet "").draw
      ⟨some "2026-W10-1", some "2026-03-02", none⟩ taughtDay.db = .error .internal ∧
    LessonsService.findInRange .oneDay foxAdmin (Outside.quiet "").draw
      ⟨some "2026-W10-1", some "2026-03-02", none⟩ taughtDay.db = .error .internal ∧
    ¬ ReportsService.Answers .oneDay foxAdmin (Outside.quiet "").draw
      ⟨some "2026-W10-1", some "2026-03-02", none⟩ taughtDay.db ∧
    ¬ LessonsService.Answers .oneDay foxAdmin (Outside.quiet "").draw
      ⟨some "2026-W10-1", some "2026-03-02", none⟩ taughtDay.db := by
  have report : ReportsService.summary .oneDay foxAdmin (Outside.quiet "").draw
      ⟨some "2026-W10-1", some "2026-03-02", none⟩ taughtDay.db = .error .internal := by
    decide +kernel
  have calendar : LessonsService.findInRange .oneDay foxAdmin (Outside.quiet "").draw
      ⟨some "2026-W10-1", some "2026-03-02", none⟩ taughtDay.db = .error .internal := by
    decide +kernel
  exact ⟨.after .oneDay .refl _, by decide +kernel, by decide +kernel, by decide +kernel, report,
    calendar, ReportsService.not_answers report, LessonsService.not_answers calendar⟩

end TutorApp
