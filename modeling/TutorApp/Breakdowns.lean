import TutorApp.StudentsTaught
import TutorApp.Tally

set_option autoImplicit false

namespace TutorApp

open Relational

/-- What a row stands under: a lesson without a subject under the empty text. -/
def ReportBreakdown.key (row : ReportBreakdown) : String := row.id.getD ""

def minutesOf (lessons : List Lesson) : Int := (lessons.map Lesson.durationMinutes).sum

/-- Lessons that would stand before a row: more minutes, or as many in more lessons. -/
def Beats (lessons : List Lesson) (row : ReportBreakdown) : Prop :=
  row.minutes < minutesOf lessons ∨ row.minutes = minutesOf lessons ∧ row.lessons < lessons.length

/-- Rows that give the lessons of each key, but for the smallest keys past the limit. -/
structure BreaksDown {κ : Type} [DecidableEq κ] (key : ReportBreakdown → κ) (keyOf : Lesson → κ)
    (rows : List ReportBreakdown) (lessons : List Lesson) : Prop where
  distinct : (rows.map key).Nodup
  found : ∀ row ∈ rows, key row ∈ lessons.map keyOf
  counted : ∀ row ∈ rows,
    row.lessons = (lessons.filter fun lesson => keyOf lesson = key row).length ∧
      row.minutes = minutesOf (lessons.filter fun lesson => keyOf lesson = key row)
  size : rows.length = min ReportsService.maxBreakdownRows (lessons.map keyOf).dedup.length
  leads : ∀ row ∈ rows, ∀ lesson ∈ lessons, keyOf lesson ∉ rows.map key →
    ¬ Beats (lessons.filter fun other => keyOf other = keyOf lesson) row
  sums : (lessons.map keyOf).dedup.length ≤ ReportsService.maxBreakdownRows →
    (rows.map ReportBreakdown.lessons).sum = lessons.length ∧
      (rows.map ReportBreakdown.minutes).sum = minutesOf lessons

namespace ReportsService

/-- A breakdown as a tally of lessons. -/
def tallied (keyOf : Lesson → Option Id × Option String) : Tally Lesson ReportBreakdown String where
  keyOf lesson := (keyOf lesson).1.getD ""
  key := ReportBreakdown.key
  opening lesson := ⟨(keyOf lesson).1, (keyOf lesson).2, 1, lesson.durationMinutes⟩
  adding row lesson :=
    { row with lessons := row.lessons + 1, minutes := row.minutes + lesson.durationMinutes }
  key_opening _ := rfl
  key_adding _ _ := rfl

def Busier (left right : ReportBreakdown) : Prop :=
  right.minutes < left.minutes ∨ (right.minutes = left.minutes ∧ right.lessons ≤ left.lessons)

instance : DecidableRel Busier := fun _ _ => inferInstanceAs (Decidable (_ ∨ _))

instance : Std.Total Busier where
  total left right := by
    unfold Busier
    omega

instance : IsTrans ReportBreakdown Busier where
  trans left middle right first second := by
    unfold Busier at first second ⊢
    omega

section

variable (keyOf : Lesson → Option Id × Option String) (lessons : List Lesson)

theorem addToBreakdown_eq (lesson : Lesson) (rows : List ReportBreakdown) :
    addToBreakdown (keyOf lesson).1 (keyOf lesson).2 lesson.durationMinutes rows =
      (tallied keyOf).enter lesson rows := by
  induction rows with
  | nil => rfl
  | cons row rest ih =>
      rw [addToBreakdown, ih]
      rfl

theorem breakdown_eq : breakdown lessons keyOf =
    (((tallied keyOf).rows lessons).insertionSort Busier).take maxBreakdownRows := by
  have rows : lessons.foldl (fun rows lesson =>
      addToBreakdown (keyOf lesson).1 (keyOf lesson).2 lesson.durationMinutes rows) [] =
        (tallied keyOf).rows lessons := by
    simp only [addToBreakdown_eq]
    rfl
  rw [breakdown, rows]
  rfl

def lessonFigure : (tallied keyOf).Figure Nat where
  total := ReportBreakdown.lessons
  amount _ := 1
  total_opening _ := rfl
  total_adding _ _ := rfl

def minuteFigure : (tallied keyOf).Figure Int where
  total := ReportBreakdown.minutes
  amount := Lesson.durationMinutes
  total_opening _ := rfl
  total_adding _ _ := rfl

theorem sum_lessonFigure (counted : List Lesson) :
    (counted.map (lessonFigure keyOf).amount).sum = counted.length := by
  induction counted with
  | nil => rfl
  | cons lesson rest ih =>
      rw [List.map_cons, List.sum_cons, ih, List.length_cons, Nat.add_comm]
      rfl

theorem tallied_counted {row : ReportBreakdown} (member : row ∈ (tallied keyOf).rows lessons) :
    row.lessons = (lessons.filter fun lesson => (keyOf lesson).1.getD "" = row.key).length ∧
      row.minutes = minutesOf (lessons.filter fun lesson => (keyOf lesson).1.getD "" = row.key) := by
  have count := (lessonFigure keyOf).total_row member
  rw [sum_lessonFigure] at count
  exact ⟨count, (minuteFigure keyOf).total_row member⟩

theorem breakdown_exact :
    BreaksDown ReportBreakdown.key (fun lesson => (keyOf lesson).1.getD "")
      (breakdown lessons keyOf) lessons := by
  rw [breakdown_eq]
  have within : ∀ row ∈ (((tallied keyOf).rows lessons).insertionSort Busier).take maxBreakdownRows,
      row ∈ (tallied keyOf).rows lessons :=
    fun row member => (List.mem_insertionSort _).mp (List.mem_of_mem_take member)
  constructor
  case distinct =>
    have sorted : (((tallied keyOf).rows lessons).insertionSort Busier).map ReportBreakdown.key |>.Nodup :=
      ((List.perm_insertionSort Busier _).map _).nodup_iff.mpr ((tallied keyOf).nodup_keys lessons)
    exact sorted.sublist ((List.take_sublist _ _).map _)
  case found =>
    exact fun row member => (tallied keyOf).mem_keys.mp (List.mem_map_of_mem (within row member))
  case counted => exact fun row member => tallied_counted keyOf lessons (within row member)
  case size =>
    rw [List.length_take, List.length_insertionSort, (tallied keyOf).length_rows]
    rfl
  case leads =>
    intro row member lesson listed cut beats
    obtain ⟨left, tallies, key⟩ := List.mem_map.mp
      ((tallied keyOf).mem_keys.mpr (List.mem_map_of_mem listed))
    have absent : left ∉ (((tallied keyOf).rows lessons).insertionSort Busier).take maxBreakdownRows := by
      intro kept
      exact cut (List.mem_map.mpr ⟨left, kept, key⟩)
    have leads : Busier row left := Tally.le_of_cut _ member tallies absent
    obtain ⟨count, minutes⟩ := tallied_counted keyOf lessons tallies
    change left.key = (keyOf lesson).1.getD "" at key
    rw [key] at count minutes
    unfold Beats at beats
    unfold Busier at leads
    omega
  case sums =>
    intro fits
    have every := Tally.take_perm maxBreakdownRows Busier
      (((tallied keyOf).length_rows lessons).trans_le fits)
    have count := (lessonFigure keyOf).sum_rows lessons
    rw [sum_lessonFigure] at count
    exact ⟨((every.map _).sum_eq).trans count,
      ((every.map _).sum_eq).trans ((minuteFigure keyOf).sum_rows lessons)⟩

/-- A row has the id of its first lesson. -/
theorem breakdown_id {row : ReportBreakdown} (member : row ∈ breakdown lessons keyOf) :
    ∃ lesson ∈ lessons, row.id = (keyOf lesson).1 := by
  rw [breakdown_eq] at member
  obtain ⟨lesson, listed, -, same⟩ := (tallied keyOf).opened_by ReportBreakdown.id
    (fun _ _ => rfl) ((List.mem_insertionSort _).mp (List.mem_of_mem_take member))
  exact ⟨lesson, listed, same⟩

end

end ReportsService

/-- Where no two ids share a key, what holds by key holds by id. -/
theorem BreaksDown.by_id {rows : List ReportBreakdown} {lessons : List Lesson}
    {idOf : Lesson → Option Id}
    (exact : BreaksDown ReportBreakdown.key (fun lesson => (idOf lesson).getD "") rows lessons)
    (opened : ∀ row ∈ rows, ∃ lesson ∈ lessons, row.id = idOf lesson)
    (apart : ∀ left ∈ lessons, ∀ right ∈ lessons,
      (idOf left).getD "" = (idOf right).getD "" → idOf left = idOf right) :
    BreaksDown ReportBreakdown.id idOf rows lessons := by
  have same : ∀ row ∈ rows, ∀ lesson ∈ lessons,
      idOf lesson = row.id ↔ (idOf lesson).getD "" = row.key := by
    intro row member lesson listed
    obtain ⟨first, opens, id⟩ := opened row member
    rw [ReportBreakdown.key, id]
    exact ⟨fun ids => by rw [ids], apart lesson listed first opens⟩
  have keys : (lessons.map fun lesson => (idOf lesson).getD "").dedup.length =
      (lessons.map idOf).dedup.length := by
    have perm : ((lessons.map idOf).dedup.map fun id => id.getD "").Perm
        (lessons.map fun lesson => (idOf lesson).getD "").dedup := by
      refine (List.perm_ext_iff_of_nodup (List.Nodup.map_on ?_ (List.nodup_dedup _))
        (List.nodup_dedup _)).mpr fun key => ?_
      · intro left first right second alike
        rw [List.mem_dedup, List.mem_map] at first second
        obtain ⟨one, listed, rfl⟩ := first
        obtain ⟨other, listed', rfl⟩ := second
        exact apart one listed other listed' alike
      · simp only [List.mem_map, List.mem_dedup, exists_exists_and_eq_and]
    rw [← perm.length_eq, List.length_map]
  constructor
  case distinct => exact List.Nodup.of_map (fun id => id.getD "") (by
    rw [List.map_map]
    exact exact.distinct)
  case found =>
    intro row member
    obtain ⟨lesson, listed, id⟩ := opened row member
    rw [id]
    exact List.mem_map_of_mem listed
  case counted =>
    intro row member
    have lessonsOf : (lessons.filter fun lesson => idOf lesson = row.id) =
        lessons.filter fun lesson => (idOf lesson).getD "" = row.key :=
      List.filter_congr fun lesson listed => by rw [decide_eq_decide, same row member lesson listed]
    rw [lessonsOf]
    exact exact.counted row member
  case size =>
    rw [← keys]
    exact exact.size
  case leads =>
    intro row member lesson listed cut
    have absent : (idOf lesson).getD "" ∉ rows.map ReportBreakdown.key := by
      rintro kept
      obtain ⟨other, there, key⟩ := List.mem_map.mp kept
      exact cut (List.mem_map.mpr ⟨other, there, ((same other there lesson listed).mpr key.symm).symm⟩)
    have lessonsOf : (lessons.filter fun other => idOf other = idOf lesson) =
        lessons.filter fun other => (idOf other).getD "" = (idOf lesson).getD "" :=
      List.filter_congr fun other listed' => by
        rw [decide_eq_decide]
        exact ⟨fun ids => by rw [ids], apart other listed' lesson listed⟩
    rw [lessonsOf]
    exact exact.leads row member lesson listed absent
  case sums =>
    rw [← keys]
    exact exact.sums

/-- A missing id shares its key with the empty one only. -/
theorem getD_injective {left right : Option Id} (first : ∀ id ∈ left, id ≠ "")
    (second : ∀ id ∈ right, id ≠ "") (same : left.getD "" = right.getD "") : left = right := by
  cases left with
  | none =>
      cases right with
      | none => rfl
      | some id => exact absurd same.symm (second id rfl)
  | some id =>
      cases right with
      | none => exact absurd same (first id rfl)
      | some other => exact congrArg some same

theorem ReportsService.tutorBreakdown_exact (user : User) (lessons : List Lesson) (db : Db) :
    BreaksDown ReportBreakdown.id (fun lesson => some lesson.tutorId)
      (tutorBreakdown user lessons db) lessons := by
  have exact := breakdown_exact (fun lesson => (some lesson.tutorId, ((db.users.restrict fun row =>
    row.schoolId == user.schoolId).find lesson.tutorId).map User.name)) lessons
  refine BreaksDown.by_id exact (fun row member => breakdown_id _ _ member) ?_
  exact fun left _ right _ same => congrArg some same

section

variable {platform : Platform} {user : User} {draw : Draw} {query : ReportQueryDto} {report : Report}

/-- What the breakdowns of a report were made from. -/
theorem ReportsService.summary_breakdowns {db : Db}
    (given : summary platform user draw query db = .ok report) :
    ∃ covered, tutorScope user query.tutorId "Only an admin can report on another tutor" =
        .ok covered ∧
      let taught := db.lessons.select
        (completedIn (inScope user.schoolId covered report.fromDate report.toDate))
      report.lessons.completed = taught.length ∧ report.minutesTaught = minutesOf taught ∧
      report.bySubject = breakdown taught (fun lesson =>
        (lesson.subjectId, (db.subjectRef lesson.subjectId).map SubjectRef.name)) ∧
      ∀ rows ∈ report.byTutor, rows = tutorBreakdown user taught db := by
  simp only [summary, bind_ok, pure_ok] at given
  obtain ⟨⟨fromDate, toDate⟩, -, covered, allowed, start, -, stop, -, rfl⟩ := given
  have taught : (db.lessons.select (inScope user.schoolId covered start stop)).filter
      (fun row => row.status == .completed) =
        db.lessons.select (completedIn (inScope user.schoolId covered start stop)) := by
    rw [Table.select, Table.select, List.filter_filter]
    exact List.filter_congr fun lesson _ => Bool.and_comm _ _
  refine ⟨covered, allowed, ?_⟩
  dsimp only
  rw [taught]
  refine ⟨rfl, rfl, rfl, fun rows member => ?_⟩
  split at member
  · exact (Option.some.inj member).symm
  · cases member

/-- The breakdowns give the completed lessons of the scope key by key, busiest first, with their
counts and minutes, and leave out what is past the limit only. -/
theorem breakdowns_exact {world : World} (reachable : Reachable platform world)
    (given : ReportsService.summary platform user draw query world.db = .ok report) :
    ∃ covered, tutorScope user query.tutorId "Only an admin can report on another tutor" =
        .ok covered ∧
      let taught := world.db.lessons.select
        (completedIn (ReportsService.inScope user.schoolId covered report.fromDate report.toDate))
      report.lessons.completed = taught.length ∧ report.minutesTaught = minutesOf taught ∧
      BreaksDown ReportBreakdown.key (fun lesson => lesson.subjectId.getD "") report.bySubject taught ∧
      ((∀ subject ∈ world.db.subjects.rows, subject.id ≠ "") →
        BreaksDown ReportBreakdown.id Lesson.subjectId report.bySubject taught) ∧
      ∀ rows ∈ report.byTutor,
        BreaksDown ReportBreakdown.id (fun lesson => some lesson.tutorId) rows taught := by
  obtain ⟨covered, allowed, completed, minutes, bySubject, byTutor⟩ :=
    ReportsService.summary_breakdowns given
  have subjects := ReportsService.breakdown_exact (fun lesson =>
    (lesson.subjectId, (world.db.subjectRef lesson.subjectId).map SubjectRef.name))
    (world.db.lessons.select
      (completedIn (ReportsService.inScope user.schoolId covered report.fromDate report.toDate)))
  rw [← bySubject] at subjects
  refine ⟨covered, allowed, completed, minutes, subjects, fun named => ?_, fun rows member => ?_⟩
  · have proper : ∀ lesson ∈ world.db.lessons.rows, ∀ id ∈ lesson.subjectId, id ≠ "" := by
      rintro lesson member id taught rfl
      obtain ⟨school, belongs⟩ := reachable.tenanted (.lesson lesson) member
      have home := (Db.belongs_lesson.mp belongs).2.2.1 _ taught
      obtain ⟨subject, found, -⟩ := Option.map_eq_some_iff.mp home
      obtain ⟨held, empty⟩ := Table.find_eq_some.mp found
      exact named subject held empty
    refine BreaksDown.by_id subjects (fun row member => ?_) ?_
    · rw [bySubject] at member
      exact ReportsService.breakdown_id _ _ member
    · intro left first right second
      exact getD_injective (proper left (Table.mem_select.mp first).1)
        (proper right (Table.mem_select.mp second).1)
  · rw [byTutor rows member]
    exact ReportsService.tutorBreakdown_exact _ _ _

end

/-- Maths is busiest by its two lessons, the group's lesson goes under no subject, and the lesson
nobody wrote up is in neither list. -/
theorem day_breaks_down : ∃ report,
    ReportsService.summary .oneDay foxAdmin (Outside.quiet "").draw dayReport busyDay.db =
      .ok report ∧
    report.bySubject = [⟨some "m1", some "Maths", 2, 90⟩, ⟨none, none, 1, 45⟩] ∧
    report.byTutor = some [⟨some "a1", some "Ann", 2, 105⟩, ⟨some "t1", some "Tom", 1, 30⟩] ∧
    let taught := busyDay.db.lessons.select
      (completedIn (ReportsService.inScope "s1" none report.fromDate report.toDate))
    BreaksDown ReportBreakdown.id Lesson.subjectId report.bySubject taught ∧
    ∀ rows ∈ report.byTutor,
      BreaksDown ReportBreakdown.id (fun lesson => some lesson.tutorId) rows taught := by
  have broken : (ReportsService.summary .oneDay foxAdmin (Outside.quiet "").draw dayReport
      busyDay.db).map (fun report => (report.bySubject, report.byTutor)) =
        .ok ([⟨some "m1", some "Maths", 2, 90⟩, ⟨none, none, 1, 45⟩],
          some [⟨some "a1", some "Ann", 2, 105⟩, ⟨some "t1", some "Tom", 1, 30⟩]) := by
    decide +kernel
  obtain ⟨report, given, figures⟩ := map_ok.mp broken
  rw [Prod.mk.injEq] at figures
  obtain ⟨covered, allowed, -, -, -, subjects, tutors⟩ :=
    breakdowns_exact (.after .oneDay .refl _) given
  obtain rfl : none = covered := Except.ok.inj allowed
  exact ⟨report, given, figures.1, figures.2, subjects (by decide), tutors⟩

end TutorApp
