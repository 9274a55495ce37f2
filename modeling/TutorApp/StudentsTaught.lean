import TutorApp.ReportFigures
import TutorApp.WriteUps
import Mathlib.Data.Set.Card

set_option autoImplicit false

namespace TutorApp

open Relational
open Js (Instant)

/-- The students some lesson of a kind is for. -/
def Db.studentsIn (db : Db) (keep : Lesson → Bool) : Set Id :=
  {studentId | ∃ lesson ∈ db.lessons.rows, keep lesson = true ∧ db.Attends lesson studentId}

/-- The kind a report should count: what it covers and what took place. -/
def completedIn (covers : Lesson → Bool) (lesson : Lesson) : Bool :=
  covers lesson && lesson.status == .completed

section

variable {platform : Platform} {user : User} {draw : Draw} {db : Db} {report : Report}

/-- A list without its repetitions is as long as the set of what is in it. -/
theorem length_dedup_eq_ncard {α : Type} [DecidableEq α] {listed : List α} {wanted : Set α}
    (same : ∀ x, x ∈ listed ↔ x ∈ wanted) : listed.dedup.length = wanted.ncard := by
  have coe : wanted = ↑listed.toFinset := by
    ext x
    rw [Finset.mem_coe, List.mem_toFinset, same]
  rw [coe, Set.ncard_coe_finset, List.card_toFinset]

theorem Db.finite_studentsIn (keep : Lesson → Bool) : (db.studentsIn keep).Finite := by
  refine Set.Finite.subset (List.finite_toSet (db.lessons.rows.filterMap Lesson.studentId ++
    db.members.rows.map GroupMember.studentId)) ?_
  rintro studentId ⟨lesson, member, -, own | ⟨row, listed, -, rfl⟩⟩
  · exact List.mem_append_left _ (List.mem_filterMap.mpr ⟨lesson, member, own⟩)
  · exact List.mem_append_right _ (List.mem_map_of_mem listed)

theorem ReportsService.countStudentsTaught_eq (keep : Lesson → Bool) :
    countStudentsTaught (db.lessons.select keep) db = (db.studentsIn keep).ncard := by
  apply length_dedup_eq_ncard
  intro studentId
  simp only [List.mem_append, List.mem_filterMap, List.mem_map, Table.mem_select,
    List.contains_iff_mem, Db.studentsIn, Set.mem_ofPred_eq, Db.Attends]
  constructor
  · rintro (⟨lesson, ⟨member, kept⟩, own⟩ | ⟨row, ⟨listed, lesson, ⟨member, kept⟩, grouped⟩, named⟩)
    · exact ⟨lesson, member, kept, .inl own⟩
    · exact ⟨lesson, member, kept, .inr ⟨row, listed, grouped, named⟩⟩
  · rintro ⟨lesson, member, kept, own | ⟨row, listed, grouped, named⟩⟩
    · exact .inl ⟨lesson, ⟨member, kept⟩, own⟩
    · exact .inr ⟨row, ⟨listed, lesson, ⟨member, kept⟩, grouped⟩, named⟩

/-- What the figure is counted over, whatever became of the lessons. -/
theorem ReportsService.summary_studentsTaught {query : ReportQueryDto}
    (given : summary platform user draw query db = .ok report) :
    ∃ covered, tutorScope user query.tutorId "Only an admin can report on another tutor" =
        .ok covered ∧
      report.studentsTaught =
        (db.studentsIn (inScope user.schoolId covered report.fromDate report.toDate)).ncard := by
  simp only [summary, bind_ok, pure_ok] at given
  obtain ⟨⟨fromDate, toDate⟩, -, covered, allowed, start, -, stop, -, rfl⟩ := given
  exact ⟨covered, allowed, countStudentsTaught_eq _⟩

theorem Db.completedIn_subset (covers : Lesson → Bool) :
    db.studentsIn (completedIn covers) ⊆ db.studentsIn covers := by
  rintro studentId ⟨lesson, member, kept, attends⟩
  rw [completedIn, Bool.and_eq_true] at kept
  exact ⟨lesson, member, kept.1, attends⟩

/-- The figure counts the students taught exactly when nobody's lessons in the window are all
still planned or called off. -/
theorem students_taught_iff {query : ReportQueryDto}
    (given : ReportsService.summary platform user draw query db = .ok report) :
    ∃ covered, tutorScope user query.tutorId "Only an admin can report on another tutor" =
        .ok covered ∧
      let covers := ReportsService.inScope user.schoolId covered report.fromDate report.toDate
      report.studentsTaught = (db.studentsIn (completedIn covers)).ncard ↔
        ∀ lesson ∈ db.lessons.rows, covers lesson = true → lesson.status ≠ .completed →
          ∀ studentId, db.Attends lesson studentId → ∃ other ∈ db.lessons.rows,
            covers other = true ∧ other.status = .completed ∧ db.Attends other studentId := by
  obtain ⟨covered, allowed, counted⟩ := ReportsService.summary_studentsTaught given
  refine ⟨covered, allowed, ?_⟩
  intro covers
  rw [counted]
  constructor
  · intro same lesson member kept _ studentId attends
    have finite := @Db.finite_studentsIn db covers
    have all : db.studentsIn (completedIn covers) = db.studentsIn covers :=
      Set.eq_of_subset_of_ncard_le (Db.completedIn_subset covers) same.le finite
    have listed : studentId ∈ db.studentsIn (completedIn covers) := by
      rw [all]
      exact ⟨lesson, member, kept, attends⟩
    obtain ⟨other, present, completed, attends'⟩ := listed
    rw [completedIn, Bool.and_eq_true, beq_iff_eq] at completed
    exact ⟨other, present, completed.1, completed.2, attends'⟩
  · intro covered
    congr 1
    apply Set.Subset.antisymm _ (Db.completedIn_subset covers)
    rintro studentId ⟨lesson, member, kept, attends⟩
    by_cases done : lesson.status = .completed
    · have counts : completedIn covers lesson = true := by
        rw [completedIn, kept, done]
        rfl
      exact ⟨lesson, member, counts, attends⟩
    · obtain ⟨other, present, kept', done', attends'⟩ :=
        covered lesson member kept done studentId attends
      have counts : completedIn covers other = true := by
        rw [completedIn, kept', done']
        rfl
      exact ⟨other, present, counts, attends'⟩

end

def dayReport : ReportQueryDto := ⟨some "2026-03-01", some "2026-03-02", none⟩

/-- Two tutors, a group of two, and four lessons of which one is never written up. -/
def busyDay : World := World.empty.after .oneDay [
  foxSchool,
  (.quiet "t1", .command "a1" (.createTutor ⟨"Tom", "tom@x.io"⟩)),
  (.quiet "m1", .command "a1" (.createSubject "Maths")),
  (.quiet "m2", .command "a1" (.createSubject "Physics")),
  enrol "a1" "k1" "Kim",
  enrol "a1" "k2" "Lee",
  enrol "t1" "k3" "Max",
  (.quiet "g1", .command "a1" (.createGroup ⟨"Pair", "m2", .absent⟩)),
  (.quiet "", .command "a1" (.addMember "g1" "k1")),
  (.quiet "", .command "a1" (.addMember "g1" "k2")),
  (.quiet "l1", .command "a1" (.createLesson
    ⟨.given "k1", .absent, .given "m1", "2026-03-01T10:00:00.000Z", 60⟩)),
  (.quiet "l2", .command "a1" (.createLesson
    ⟨.absent, .given "g1", .absent, "2026-03-01T10:00:00.000Z", 45⟩)),
  (.quiet "l3", .command "t1" (.createLesson
    ⟨.given "k3", .absent, .given "m1", "2026-03-01T10:00:00.000Z", 30⟩)),
  (.quiet "l4", .command "a1" (.createLesson
    ⟨.given "k2", .absent, .absent, "2026-03-01T10:00:00.000Z", 90⟩)),
  (.quiet "", .command "a1" (.updateLessonStatus "l1" .completed)),
  (.quiet "", .command "a1" (.updateLessonStatus "l2" .completed)),
  (.quiet "", .command "t1" (.updateLessonStatus "l3" .completed))]

/-- Kim, Lee and Max were taught; Lee's own lesson was not, but the group's was. -/
theorem day_counts_taught : ∃ report,
    ReportsService.summary .oneDay foxAdmin (Outside.quiet "").draw dayReport busyDay.db =
      .ok report ∧
    report.studentsTaught = 3 ∧ report.minutesTaught = 135 ∧
    (∃ lesson ∈ busyDay.db.lessons.rows, lesson.status = .scheduled) ∧
    ∃ covered, tutorScope foxAdmin none "Only an admin can report on another tutor" = .ok covered ∧
      let covers := ReportsService.inScope "s1" covered report.fromDate report.toDate
      report.studentsTaught = (busyDay.db.studentsIn (completedIn covers)).ncard ↔
        ∀ lesson ∈ busyDay.db.lessons.rows, covers lesson = true → lesson.status ≠ .completed →
          ∀ studentId, busyDay.db.Attends lesson studentId → ∃ other ∈ busyDay.db.lessons.rows,
            covers other = true ∧ other.status = .completed ∧
              busyDay.db.Attends other studentId := by
  have counted : (ReportsService.summary .oneDay foxAdmin (Outside.quiet "").draw dayReport
      busyDay.db).map (fun report => (report.studentsTaught, report.minutesTaught)) =
        .ok (3, 135) := by decide +kernel
  obtain ⟨report, given, figures⟩ := map_ok.mp counted
  rw [Prod.mk.injEq] at figures
  exact ⟨report, given, figures.1, figures.2, by decide +kernel, students_taught_iff given⟩

/-- A lesson nobody has taught yet. -/
def plannedDay : World := World.empty.after .oneDay [
  foxSchool,
  (.quiet "m1", .command "a1" (.createSubject "Maths")),
  enrol "a1" "k1" "Kim",
  (.quiet "l1", .command "a1" (.createLesson
    ⟨.given "k1", .absent, .given "m1", "2026-03-01T10:00:00.000Z", 60⟩))]

/-- Its student is reported as taught. -/
theorem planned_student_counted : Reachable .oneDay plannedDay ∧ ∃ report,
    ReportsService.summary .oneDay foxAdmin (Outside.quiet "").draw dayReport plannedDay.db =
      .ok report ∧
    tutorScope foxAdmin none "Only an admin can report on another tutor" = .ok none ∧
    report.studentsTaught = 1 ∧ report.minutesTaught = 0 ∧
    (plannedDay.db.studentsIn (completedIn
      (ReportsService.inScope "s1" none report.fromDate report.toDate))).ncard = 0 := by
  refine ⟨.after .oneDay .refl _, ?_⟩
  have counted : (ReportsService.summary .oneDay foxAdmin (Outside.quiet "").draw dayReport
      plannedDay.db).map (fun report => (report.studentsTaught, report.minutesTaught)) =
        .ok (1, 0) := by decide +kernel
  obtain ⟨report, given, figures⟩ := map_ok.mp counted
  rw [Prod.mk.injEq] at figures
  have planned : ∀ lesson ∈ plannedDay.db.lessons.rows, lesson.status ≠ .completed := by decide
  refine ⟨report, given, rfl, figures.1, figures.2, ?_⟩
  rw [Set.ncard_eq_zero (Db.finite_studentsIn _), Set.eq_empty_iff_forall_notMem]
  rintro studentId ⟨lesson, member, counts, -⟩
  rw [completedIn, Bool.and_eq_true, beq_iff_eq] at counts
  exact planned lesson member counts.2

end TutorApp
