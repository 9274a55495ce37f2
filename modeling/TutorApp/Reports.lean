import TutorApp.Lessons
import TutorApp.Progress

set_option autoImplicit false

namespace TutorApp

open Relational
open Js (Instant)

structure ReportQueryDto where
  fromDate : Option String
  toDate : Option String
  tutorId : Option Id
  deriving Repr, DecidableEq

structure DebtorQueryDto where
  tutorId : Option Id
  atOrBelow : Option Int
  deriving Repr, DecidableEq

/-- Work done, grouped by whatever it was grouped by. -/
structure ReportBreakdown where
  id : Option Id
  name : Option String
  lessons : Nat
  minutes : Int
  deriving Repr, DecidableEq

structure ReportLessons where
  total : Nat
  completed : Nat
  cancelled : Nat
  scheduled : Nat
  unwritten : Nat
  deriving Repr, DecidableEq

structure Report where
  fromDate : Instant
  toDate : Instant
  tutorId : Option Id
  lessons : ReportLessons
  minutesTaught : Int
  studentsTaught : Nat
  attendance : AttendanceSummary
  grades : GradeSummary
  bySubject : List ReportBreakdown
  byTutor : Option (List ReportBreakdown)
  deriving Repr, DecidableEq

structure Debtor where
  studentId : Id
  name : String
  tutorId : Id
  tutorName : Option String
  paidLessonsLeft : Int
  lessonsOwed : Int
  lessonsBooked : Nat
  lastTaughtAt : Option Instant
  deriving Repr, DecidableEq

/-- Whose rows a report covers: one tutor's, or `none` for the school's. -/
def tutorScope (user : User) (asked : Option Id) (refusal : String) : Service (Option Id) :=
  if user.isAdmin then .ok asked
  else do
    require (asked.all fun id => id == user.id) (.forbidden refusal)
    return some user.id

namespace ReportsService

def defaultWindowDays : Int := 30
def maxWindowDays : Int := 400
def maxBreakdownRows : Nat := 20

/-- Why a window is refused; a comparison with an invalid date is false. -/
def windowProblem : Option Instant → Option Instant → Option HttpError
  | some start, some stop =>
      if stop ≤ start then some (.badRequest "The window has to start before it ends")
      else if maxWindowDays * LessonsService.dayMs < stop - start then
        some (.badRequest "A report can cover at most 400 days")
      else none
  | _, _ => none

/-- Defaults backwards from the end. -/
def window (platform : Platform) (draw : Draw) (query : ReportQueryDto) :
    Service (Option Instant × Option Instant) := do
  let toDate := match query.toDate with
    | some text => platform.parseDate text
    | none => some draw.now
  let fromDate := match query.fromDate with
    | some text => platform.parseDate text
    | none => toDate.bind fun stop => Js.dateOfMs (stop - defaultWindowDays * LessonsService.dayMs)
  refuse (windowProblem fromDate toDate)
  return (fromDate, toDate)

/-- Adds a lesson to the row of its key, which keeps the place it first had. -/
def addToBreakdown (id : Option Id) (name : Option String) (minutes : Int) :
    List ReportBreakdown → List ReportBreakdown
  | [] => [⟨id, name, 1, minutes⟩]
  | row :: rest =>
      if row.id.getD "" = id.getD "" then
        { row with lessons := row.lessons + 1, minutes := row.minutes + minutes } :: rest
      else row :: addToBreakdown id name minutes rest

/-- Counts and minutes per key, busiest first; the tail is dropped. -/
def breakdown (lessons : List Lesson) (keyOf : Lesson → Option Id × Option String) :
    List ReportBreakdown :=
  let rows := lessons.foldl (fun rows lesson =>
    addToBreakdown (keyOf lesson).1 (keyOf lesson).2 lesson.durationMinutes rows) []
  let sorted := rows.insertionSort fun left right =>
    right.minutes < left.minutes ∨ (right.minutes = left.minutes ∧ right.lessons ≤ left.lessons)
  sorted.take maxBreakdownRows

/-- The lessons of a scope and window. -/
def inScope (schoolId : Id) (tutorId : Option Id) (start stop : Instant) (row : Lesson) : Bool :=
  row.schoolId == schoolId && tutorId.all (fun id => row.tutorId == id) &&
    start ≤ row.startsAt && row.startsAt < stop

/-- Everybody the lessons are for, by current membership. -/
def countStudentsTaught (lessons : List Lesson) (db : Db) : Nat :=
  let students := lessons.filterMap Lesson.studentId
  let groups := lessons.filterMap Lesson.groupId
  let members := (db.members.select fun row => groups.contains row.groupId).map GroupMember.studentId
  (students ++ members).dedup.length

def tutorBreakdown (user : User) (lessons : List Lesson) (db : Db) : List ReportBreakdown :=
  let names := db.users.restrict fun row => row.schoolId == user.schoolId
  breakdown lessons fun lesson =>
    (some lesson.tutorId, (names.find lesson.tutorId).map User.name)

def summary (platform : Platform) (user : User) (draw : Draw) (query : ReportQueryDto) (db : Db) :
    Service Report := do
  let (fromDate, toDate) ← window platform draw query
  let tutorId ← tutorScope user query.tutorId "Only an admin can report on another tutor"
  let start ← timestampColumn fromDate
  let stop ← timestampColumn toDate
  let covers := inScope user.schoolId tutorId start stop
  let lessons := db.lessons.select covers
  let attendances := db.attendances.select fun row => (db.lessons.find row.lessonId).any covers
  let grades := db.grades.select fun row =>
    db.schoolOfGrade row == some user.schoolId && tutorId.all (fun id => row.authorId == id) &&
      start ≤ row.createdAt && row.createdAt < stop
  let withStatus := fun status => lessons.filter fun row => row.status == status
  let completed := withStatus .completed
  let unwritten := completed.filter fun lesson =>
    (db.attendances.select fun row => row.lessonId == lesson.id).length == 0
  return {
    fromDate := start
    toDate := stop
    tutorId
    lessons := ⟨lessons.length, completed.length, (withStatus .cancelled).length,
      (withStatus .scheduled).length, unwritten.length⟩
    minutesTaught := (completed.map Lesson.durationMinutes).sum
    studentsTaught := countStudentsTaught lessons db
    attendance := summariseAttendance (attendances.map LessonAttendance.status)
    grades := summariseGrades (grades.map fun row => ⟨row.kind, row.value, row.weight⟩)
    bySubject := breakdown completed fun lesson =>
      (lesson.subjectId, (db.subjectRef lesson.subjectId).map SubjectRef.name)
    byTutor := if tutorId.isNone then some (tutorBreakdown user completed db) else none }

end ReportsService

namespace DebtorsService

def defaultAtOrBelow : Int := 0

/-- Scheduled lessons still to come per student, group lessons counting for everybody in
the room. -/
def bookedPerStudent (ids : List Id) (now : Instant) (db : Db) (studentId : Id) : Nat :=
  let upcoming := db.lessons.select fun row => row.status == .scheduled && now ≤ row.startsAt
  let own := upcoming.filter fun row => row.studentId == some studentId && ids.contains studentId
  let inGroups := upcoming.filter fun row => row.groupId.any fun group =>
    db.members.rows.any fun member => member.groupId == group && ids.contains member.studentId
  let present := inGroups.flatMap fun row =>
    (db.members.select fun member => row.groupId == some member.groupId).map GroupMember.studentId
  own.length + (present.filter fun id => ids.contains id && id == studentId).length

/-- The start of the latest lesson a student has a register row for. -/
def lastTaughtPerStudent (ids : List Id) (db : Db) (studentId : Id) : Option Instant :=
  let rows := (db.attendances.select fun row => ids.contains row.studentId).filterMap fun row =>
    (db.lessons.find row.lessonId).map fun lesson => (row.studentId, lesson.startsAt)
  ((sortByTimeDesc Prod.snd rows).find? fun row => row.1 == studentId).map Prod.snd

/-- Deepest in debt first, then whoever has most booked, then by name. -/
def byUrgency (platform : Platform) (left right : Debtor) : Int :=
  if right.lessonsOwed - left.lessonsOwed ≠ 0 then right.lessonsOwed - left.lessonsOwed
  else if (right.lessonsBooked : Int) - left.lessonsBooked ≠ 0 then
    (right.lessonsBooked : Int) - left.lessonsBooked
  else platform.localeCompare left.name right.name

/-- The line of one student; a date that reads back invalid makes printing it throw. -/
def debtorOf (ids : List Id) (now : Instant) (db : Db) (student : Student) : Service Debtor := do
  let lastTaughtAt ← isoOrNull (lastTaughtPerStudent ids db student.id)
  return {
    studentId := student.id
    name := student.name
    tutorId := student.tutorId
    tutorName := (db.users.find student.tutorId).map User.name
    paidLessonsLeft := student.paidLessonsLeft
    lessonsOwed := max 0 (-student.paidLessonsLeft)
    lessonsBooked := bookedPerStudent ids now db student.id
    lastTaughtAt }

/-- The lines are made for every student covered, also for those the filter then leaves out. -/
def list (platform : Platform) (user : User) (draw : Draw) (query : DebtorQueryDto) (db : Db) :
    Service (List Debtor) := do
  let tutorId ← tutorScope user query.tutorId "Only an admin can ask about another tutor"
  let atOrBelow := query.atOrBelow.getD defaultAtOrBelow
  let students := db.students.select fun row =>
    row.schoolId == user.schoolId && tutorId.all (fun id => row.tutorId == id) &&
      row.paidLessonsLeft ≤ atOrBelow
  let ids := students.map Student.id
  let rows ← students.mapM (debtorOf ids draw.now db)
  let listed := rows.filter fun row => 0 < row.lessonsOwed || 0 < row.lessonsBooked
  return listed.insertionSort fun left right => byUrgency platform left right ≤ 0

end DebtorsService

end TutorApp
