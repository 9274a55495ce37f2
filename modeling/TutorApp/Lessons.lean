import TutorApp.Groups
import TutorApp.MeetingAccounts

set_option autoImplicit false

namespace TutorApp

open Relational
open Js (Instant)

structure GroupAttendees where
  id : Id
  name : String
  subject : Option SubjectRef
  level : Option String
  members : List NamedRef
  deriving Repr, DecidableEq

/-- The lesson every endpoint returns: who it is for, and what it teaches. -/
structure LessonView where
  lesson : Lesson
  subject : Option SubjectRef
  student : Option NamedRef
  group : Option GroupAttendees
  deriving Repr, DecidableEq

/-- A lesson on a student's own page. -/
structure StudentLessonView where
  view : LessonView
  noteCount : Nat
  attendances : List LessonAttendance
  deriving Repr, DecidableEq

/-- `WITH_ATTENDEES`. -/
def Db.lessonView (db : Db) (platform : Platform) (lesson : Lesson) : LessonView where
  lesson := lesson
  subject := db.subjectRef lesson.subjectId
  student := (lesson.studentId.bind db.students.find).map fun row => ⟨row.id, row.name⟩
  group := (lesson.groupId.bind db.groups.find).map fun row =>
    { id := row.id
      name := row.name
      subject := db.subjectRef row.subjectId
      level := row.level
      members := (db.membersOf platform row.id).map fun student => ⟨student.id, student.name⟩ }

/-- Whether a student is in a group now. -/
def Db.isMember (db : Db) (groupId studentId : Id) : Bool :=
  (db.members.find (groupId, studentId)).isSome

structure CreateLessonDto where
  studentId : Js.Field Id
  groupId : Js.Field Id
  subjectId : Js.Field Id
  startsAt : String
  durationMinutes : Int
  deriving Repr, DecidableEq

structure ListLessonsQueryDto where
  fromDate : Option String
  toDate : Option String
  tutorIds : Option String
  deriving Repr, DecidableEq

namespace LessonsService

def dayMs : Int := 86400000
def defaultWindowDays : Int := 30
def maxWindowDays : Int := 400
def maxTutorFilters : Nat := 50

/-- Why a window is refused; a comparison with an invalid date is false. -/
def windowProblem : Option Instant → Option Instant → Option HttpError
  | some start, some stop =>
      if stop ≤ start then some (.badRequest "The window must end after it starts")
      else if maxWindowDays * dayMs < stop - start then
        some (.badRequest "A calendar window cannot be longer than 400 days")
      else none
  | _, _ => none

/-- The calendars asked for, blanks dropped. -/
def requestedTutors (tutorIds : Option String) : Option (List Id) :=
  tutorIds.map fun text => ((Js.split ',' text).map Js.trim).filter fun id => id != ""

/-- The students a lesson is for: the one it names, or whoever is in its group now. -/
def studentIdsFor (lessonId : Id) (db : Db) : List Id :=
  match db.lessons.find lessonId with
  | none => []
  | some lesson =>
      match lesson.studentId, lesson.groupId with
      | some studentId, _ => [studentId]
      | none, some groupId =>
          (db.members.select fun row => row.groupId == groupId).map GroupMember.studentId
      | none, none => []

section

variable (platform : Platform) (user : User)

/-- The calendar's condition: the tutors asked for, or what the caller sees by default. -/
def inWindow (tutors : Option (List Id)) (start stop : Instant) (row : Lesson) : Bool :=
  row.schoolId == user.schoolId && start ≤ row.startsAt && row.startsAt < stop &&
    match tutors with
    | some (first :: rest) => (first :: rest).contains row.tutorId
    | _ => user.isAdmin || row.tutorId == user.id

def listed (keep : Lesson → Bool) (db : Db) : List LessonView :=
  (sortByTime Lesson.startsAt (db.lessons.select keep)).map (db.lessonView platform)

def findInRange (draw : Draw) (query : ListLessonsQueryDto) (db : Db) :
    Service (List LessonView) := do
  let fromDate := match query.fromDate with
    | some text => platform.parseDate text
    | none => some (platform.startOfDay draw.now)
  let toDate := match query.toDate with
    | some text => platform.parseDate text
    | none => fromDate.bind fun start => Js.dateOfMs (start + defaultWindowDays * dayMs)
  let tutors := requestedTutors query.tutorIds
  refuse (windowProblem fromDate toDate)
  require (tutors.all fun ids => ids.length ≤ maxTutorFilters)
    (.badRequest "A request cannot ask for more than 50 calendars")
  let start ← timestampColumn fromDate
  let stop ← timestampColumn toDate
  return listed platform (inWindow user tutors start stop) db

/-- Includes the lessons of every group the student is in now. -/
def findForStudent (studentId : Id) (limit : Nat) (db : Db) : Service (List StudentLessonView) := do
  let student ← StudentsService.findOne user studentId db
  let lessons := sortByTimeDesc Lesson.startsAt (db.lessons.select fun row =>
    row.studentId == some student.id || row.groupId.any fun group => db.isMember group student.id)
  return (lessons.take limit).map fun row =>
    { view := db.lessonView platform row
      noteCount := (db.notes.select fun note => note.lessonId == some row.id).length
      attendances := db.attendances.select fun mark =>
        mark.lessonId == row.id && mark.studentId == student.id }

/-- The single answer to whether this caller may touch a lesson. -/
def findReachable (id : Id) (db : Db) : Service Lesson :=
  orNotFound ((db.lessons.find id).filter fun row => user.owns row.schoolId row.tutorId)
    "Lesson not found"

theorem findReachable_ok {id : Id} {db : Db} {lesson : Lesson} :
    findReachable user id db = .ok lesson ↔
      db.lessons.find id = some lesson ∧ user.owns lesson.schoolId lesson.tutorId = true := by
  rw [findReachable, orNotFound_ok, Option.filter_eq_some_iff]

/-- What hangs off a student, if it does, is reachable when the student is. -/
def reachesStudent (studentId : Option Id) (db : Db) : Service Unit :=
  match studentId with
  | none => .ok ()
  | some id => do
      let _ ← StudentsService.findOne user id db
      return ()

def reachesLesson (lessonId : Option Id) (db : Db) : Service Unit :=
  match lessonId with
  | none => .ok ()
  | some id => do
      let _ ← findReachable user id db
      return ()

/-- What the meeting is called on the provider's side: the subject, never the student. -/
def topicFor (subjectId : Option Id) (db : Db) : String :=
  let subject := (subjectId.bind db.subjects.find).filter fun row => row.schoolId == user.schoolId
  (subject.map Subject.name).getD "Lesson"

/-- The room a lesson being booked gets: one made at a connected provider, or the one the
tutor's settings name. -/
def meetingFor (draw : Draw) (endpoints : Endpoints) (subjectId : Option Id)
    (startsAt : Option Instant) (durationMinutes : Int) (db : Db) :
    Attempt (Option (MeetingProvider × String)) :=
  match (parseUserConfig platform user.config).meeting with
  | none => ⟨.ok none, db, []⟩
  | some settings =>
      let created := MeetingAccountsService.createRoom platform user draw endpoints
        settings.provider ⟨topicFor user subjectId db, startsAt, durationMinutes⟩ db
      let meeting := created.result.map fun url =>
        match url with
        | some url => some (settings.provider, url)
        | none => meetingLinkFor platform (some settings) draw.random
      ⟨meeting, created.db, created.calls⟩

theorem meetingFor_db (draw : Draw) (endpoints : Endpoints) (subjectId : Option Id)
    (startsAt : Option Instant) (durationMinutes : Int) (db : Db) : ∃ meetingAccounts,
      (meetingFor platform user draw endpoints subjectId startsAt durationMinutes db).db =
        { db with meetingAccounts } := by
  unfold meetingFor
  split
  · exact ⟨_, rfl⟩
  · exact MeetingAccountsService.createRoom_db platform user draw endpoints _ _ db

/-- The student or group a booking names, as the caller may book for it. -/
def bookingTarget (dto : CreateLessonDto) (db : Db) : Service (Option Id × Option Id) :=
  if dto.groupId.isAbsent then do
    let studentId ← queryId dto.studentId
    let student ← StudentsService.findOne user studentId db
    return (some student.id, none)
  else do
    let groupId ← queryId dto.groupId
    let group ← GroupsService.findOne user groupId db
    return (none, some group.id)

/-- The insert at the end of a booking, for a target that was looked up. -/
def insertLesson (draw : Draw) (dto : CreateLessonDto) (subjectId : Option Id)
    (meeting : Option (MeetingProvider × String)) (target : Option Id × Option Id) (db : Db) :
    Service (LessonView × Db) := do
  let (studentId, groupId) := target
  let startsAt ← timestampColumn (platform.parseDate dto.startsAt)
  let row : Lesson := {
    id := draw.id
    startsAt
    durationMinutes := dto.durationMinutes
    status := .scheduled
    schoolId := user.schoolId
    tutorId := user.id
    subjectId
    studentId
    groupId
    topic := none
    homework := none
    meetingUrl := meeting.map Prod.snd
    meetingProvider := meeting.map Prod.fst }
  let db ← db.createLesson row
  return (db.lessonView platform row, db)

/-- What is left of a booking once its room is settled. -/
def storeLesson (draw : Draw) (dto : CreateLessonDto) (subjectId : Option Id)
    (meeting : Option (MeetingProvider × String)) (db : Db) : Service (LessonView × Db) := do
  let target ← bookingTarget user dto db
  insertLesson platform user draw dto subjectId meeting target db

/-- The checks of a booking ahead of its room. -/
def checkBooking (dto : CreateLessonDto) (db : Db) : Service (Option Id) := do
  require (dto.studentId.isAbsent != dto.groupId.isAbsent)
    (.badRequest "A lesson is for exactly one student or one group")
  SubjectsService.resolve user dto.subjectId.toOption none db

/-- Always onto the caller's own calendar. The room is arranged before the student or the
group is looked at, so what that did stays done when the booking is refused. -/
def create (draw : Draw) (endpoints : Endpoints) (dto : CreateLessonDto) (db : Db) :
    Attempt LessonView :=
  match checkBooking user dto db with
  | .error reason => ⟨.error reason, db, []⟩
  | .ok subjectId =>
      let meeting := meetingFor platform user draw endpoints subjectId
        (platform.parseDate dto.startsAt) dto.durationMinutes db
      match meeting.result with
      | .error reason => ⟨.error reason, meeting.db, meeting.calls⟩
      | .ok link =>
          match storeLesson platform user draw dto subjectId link meeting.db with
          | .error reason => ⟨.error reason, meeting.db, meeting.calls⟩
          | .ok (view, next) => ⟨.ok view, next, meeting.calls⟩

/-- Moves nobody's balance: charging follows attendance. -/
def updateStatus (id : Id) (status : LessonStatus) (db : Db) : Service (LessonView × Db) := do
  let lesson ← findReachable user id db
  let patch : Db.LessonPatch := ⟨none, none, some status⟩
  let db ← db.updateLesson lesson.id patch
  return (db.lessonView platform (patch.apply lesson), db)

end

section

variable {platform : Platform} {user : User} {draw : Draw} {id : Id} {db next : Db}
  {view : LessonView}

theorem storeLesson_ok {dto : CreateLessonDto} {subjectId : Option Id}
    {meeting : Option (MeetingProvider × String)} :
    storeLesson platform user draw dto subjectId meeting db = .ok (view, next) ↔
      ∃ target, bookingTarget user dto db = .ok target ∧
        ∃ startsAt, timestampColumn (platform.parseDate dto.startsAt) = .ok startsAt ∧
          ∃ row : Lesson, row = {
              id := draw.id
              startsAt
              durationMinutes := dto.durationMinutes
              status := .scheduled
              schoolId := user.schoolId
              tutorId := user.id
              subjectId
              studentId := target.1
              groupId := target.2
              topic := none
              homework := none
              meetingUrl := meeting.map Prod.snd
              meetingProvider := meeting.map Prod.fst } ∧
            db.createLesson row = .ok next ∧ next.lessonView platform row = view := by
  simp only [storeLesson, insertLesson, bind_ok, pure_ok, Prod.mk.injEq, exists_eq_right_right,
    exists_eq_left]

theorem updateStatus_ok {status : LessonStatus} :
    updateStatus platform user id status db = .ok (view, next) ↔
      ∃ lesson, findReachable user id db = .ok lesson ∧
        db.updateLesson lesson.id ⟨none, none, some status⟩ = .ok next ∧
          next.lessonView platform (Db.LessonPatch.apply ⟨none, none, some status⟩ lesson) =
            view := by
  simp only [updateStatus, bind_ok, pure_ok, Prod.mk.injEq, exists_eq_right_right]

end

end LessonsService

end TutorApp
