import TutorApp.RelationalTable
import TutorApp.Js

set_option autoImplicit false

namespace TutorApp

open Relational
open Js (Instant Json)

abbrev Id := String

inductive UserRole where
  | tutor
  | admin
  deriving Repr, DecidableEq

inductive LessonStatus where
  | scheduled
  | completed
  | cancelled
  deriving Repr, DecidableEq

inductive MeetingProvider where
  | zoom
  | googleMeet
  | jitsi
  deriving Repr, DecidableEq

inductive AttendanceStatus where
  | present
  | late
  | absentExcused
  | absentUnexcused
  deriving Repr, DecidableEq

inductive GradeKind where
  | classic
  | percentage
  | descriptive
  deriving Repr, DecidableEq

inductive NotificationKind where
  | adminAnnouncement
  | tutorJoined
  | paymentRunningOut
  deriving Repr, DecidableEq

inductive FilePurpose where
  | avatar
  | schoolLogo
  | lessonAttachment
  | studentAttachment
  | tutorLibrary
  | other
  deriving Repr, DecidableEq

inductive AddonKey where
  | inviteTutors
  | broadcastAnnouncements
  | manageStudents
  deriving Repr, DecidableEq

/-- `Object.values(AddonKey)`. -/
def AddonKey.values : List AddonKey := [inviteTutors, broadcastAnnouncements, manageStudents]

structure School where
  id : Id
  name : String
  slug : String
  timezone : String
  gradeScaleMax : Int
  deriving Repr, DecidableEq

structure User where
  id : Id
  email : String
  passwordHash : String
  name : String
  role : UserRole
  schoolId : Id
  config : Json
  deriving DecidableEq

/-- A credential for a provider; both tokens are stored encrypted. -/
structure MeetingAccount where
  id : Id
  provider : MeetingProvider
  userId : Id
  refreshToken : String
  accessToken : Option String
  accessTokenExpiresAt : Option Instant
  accountLabel : Option String
  createdAt : Instant
  deriving Repr, DecidableEq

structure Subject where
  id : Id
  name : String
  hiddenAt : Option Instant
  schoolId : Id
  deriving Repr, DecidableEq

structure Student where
  id : Id
  name : String
  paidLessonsLeft : Int
  schoolId : Id
  tutorId : Id
  subjectId : Option Id
  deriving Repr, DecidableEq

structure Group where
  id : Id
  name : String
  level : Option String
  schoolId : Id
  tutorId : Id
  subjectId : Option Id
  deriving Repr, DecidableEq

structure GroupMember where
  groupId : Id
  studentId : Id
  deriving Repr, DecidableEq

structure Lesson where
  id : Id
  startsAt : Instant
  durationMinutes : Int
  status : LessonStatus
  schoolId : Id
  tutorId : Id
  subjectId : Option Id
  studentId : Option Id
  groupId : Option Id
  topic : Option String
  homework : Option String
  meetingUrl : Option String
  meetingProvider : Option MeetingProvider
  deriving Repr, DecidableEq

structure LessonAttendance where
  lessonId : Id
  studentId : Id
  status : AttendanceStatus
  homeworkDone : Option Bool
  deriving Repr, DecidableEq

structure Note where
  id : Id
  text : String
  createdAt : Instant
  authorId : Id
  studentId : Option Id
  lessonId : Option Id
  deriving Repr, DecidableEq

structure Grade where
  id : Id
  kind : GradeKind
  value : Option ℚ
  category : Option String
  comment : Option String
  weight : Int
  createdAt : Instant
  studentId : Id
  lessonId : Option Id
  authorId : Id
  deriving Repr, DecidableEq

structure File where
  id : Id
  storageKey : String
  originalName : String
  mimeType : String
  sizeBytes : Nat
  purpose : FilePurpose
  uploadedAt : Option Instant
  createdAt : Instant
  schoolId : Id
  uploadedById : Id
  studentId : Option Id
  lessonId : Option Id
  deriving Repr, DecidableEq

structure Invitation where
  id : Id
  email : String
  token : String
  role : UserRole
  expiresAt : Instant
  acceptedAt : Option Instant
  createdAt : Instant
  schoolId : Id
  invitedById : Id
  deriving Repr, DecidableEq

structure UserAddon where
  userId : Id
  addon : AddonKey
  enabledById : Option Id
  deriving Repr, DecidableEq

/-- The interpolation values of `data` that the modelled senders fill in. -/
structure Notification where
  kind : NotificationKind
  personName : String
  text : Option String
  recipientId : Id
  createdAt : Instant
  deriving Repr, DecidableEq

instance : Keyed School Id := ⟨School.id⟩
instance : Keyed User Id := ⟨User.id⟩
instance : Keyed MeetingAccount Id := ⟨MeetingAccount.id⟩
instance : Keyed Subject Id := ⟨Subject.id⟩
instance : Keyed Student Id := ⟨Student.id⟩
instance : Keyed Group Id := ⟨Group.id⟩
instance : Keyed GroupMember (Id × Id) := ⟨fun member => (member.groupId, member.studentId)⟩
instance : Keyed Lesson Id := ⟨Lesson.id⟩
instance : Keyed LessonAttendance (Id × Id) := ⟨fun row => (row.lessonId, row.studentId)⟩
instance : Keyed Note Id := ⟨Note.id⟩
instance : Keyed Grade Id := ⟨Grade.id⟩
instance : Keyed File Id := ⟨File.id⟩
instance : Keyed Invitation Id := ⟨Invitation.id⟩
instance : Keyed UserAddon (Id × AddonKey) := ⟨fun row => (row.userId, row.addon)⟩

/-- The tables of `schema.prisma` that the services below read or write. A join row is
keyed by its unique pair, since nothing reads its generated id. -/
structure Db where
  schools : Table School
  users : Table User
  subjects : Table Subject
  students : Table Student
  groups : Table Group
  members : Table GroupMember
  lessons : Table Lesson
  attendances : Table LessonAttendance
  notes : Table Note
  grades : Table Grade
  files : Table File
  invitations : Table Invitation
  addons : Table UserAddon
  meetingAccounts : Table MeetingAccount
  notifications : List Notification
  deriving DecidableEq

def Db.empty : Db :=
  ⟨.empty, .empty, .empty, .empty, .empty, .empty, .empty, .empty, .empty, .empty, .empty,
    .empty, .empty, .empty, []⟩

namespace Db

def schoolOfUser (db : Db) (id : Id) : Option Id := (db.users.find id).map User.schoolId
def schoolOfSubject (db : Db) (id : Id) : Option Id := (db.subjects.find id).map Subject.schoolId
def schoolOfStudent (db : Db) (id : Id) : Option Id := (db.students.find id).map Student.schoolId
def schoolOfGroup (db : Db) (id : Id) : Option Id := (db.groups.find id).map Group.schoolId
def schoolOfLesson (db : Db) (id : Id) : Option Id := (db.lessons.find id).map Lesson.schoolId

/-- A grade belongs to its student's school. -/
def schoolOfGrade (db : Db) (grade : Grade) : Option Id := db.schoolOfStudent grade.studentId

/-- A note belongs to the school of whichever parent it has. -/
def schoolOfNote (db : Db) (note : Note) : Option Id :=
  match note.studentId, note.lessonId with
  | some student, _ => db.schoolOfStudent student
  | none, some lesson => db.schoolOfLesson lesson
  | none, none => none

end Db

end TutorApp
