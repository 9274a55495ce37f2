import TutorApp.Files
import TutorApp.Invitations
import TutorApp.Reports
import Mathlib.Logic.Relation

set_option autoImplicit false

namespace TutorApp

open Relational

/-- What one request meets outside the database: what it draws, how the providers answer,
and whether the storage driver stores what it is given. -/
structure Outside where
  draw : Draw
  endpoints : Endpoints
  saves : Bool

/-- The reads of a signed-in user. -/
inductive Query where
  | listSubjects (includeHidden : Bool)
  | subjectUsage (id : Id)
  | listStudents
  | showStudent (id : Id)
  | listGroups
  | showGroup (id : Id)
  | lessonsInRange (query : ListLessonsQueryDto)
  | lessonsForStudent (studentId : Id) (limit : Nat)
  | register (lessonId : Id)
  | gradesForStudent (studentId : Id)
  | gradesForLesson (lessonId : Id)
  | progress (studentId : Id)
  | notesForStudent (studentId : Id)
  | notesForLesson (lessonId : Id)
  | filesForStudent (studentId : Id)
  | filesForLesson (lessonId : Id)
  | ownLibrary
  | capabilities
  | capabilityMap
  | currentSchool
  | listTutors
  | listInvitations
  | config
  | connections
  | report (query : ReportQueryDto)
  | debtors (query : DebtorQueryDto)

/-- The writes of a signed-in user. -/
inductive Command where
  | createSubject (name : String)
  | renameSubject (id : Id) (name : String)
  | hideSubject (id : Id)
  | restoreSubject (id : Id)
  | createStudent (dto : CreateStudentDto)
  | updateStudent (id : Id) (dto : UpdateStudentDto)
  | removeStudent (id : Id)
  | createGroup (dto : CreateGroupDto)
  | updateGroup (id : Id) (dto : UpdateGroupDto)
  | removeGroup (id : Id)
  | addMember (groupId studentId : Id)
  | removeMember (groupId studentId : Id)
  | createLesson (dto : CreateLessonDto)
  | updateLessonStatus (id : Id) (status : LessonStatus)
  | writeJournal (lessonId : Id) (dto : WriteJournalDto)
  | addGradeForStudent (studentId : Id) (dto : WriteGradeDto)
  | addGradeForLesson (lessonId : Id) (dto : WriteGradeDto)
  | updateGrade (id : Id) (dto : WriteGradeDto)
  | removeGrade (id : Id)
  | addNoteForStudent (studentId : Id) (text : String)
  | addNoteForLesson (lessonId : Id) (text : String)
  | removeNote (id : Id)
  | uploadForStudent (studentId : Id) (incoming : IncomingFile)
  | uploadToLibrary (incoming : IncomingFile)
  | uploadForLesson (lessonId : Id) (incoming : IncomingFile)
  | openFile (id : Id)
  | removeFile (id : Id)
  | setAddons (userId : Id) (addons : List AddonKey)
  | updateSchool (dto : UpdateSchoolDto)
  | createTutor (dto : CreateTutorDto)
  | invite (email : String)
  | revokeInvitation (id : Id)
  | updateConfig (input : UserConfigInput)
  | disconnect (provider : MeetingProvider)

/-- The calls nobody has to be signed in for. -/
inductive PublicCall where
  | registerSchool (dto : RegisterSchoolDto)
  | describeInvitation (token : String)
  | acceptInvitation (token name : String)
  | completeConnection (provider : MeetingProvider) (code state : String)

/-- What a call answers with. -/
inductive Response where
  | done
  | subject (subject : Subject)
  | subjects (subjects : List Subject)
  | usage (usage : SubjectUsage)
  | student (student : StudentView)
  | students (students : List StudentView)
  | group (group : GroupView)
  | groups (groups : List GroupView)
  | lesson (lesson : LessonView)
  | lessons (lessons : List LessonView)
  | studentLessons (lessons : List StudentLessonView)
  | journal (journal : JournalView)
  | register (entries : List RegisterEntry)
  | grade (grade : GradeWithAuthor)
  | grades (grades : List GradeWithAuthor)
  | progress (progress : ProgressSummary)
  | note (note : NoteWithAuthor)
  | notes (notes : List NoteWithAuthor)
  | file (file : File)
  | files (files : List File)
  | download (file : File) (bytes : List UInt8)
  | addons (addons : List AddonKey)
  | addonMap (addons : List (Id × List AddonKey))
  | school (school : School)
  | tutor (tutor : TutorFields)
  | tutors (tutors : List TutorView)
  | invitation (invitation : InvitationView)
  | invitations (invitations : List InvitationView)
  | description (description : InvitationDescription)
  | config (config : UserConfig)
  | connections (connections : List MeetingAccountsService.MeetingConnection)
  | report (report : Report)
  | debtors (debtors : List Debtor)
  | session (user : User)

/-- How a call ends: its answer, what it left behind, and what it asked of a provider. -/
structure Outcome where
  result : Service Response
  world : World
  calls : List ProviderCall

/-- A call whose only effect is on the database, and only when it succeeds. -/
def World.commit {α : Type} (world : World) (answer : α → Response) :
    Service (α × Db) → Outcome
  | .error reason => ⟨.error reason, world, []⟩
  | .ok (value, db) => ⟨.ok (answer value), { world with db }, []⟩

def World.commitUnit (world : World) : Service Db → Outcome
  | .error reason => ⟨.error reason, world, []⟩
  | .ok db => ⟨.ok .done, { world with db }, []⟩

/-- A call that may leave something behind even when it fails. -/
def World.conclude {α : Type} (world : World) (answer : α → Response) (attempt : Attempt α) :
    Outcome :=
  ⟨attempt.result.map answer, { world with db := attempt.db }, attempt.calls⟩

theorem World.commit_error {α : Type} {world : World} {answer : α → Response}
    {result : Service (α × Db)} {reason : HttpError}
    (failed : (world.commit answer result).result = .error reason) :
    (world.commit answer result).world = world := by
  cases result with
  | error _ => rfl
  | ok value => cases failed

theorem World.commit_ok {α : Type} {world : World} {answer : α → Response}
    {result : Service (α × Db)} {response : Response}
    (served : (world.commit answer result).result = .ok response) :
    ∃ value db, result = .ok (value, db) ∧
      (world.commit answer result).world = { world with db } := by
  cases result with
  | error _ => cases served
  | ok value => exact ⟨value.1, value.2, rfl, rfl⟩

/-- What holds before a call holds after it, where its success keeps it. -/
theorem World.commit_keeps {α : Type} {world : World} {answer : α → Response}
    {result : Service (α × Db)} (holds : Db → Prop) (before : holds world.db)
    (success : ∀ value db, result = .ok (value, db) → holds db) :
    holds (world.commit answer result).world.db := by
  cases result with
  | error _ => exact before
  | ok value => exact success value.1 value.2 rfl

theorem World.commitUnit_keeps {world : World} {result : Service Db} (holds : Db → Prop)
    (before : holds world.db) (success : ∀ db, result = .ok db → holds db) :
    holds (world.commitUnit result).world.db := by
  cases result with
  | error _ => exact before
  | ok db => exact success db rfl

def storedOutcome {α : Type} (answer : α → Response) (ended : Service α × World) : Outcome :=
  ⟨ended.1.map answer, ended.2, []⟩

section

variable (platform : Platform)

def Query.read (user : User) (draw : Draw) (query : Query) (db : Db) : Service Response :=
  match query with
  | listSubjects includeHidden =>
      .ok (.subjects (SubjectsService.list platform user includeHidden db))
  | subjectUsage id => (SubjectsService.usage platform user draw id db).map .usage
  | listStudents => .ok (.students (StudentsService.findVisible platform user db))
  | showStudent id =>
      (StudentsService.findOne user id db).map fun student => .student (db.studentView student)
  | listGroups => .ok (.groups (GroupsService.findVisible platform user db))
  | showGroup id => (GroupsService.detail platform user id db).map .group
  | lessonsInRange query => (LessonsService.findInRange platform user draw query db).map .lessons
  | lessonsForStudent studentId limit =>
      (LessonsService.findForStudent platform user studentId limit db).map .studentLessons
  | register lessonId => (GradebookService.registerFor platform user lessonId db).map .register
  | gradesForStudent studentId =>
      (GradebookService.listForStudent user studentId db).map .grades
  | gradesForLesson lessonId => (GradebookService.listForLesson user lessonId db).map .grades
  | progress studentId => (GradebookService.progressForStudent user studentId db).map .progress
  | notesForStudent studentId => (NotesService.listForStudent user studentId db).map .notes
  | notesForLesson lessonId => (NotesService.listForLesson user lessonId db).map .notes
  | filesForStudent studentId => (FilesService.listForStudent user studentId db).map .files
  | filesForLesson lessonId => (FilesService.listForLesson user lessonId db).map .files
  | ownLibrary => .ok (.files (FilesService.listOwnLibrary user db))
  | capabilities => .ok (.addons (AddonsService.resolveFor user db))
  | capabilityMap => .ok (.addonMap (AddonsService.mapForSchool user.schoolId db))
  | currentSchool => (SchoolsService.findCurrent user db).map .school
  | listTutors => .ok (.tutors (SchoolsService.listTutors platform user db))
  | listInvitations => .ok (.invitations (InvitationsService.list platform user draw db))
  | config => .ok (.config (UsersService.getConfig platform user))
  | connections => .ok (.connections (MeetingAccountsService.connectionsFor user db))
  | report query => (ReportsService.summary platform user draw query db).map .report
  | debtors query => (DebtorsService.list platform user draw query db).map .debtors

def Command.run (user : User) (outside : Outside) (command : Command) (world : World) : Outcome :=
  let draw := outside.draw
  let db := world.db
  match command with
  | createSubject name => world.commit .subject (SubjectsService.create platform user draw name db)
  | renameSubject id name => world.commit .subject (SubjectsService.rename platform user id name db)
  | hideSubject id => world.commit .subject (SubjectsService.hide platform user draw id db)
  | restoreSubject id => world.commit .subject (SubjectsService.restore user id db)
  | createStudent dto => world.commit .student (StudentsService.create user draw dto db)
  | updateStudent id dto => world.commit .student (StudentsService.update user id dto db)
  | removeStudent id => world.commitUnit (StudentsService.remove user id db)
  | createGroup dto => world.commit .group (GroupsService.create platform user draw dto db)
  | updateGroup id dto => world.commit .group (GroupsService.update platform user id dto db)
  | removeGroup id => world.commitUnit (GroupsService.remove user id db)
  | addMember groupId studentId =>
      world.commit .group (GroupsService.addMember platform user groupId studentId db)
  | removeMember groupId studentId =>
      world.commit .group (GroupsService.removeMember platform user groupId studentId db)
  | createLesson dto =>
      world.conclude .lesson (LessonsService.create platform user draw outside.endpoints dto db)
  | updateLessonStatus id status =>
      world.commit .lesson (LessonsService.updateStatus platform user id status db)
  | writeJournal lessonId dto =>
      world.commit .journal (GradebookService.writeJournal platform user lessonId dto db)
  | addGradeForStudent studentId dto =>
      world.commit .grade (GradebookService.addForStudent user draw studentId dto db)
  | addGradeForLesson lessonId dto =>
      world.commit .grade (GradebookService.addForLesson user draw lessonId dto db)
  | updateGrade id dto => world.commit .grade (GradebookService.update user id dto db)
  | removeGrade id => world.commitUnit (GradebookService.remove user id db)
  | addNoteForStudent studentId text =>
      world.commit .note (NotesService.addForStudent user draw studentId text db)
  | addNoteForLesson lessonId text =>
      world.commit .note (NotesService.addForLesson user draw lessonId text db)
  | removeNote id => world.commitUnit (NotesService.remove user id db)
  | uploadForStudent studentId incoming => storedOutcome .file
      (FilesService.uploadForStudent platform user draw outside.saves studentId incoming world)
  | uploadToLibrary incoming => storedOutcome .file
      (FilesService.uploadToLibrary platform user draw outside.saves incoming world)
  | uploadForLesson lessonId incoming => storedOutcome .file
      (FilesService.uploadForLesson platform user draw outside.saves lessonId incoming world)
  | openFile id => storedOutcome (fun opened => .download opened.1 opened.2)
      (FilesService.open_ user id world, world)
  | removeFile id => storedOutcome (fun _ => .done) (FilesService.remove user id world)
  | setAddons userId addons => world.commit .addons (AddonsService.setFor user userId addons db)
  | updateSchool dto => world.commit .school (SchoolsService.update user dto db)
  | createTutor dto => world.commit .tutor (SchoolsService.createTutor platform user draw dto db)
  | invite email =>
      world.commit .invitation (InvitationsService.invite platform user draw email db)
  | revokeInvitation id => world.commitUnit (InvitationsService.revoke user id db)
  | updateConfig input => world.commit .config (UsersService.updateConfig platform user input db)
  | disconnect provider => world.commitUnit (do
      let provider ← MeetingAccountsService.parse provider
      MeetingAccountsService.disconnect user provider db)

def PublicCall.run (outside : Outside) (call : PublicCall) (world : World) : Outcome :=
  let draw := outside.draw
  let db := world.db
  match call with
  | registerSchool dto => world.commit .session (SchoolsService.register platform draw dto db)
  | describeInvitation token =>
      ⟨(InvitationsService.describe draw token db).map .description, world, []⟩
  | acceptInvitation token name =>
      world.commit .session (InvitationsService.accept draw token name db)
  | completeConnection provider code state =>
      match MeetingAccountsService.parse provider with
      | .error reason => ⟨.error reason, world, []⟩
      | .ok provider => world.conclude (fun _ => .done) (MeetingAccountsService.completeConnection
          platform draw outside.endpoints provider code state db)

/-- A request as it reaches the service. No text in it holds U+0000, which no text column takes. -/
inductive Request where
  | query (userId : Id) (query : Query)
  | command (userId : Id) (command : Command)
  | anonymous (call : PublicCall)

/-- The caller is whoever the id of the session names now. -/
def Request.serve (outside : Outside) (request : Request) (world : World) : Outcome :=
  match request with
  | .query userId asked =>
      match world.db.users.find userId with
      | none => ⟨.error .unauthorized, world, []⟩
      | some user => ⟨asked.read platform user outside.draw world.db, world, []⟩
  | .command userId asked =>
      match world.db.users.find userId with
      | none => ⟨.error .unauthorized, world, []⟩
      | some user => asked.run platform user outside world
  | .anonymous call => call.run platform outside world

/-- One request of a serial run. -/
def Step (before after : World) : Prop :=
  ∃ outside request, after = (Request.serve platform outside request before).world

/-- The states serial runs of requests lead to from the empty database. -/
def Reachable (world : World) : Prop := Relation.ReflTransGen (Step platform) World.empty world

/-- Requests served one after the other. -/
def World.after (requests : List (Outside × Request)) (world : World) : World :=
  requests.foldl (fun world asked => (asked.2.serve platform asked.1 world).world) world

theorem Reachable.after {world : World} (reachable : Reachable platform world)
    (requests : List (Outside × Request)) : Reachable platform (world.after platform requests) := by
  induction requests generalizing world with
  | nil => exact reachable
  | cons asked rest ih => exact ih (reachable.tail ⟨asked.1, asked.2, rfl⟩)

end

/-- Puts a mark before a text, so that what carries none does not read back. -/
def Cipher.marking : Cipher where
  encrypt _ text := String.ofList ('~' :: text.toList)
  decrypt text := match text.toList with
    | '~' :: rest => some (String.ofList rest)
    | _ => none

theorem Cipher.marking_reads_back (nonce text : String) :
    marking.decrypt (marking.encrypt nonce text) = some text := by
  simp [marking]

/-- By code points. -/
def precedes (left right : String) : Bool :=
  List.lex (left.toList.map Char.toNat) (right.toList.map Char.toNat) fun a b => a.blt b

/-- Code points for collation, UTC for the clock, and one instant a text can name. -/
def Platform.plain : Platform where
  collate left right := !precedes right left
  equalsInsensitive stored asked := stored == asked
  toLowerCase text := String.ofList (text.toList.map Char.toLower)
  normalize text := text
  parseDate text := if text == "2026-03-01T10:00:00.000Z" then some 1772359200000 else none
  parseUrl _ := none
  shapeIssue _ := "Invalid input"
  localeCompare left right := if precedes left right then -1 else if precedes right left then 1 else 0
  startOfDay now := now - now % 86400000
  maxUploadMb := 10
  maxUploadMb_le := by decide
  maxSchoolStorageMb := 2048
  inviteTtlHours := 168
  inviteUrlBase := "foxacademy://register"
  publicApiUrl := some "https://api.example.com"
  zoomClient := some ⟨"client", "secret"⟩
  googleClient := none
  cipher := some .marking
  verifyState _ state := some ⟨some state, some "ZOOM", some "meeting-connect"⟩

/-- Fresh ids on a morning when no provider answers. -/
def Outside.quiet (id : Id) (secondId : Id := "") : Outside where
  draw := ⟨1772359200000, id, secondId, "random", "hash", "nonce", "nonce'"⟩
  endpoints _ := .networkFailure
  saves := true

/-- A school and its admin, at the registration of both. -/
def foxSchool : Outside × Request :=
  (.quiet "s1" "a1",
    .anonymous (.registerSchool ⟨"Fox", .given "fox", .absent, "Ann", "ann@x.io"⟩))

/-- A second school, with nothing of the first. -/
def owlSchool : Outside × Request :=
  (.quiet "s2" "a2",
    .anonymous (.registerSchool ⟨"Owl", .given "owl", .absent, "Bob", "bob@x.io"⟩))

def foxAdmin : User where
  id := "a1"
  email := "ann@x.io"
  passwordHash := "hash"
  name := "Ann"
  role := .admin
  schoolId := "s1"
  config := .obj []

def owlAdmin : User :=
  { foxAdmin with id := "a2", email := "bob@x.io", name := "Bob", schoolId := "s2" }

/-- A student with five lessons paid for. -/
def enrol (admin id name : String) : Outside × Request :=
  (.quiet id, .command admin (.createStudent ⟨name, .absent, .given 5⟩))

end TutorApp
