import TutorApp.Writes

set_option autoImplicit false

namespace TutorApp

open Relational

/-- The tables of the database, by name. -/
inductive TableName where
  | schools | users | subjects | students | groups | members | lessons | attendances | notes
  | grades | files | invitations | addons | meetingAccounts | notifications
  deriving DecidableEq

def TableName.Contents : TableName → Type
  | schools => Table School
  | users => Table User
  | subjects => Table Subject
  | students => Table Student
  | groups => Table Group
  | members => Table GroupMember
  | lessons => Table Lesson
  | attendances => Table LessonAttendance
  | notes => Table Note
  | grades => Table Grade
  | files => Table File
  | invitations => Table Invitation
  | addons => Table UserAddon
  | meetingAccounts => Table MeetingAccount
  | notifications => List Notification

namespace Db

def table (db : Db) : (name : TableName) → name.Contents
  | .schools => db.schools
  | .users => db.users
  | .subjects => db.subjects
  | .students => db.students
  | .groups => db.groups
  | .members => db.members
  | .lessons => db.lessons
  | .attendances => db.attendances
  | .notes => db.notes
  | .grades => db.grades
  | .files => db.files
  | .invitations => db.invitations
  | .addons => db.addons
  | .meetingAccounts => db.meetingAccounts
  | .notifications => db.notifications

def withTable (db : Db) : (name : TableName) → name.Contents → Db
  | .schools, schools => { db with schools }
  | .users, users => { db with users }
  | .subjects, subjects => { db with subjects }
  | .students, students => { db with students }
  | .groups, groups => { db with groups }
  | .members, members => { db with members }
  | .lessons, lessons => { db with lessons }
  | .attendances, attendances => { db with attendances }
  | .notes, notes => { db with notes }
  | .grades, grades => { db with grades }
  | .files, files => { db with files }
  | .invitations, invitations => { db with invitations }
  | .addons, addons => { db with addons }
  | .meetingAccounts, meetingAccounts => { db with meetingAccounts }
  | .notifications, notifications => { db with notifications }

/-- Every table outside the footprint is as it was. -/
def WritesOnly (footprint : List TableName) (db next : Db) : Prop :=
  ∀ name ∉ footprint, next.table name = db.table name

section

variable {db next later : Db} {footprint wider : List TableName}

theorem WritesOnly.refl (footprint : List TableName) (db : Db) : db.WritesOnly footprint db :=
  fun _ _ => rfl

theorem WritesOnly.trans (first : db.WritesOnly footprint next)
    (second : next.WritesOnly footprint later) : db.WritesOnly footprint later :=
  fun name outside => (second name outside).trans (first name outside)

theorem WritesOnly.mono (writes : db.WritesOnly footprint next)
    (inside : ∀ name ∈ footprint, name ∈ wider) : db.WritesOnly wider next :=
  fun name outside => writes name fun member => outside (inside name member)

theorem writesOnly_withTable (db : Db) (name : TableName) (contents : name.Contents) :
    db.WritesOnly [name] (db.withTable name contents) := by
  intro other outside
  have apart : other ≠ name := fun same => outside (List.mem_singleton.mpr same)
  cases name <;> cases other <;> first | rfl | exact absurd rfl apart

end

end Db

section

variable {platform : Platform} {user : User} {draw : Draw} {db next : Db} {id : Id}

/-- A student goes with the lessons held for it alone and with all that hangs on either. -/
def studentCascade : List TableName :=
  [.students, .members, .lessons, .attendances, .notes, .grades, .files]

/-- A group goes with its lessons and what hangs on them. -/
def groupCascade : List TableName :=
  [.groups, .members, .lessons, .attendances, .notes, .grades, .files]

theorem Db.deleteStudent_only (done : db.deleteStudent id = .ok next) :
    db.WritesOnly studentCascade next := by
  obtain ⟨-, rfl⟩ := deleteStudent_ok.mp done
  intro name outside
  cases name <;> first | rfl | exact absurd (by decide) outside

theorem Db.deleteGroup_only (done : db.deleteGroup id = .ok next) :
    db.WritesOnly groupCascade next := by
  obtain ⟨-, rfl⟩ := deleteGroup_ok.mp done
  intro name outside
  cases name <;> first | rfl | exact absurd (by decide) outside

namespace SubjectsService

theorem create_only {name : String} {subject : Subject}
    (success : create platform user draw name db = .ok (subject, next)) :
    db.WritesOnly [.subjects] next := by
  obtain ⟨-, created, -⟩ := create_ok.mp success
  obtain ⟨-, -, subjects, -, rfl⟩ := Db.createSubject_ok.mp created
  exact db.writesOnly_withTable .subjects subjects

theorem rename_only {name : String} {subject : Subject}
    (success : rename platform user id name db = .ok (subject, next)) :
    db.WritesOnly [.subjects] next := by
  obtain ⟨_, -, -, renamed, -⟩ := rename_ok.mp success
  obtain ⟨-, subjects, -, rfl⟩ := Db.renameSubject_ok.mp renamed
  exact db.writesOnly_withTable .subjects subjects

theorem hide_only {subject : Subject}
    (success : hide platform user draw id db = .ok (subject, next)) :
    db.WritesOnly [.subjects] next := by
  obtain ⟨_, -, -, done⟩ := hide_ok.mp success
  split at done
  · exact done.2 ▸ .refl _ db
  · obtain ⟨subjects, -, rfl⟩ := Db.hideSubject_ok.mp done.1
    exact db.writesOnly_withTable .subjects subjects

theorem restore_only {subject : Subject}
    (success : restore user id db = .ok (subject, next)) : db.WritesOnly [.subjects] next := by
  obtain ⟨_, -, restored, -⟩ := restore_ok.mp success
  obtain ⟨subjects, -, rfl⟩ := Db.hideSubject_ok.mp restored
  exact db.writesOnly_withTable .subjects subjects

end SubjectsService

namespace StudentsService

theorem create_only {dto : CreateStudentDto} {view : StudentView}
    (success : create user draw dto db = .ok (view, next)) : db.WritesOnly [.students] next := by
  obtain ⟨_, -, created, -⟩ := create_ok.mp success
  obtain ⟨-, -, students, -, rfl⟩ := Db.createStudent_ok.mp created
  exact db.writesOnly_withTable .students students

theorem update_only {dto : UpdateStudentDto} {view : StudentView}
    (success : update user id dto db = .ok (view, next)) : db.WritesOnly [.students] next := by
  obtain ⟨_, -, _, -, _, -, updated, -⟩ := update_ok.mp success
  obtain ⟨-, -, students, -, rfl⟩ := Db.updateStudent_ok.mp updated
  exact db.writesOnly_withTable .students students

theorem remove_only (success : remove user id db = .ok next) :
    db.WritesOnly studentCascade next := by
  obtain ⟨_, -, deleted⟩ := remove_ok.mp success
  exact Db.deleteStudent_only deleted

end StudentsService

namespace GroupsService

theorem create_only {dto : CreateGroupDto} {view : GroupView}
    (success : create platform user draw dto db = .ok (view, next)) :
    db.WritesOnly [.groups] next := by
  obtain ⟨_, -, created, -⟩ := create_ok.mp success
  obtain ⟨-, groups, -, rfl⟩ := Db.createGroup_ok.mp created
  exact db.writesOnly_withTable .groups groups

theorem update_only {dto : UpdateGroupDto} {view : GroupView}
    (success : update platform user id dto db = .ok (view, next)) :
    db.WritesOnly [.groups] next := by
  obtain ⟨_, -, _, -, _, -, updated, -⟩ := update_ok.mp success
  obtain ⟨-, groups, -, rfl⟩ := Db.updateGroup_ok.mp updated
  exact db.writesOnly_withTable .groups groups

theorem remove_only (success : remove user id db = .ok next) :
    db.WritesOnly groupCascade next := by
  obtain ⟨_, -, deleted⟩ := remove_ok.mp success
  exact Db.deleteGroup_only deleted

theorem addMember_only {groupId studentId : Id} {view : GroupView}
    (success : addMember platform user groupId studentId db = .ok (view, next)) :
    db.WritesOnly [.members] next := by
  obtain ⟨_, -, _, -, added, -⟩ := addMember_ok.mp success
  obtain ⟨-, ⟨members, -, rfl⟩ | ⟨-, rfl⟩⟩ := Db.upsertMember_ok.mp added
  · exact db.writesOnly_withTable .members members
  · exact .refl _ db

theorem removeMember_only {groupId studentId : Id} {view : GroupView}
    (success : removeMember platform user groupId studentId db = .ok (view, next)) :
    db.WritesOnly [.members] next := by
  obtain ⟨_, -, -, rfl⟩ := removeMember_ok.mp success
  exact db.writesOnly_withTable .members _

end GroupsService

namespace LessonsService

theorem meetingFor_only {endpoints : Endpoints} {subjectId : Option Id}
    {startsAt : Option Js.Instant} {durationMinutes : Int} :
    db.WritesOnly [.lessons, .meetingAccounts]
      (meetingFor platform user draw endpoints subjectId startsAt durationMinutes db).db := by
  obtain ⟨meetingAccounts, same⟩ :=
    meetingFor_db platform user draw endpoints subjectId startsAt durationMinutes db
  rw [same]
  exact (db.writesOnly_withTable .meetingAccounts meetingAccounts).mono (by decide)

/-- Refused or not, a booking writes its lesson and the connection its room was made over. -/
theorem create_only {endpoints : Endpoints} {dto : CreateLessonDto} :
    db.WritesOnly [.lessons, .meetingAccounts]
      (create platform user draw endpoints dto db).db := by
  unfold create
  dsimp only
  split
  · exact .refl _ db
  · split
    · exact meetingFor_only
    · split
      · exact meetingFor_only
      · rename_i stored
        obtain ⟨_, -, _, -, _, -, created, -⟩ := storeLesson_ok.mp stored
        obtain ⟨-, lessons, -, rfl⟩ := Db.createLesson_ok.mp created
        exact meetingFor_only.trans
          ((Db.writesOnly_withTable _ .lessons lessons).mono (by decide))

theorem updateStatus_only {status : LessonStatus} {view : LessonView}
    (success : updateStatus platform user id status db = .ok (view, next)) :
    db.WritesOnly [.lessons] next := by
  obtain ⟨_, -, updated, -⟩ := updateStatus_ok.mp success
  obtain ⟨lessons, -, rfl⟩ := Db.updateLesson_ok.mp updated
  exact db.writesOnly_withTable .lessons lessons

end LessonsService

namespace GradebookService

theorem writeJournal_only {lessonId : Id} {dto : WriteJournalDto} {view : JournalView}
    (success : writeJournal platform user lessonId dto db = .ok (view, next)) :
    db.WritesOnly [.students, .attendances, .lessons] next := by
  obtain ⟨_, _, -, -, -, -, marked, updated⟩ := writeJournal_accepted success
  obtain ⟨students, attendances, rfl⟩ := writeMarks_frame marked
  obtain ⟨lessons, -, rfl⟩ := Db.updateLesson_ok.mp updated
  intro name outside
  cases name <;> first | rfl | exact absurd (by decide) outside

theorem storeGrade_only {dto : WriteGradeDto} {studentId : Id} {lessonId : Option Id}
    {view : GradeWithAuthor}
    (success : storeGrade user draw dto studentId lessonId db = .ok (view, next)) :
    db.WritesOnly [.grades] next := by
  obtain ⟨-, _, -, created, -⟩ := storeGrade_ok.mp success
  obtain ⟨-, grades, -, rfl⟩ := Db.createGrade_ok.mp created
  exact db.writesOnly_withTable .grades grades

theorem addForStudent_only {studentId : Id} {dto : WriteGradeDto} {view : GradeWithAuthor}
    (success : addForStudent user draw studentId dto db = .ok (view, next)) :
    db.WritesOnly [.grades] next := by
  obtain ⟨_, -, stored⟩ := addForStudent_ok.mp success
  exact storeGrade_only stored

theorem addForLesson_only {lessonId : Id} {dto : WriteGradeDto} {view : GradeWithAuthor}
    (success : addForLesson user draw lessonId dto db = .ok (view, next)) :
    db.WritesOnly [.grades] next := by
  obtain ⟨_, -, _, -, stored⟩ := addForLesson_ok.mp success
  exact storeGrade_only stored

theorem update_only {dto : WriteGradeDto} {view : GradeWithAuthor}
    (success : update user id dto db = .ok (view, next)) : db.WritesOnly [.grades] next := by
  obtain ⟨_, -, -, _, -, updated, -⟩ := update_ok.mp success
  obtain ⟨grades, -, rfl⟩ := Db.updateGrade_ok.mp updated
  exact db.writesOnly_withTable .grades grades

theorem remove_only (success : remove user id db = .ok next) : db.WritesOnly [.grades] next := by
  obtain ⟨_, -, deleted⟩ := remove_ok.mp success
  obtain ⟨grades, -, rfl⟩ := Db.deleteGrade_ok.mp deleted
  exact db.writesOnly_withTable .grades grades

end GradebookService

namespace NotesService

theorem addForStudent_only {studentId : Id} {text : String} {view : NoteWithAuthor}
    (success : addForStudent user draw studentId text db = .ok (view, next)) :
    db.WritesOnly [.notes] next := by
  obtain ⟨_, -, created, -⟩ := addForStudent_ok.mp success
  obtain ⟨-, notes, -, rfl⟩ := Db.createNote_ok.mp created
  exact db.writesOnly_withTable .notes notes

theorem addForLesson_only {lessonId : Id} {text : String} {view : NoteWithAuthor}
    (success : addForLesson user draw lessonId text db = .ok (view, next)) :
    db.WritesOnly [.notes] next := by
  obtain ⟨_, -, created, -⟩ := addForLesson_ok.mp success
  obtain ⟨-, notes, -, rfl⟩ := Db.createNote_ok.mp created
  exact db.writesOnly_withTable .notes notes

theorem remove_only (success : remove user id db = .ok next) : db.WritesOnly [.notes] next := by
  obtain ⟨_, -, -, -, -, deleted⟩ := remove_ok.mp success
  obtain ⟨notes, -, rfl⟩ := Db.deleteNote_ok.mp deleted
  exact db.writesOnly_withTable .notes notes

end NotesService

namespace FilesService

theorem storeBytes_only (world : World) {saves : Bool} {row : File} {contents : List UInt8} :
    world.db.WritesOnly [.files] (storeBytes draw saves row contents world).2.db := by
  unfold storeBytes
  split
  · exact .refl _ _
  · dsimp only
    split
    · exact .refl _ _
    · rename_i finished
      obtain ⟨finalised, -⟩ := finishUpload_ok.mp finished
      obtain ⟨-, files, -, rfl⟩ := Db.finaliseFile_ok.mp finalised
      exact world.db.writesOnly_withTable .files files

theorem upload_only {saves : Bool} {findTarget : Db → Service UploadTarget}
    {incoming : IncomingFile} {world : World} :
    world.db.WritesOnly [.files]
      (upload platform user draw saves findTarget incoming world).2.db := by
  unfold upload
  split
  · exact .refl _ _
  · rename_i began
    obtain ⟨_, -, -, -, created, -⟩ := beginUpload_ok.mp began
    obtain ⟨-, -, -, files, -, rfl⟩ := Db.createFile_ok.mp created
    exact (world.db.writesOnly_withTable .files files).trans (storeBytes_only ⟨_, _⟩)

theorem remove_only {world : World} :
    world.db.WritesOnly [.files] (remove user id world).2.db := by
  unfold remove
  split
  · exact .refl _ _
  · rename_i removed
    obtain ⟨-, -, deleted⟩ := removeRow_ok.mp removed
    obtain ⟨files, -, rfl⟩ := Db.deleteFile_ok.mp deleted
    exact world.db.writesOnly_withTable .files files

end FilesService

theorem AddonsService.setFor_only {userId : Id} {addons unique : List AddonKey}
    (success : setFor user userId addons db = .ok (unique, next)) :
    db.WritesOnly [.addons] next := by
  obtain ⟨_, -, -, created, -⟩ := setFor_ok.mp success
  obtain ⟨granted, rfl⟩ := Db.createAddons_frame created
  exact db.writesOnly_withTable .addons granted

namespace SchoolsService

theorem update_only {dto : UpdateSchoolDto} {school : School}
    (success : update user dto db = .ok (school, next)) : db.WritesOnly [.schools] next := by
  obtain ⟨_, -, updated, -⟩ := update_ok.mp success
  obtain ⟨schools, -, rfl⟩ := Db.updateSchool_ok.mp updated
  exact db.writesOnly_withTable .schools schools

theorem createTutor_only {dto : CreateTutorDto} {tutor : TutorFields}
    (success : createTutor platform user draw dto db = .ok (tutor, next)) :
    db.WritesOnly [.users] next := by
  obtain ⟨-, created, -⟩ := createTutor_ok.mp success
  obtain ⟨-, -, users, -, rfl⟩ := Db.createUser_ok.mp created
  exact db.writesOnly_withTable .users users

theorem register_only {dto : RegisterSchoolDto} {admin : User}
    (success : register platform draw dto db = .ok (admin, next)) :
    db.WritesOnly [.schools, .users] next := by
  obtain ⟨-, -, founded, created, joined, -⟩ := register_ok.mp success
  obtain ⟨-, schools, -, rfl⟩ := Db.createSchool_ok.mp created
  obtain ⟨-, -, users, -, rfl⟩ := Db.createUser_ok.mp joined
  intro name outside
  cases name <;> first | rfl | exact absurd (by decide) outside

end SchoolsService

namespace InvitationsService

theorem invite_only {email : String} {view : InvitationView}
    (success : invite platform user draw email db = .ok (view, next)) :
    db.WritesOnly [.invitations] next := by
  obtain ⟨-, _, -, stored, _, -, -⟩ := invite_ok.mp success
  obtain ⟨-, -, upserted⟩ := Db.upsertInvitation_ok.mp stored
  split at upserted
  · obtain rfl := upserted
    exact db.writesOnly_withTable .invitations _
  · obtain ⟨invitations, -, rfl⟩ := upserted
    exact db.writesOnly_withTable .invitations invitations

theorem revoke_only (success : revoke user id db = .ok next) :
    db.WritesOnly [.invitations] next := by
  obtain ⟨-, rfl⟩ := revoke_ok.mp success
  exact db.writesOnly_withTable .invitations _

theorem accept_only {token name : String} {account : User}
    (success : accept draw token name db = .ok (account, next)) :
    db.WritesOnly [.invitations, .users, .notifications] next := by
  obtain ⟨_, -, -, _, created, -, rfl⟩ := accept_ok.mp success
  obtain ⟨-, -, users, -, rfl⟩ := Db.createUser_ok.mp created
  intro name outside
  cases name <;> first | rfl | exact absurd (by decide) outside

end InvitationsService

theorem UsersService.updateConfig_only {input : UserConfigInput} {config : UserConfig}
    (success : updateConfig platform user input db = .ok (config, next)) :
    db.WritesOnly [.users] next := by
  obtain ⟨_, -, updated, -⟩ := updateConfig_ok.mp success
  obtain ⟨users, -, rfl⟩ := Db.updateUserConfig_ok.mp updated
  exact db.writesOnly_withTable .users users

namespace MeetingAccountsService

theorem disconnect_only {provider : MeetingProvider}
    (success : disconnect user provider db = .ok next) :
    db.WritesOnly [.meetingAccounts] next := by
  obtain ⟨-, rfl⟩ := disconnect_ok.mp success
  exact db.writesOnly_withTable .meetingAccounts _

theorem completeConnection_only {endpoints : Endpoints} {provider : MeetingProvider}
    {code state : String} : db.WritesOnly [.meetingAccounts]
      (completeConnection platform draw endpoints provider code state db).db := by
  obtain ⟨meetingAccounts, same⟩ :=
    completeConnection_db platform draw endpoints provider code state db
  rw [same]
  exact db.writesOnly_withTable .meetingAccounts meetingAccounts

end MeetingAccountsService

end

/-- The tables a command may write. -/
def Command.footprint : Command → List TableName
  | createSubject _ | renameSubject _ _ | hideSubject _ | restoreSubject _ => [.subjects]
  | createStudent _ | updateStudent _ _ => [.students]
  | removeStudent _ => studentCascade
  | createGroup _ | updateGroup _ _ => [.groups]
  | removeGroup _ => groupCascade
  | addMember _ _ | removeMember _ _ => [.members]
  | createLesson _ => [.lessons, .meetingAccounts]
  | updateLessonStatus _ _ => [.lessons]
  | writeJournal _ _ => [.students, .attendances, .lessons]
  | addGradeForStudent _ _ | addGradeForLesson _ _ | updateGrade _ _ | removeGrade _ => [.grades]
  | addNoteForStudent _ _ | addNoteForLesson _ _ | removeNote _ => [.notes]
  | uploadForStudent _ _ | uploadToLibrary _ | uploadForLesson _ _ | removeFile _ => [.files]
  | openFile _ => []
  | setAddons _ _ => [.addons]
  | updateSchool _ => [.schools]
  | createTutor _ | updateConfig _ => [.users]
  | invite _ | revokeInvitation _ => [.invitations]
  | disconnect _ => [.meetingAccounts]

/-- The tables a call without a session may write. -/
def PublicCall.footprint : PublicCall → List TableName
  | registerSchool _ => [.schools, .users]
  | describeInvitation _ => []
  | acceptInvitation _ _ => [.invitations, .users, .notifications]
  | completeConnection _ _ _ => [.meetingAccounts]

section

variable {platform : Platform} {user : User} {outside : Outside} {world : World}
  {footprint : List TableName}

theorem World.commit_only {α : Type} {answer : α → Response} {result : Service (α × Db)}
    (writes : ∀ value db, result = .ok (value, db) → world.db.WritesOnly footprint db) :
    world.db.WritesOnly footprint (world.commit answer result).world.db :=
  commit_keeps (world.db.WritesOnly footprint) (.refl _ _) writes

theorem World.commitUnit_only {result : Service Db}
    (writes : ∀ db, result = .ok db → world.db.WritesOnly footprint db) :
    world.db.WritesOnly footprint (world.commitUnit result).world.db :=
  commitUnit_keeps (world.db.WritesOnly footprint) (.refl _ _) writes

/-- A command writes inside its footprint, whoever sends it and however it ends. -/
theorem Command.run_only (command : Command) :
    world.db.WritesOnly command.footprint (command.run platform user outside world).world.db := by
  cases command with
  | createSubject name =>
      exact World.commit_only fun _ _ success => SubjectsService.create_only success
  | renameSubject id name =>
      exact World.commit_only fun _ _ success => SubjectsService.rename_only success
  | hideSubject id =>
      exact World.commit_only fun _ _ success => SubjectsService.hide_only success
  | restoreSubject id =>
      exact World.commit_only fun _ _ success => SubjectsService.restore_only success
  | createStudent dto =>
      exact World.commit_only fun _ _ success => StudentsService.create_only success
  | updateStudent id dto =>
      exact World.commit_only fun _ _ success => StudentsService.update_only success
  | removeStudent id =>
      exact World.commitUnit_only fun _ success => StudentsService.remove_only success
  | createGroup dto =>
      exact World.commit_only fun _ _ success => GroupsService.create_only success
  | updateGroup id dto =>
      exact World.commit_only fun _ _ success => GroupsService.update_only success
  | removeGroup id =>
      exact World.commitUnit_only fun _ success => GroupsService.remove_only success
  | addMember groupId studentId =>
      exact World.commit_only fun _ _ success => GroupsService.addMember_only success
  | removeMember groupId studentId =>
      exact World.commit_only fun _ _ success => GroupsService.removeMember_only success
  | createLesson dto => exact LessonsService.create_only
  | updateLessonStatus id status =>
      exact World.commit_only fun _ _ success => LessonsService.updateStatus_only success
  | writeJournal lessonId dto =>
      exact World.commit_only fun _ _ success => GradebookService.writeJournal_only success
  | addGradeForStudent studentId dto =>
      exact World.commit_only fun _ _ success => GradebookService.addForStudent_only success
  | addGradeForLesson lessonId dto =>
      exact World.commit_only fun _ _ success => GradebookService.addForLesson_only success
  | updateGrade id dto =>
      exact World.commit_only fun _ _ success => GradebookService.update_only success
  | removeGrade id =>
      exact World.commitUnit_only fun _ success => GradebookService.remove_only success
  | addNoteForStudent studentId text =>
      exact World.commit_only fun _ _ success => NotesService.addForStudent_only success
  | addNoteForLesson lessonId text =>
      exact World.commit_only fun _ _ success => NotesService.addForLesson_only success
  | removeNote id =>
      exact World.commitUnit_only fun _ success => NotesService.remove_only success
  | uploadForStudent studentId incoming => exact FilesService.upload_only
  | uploadToLibrary incoming => exact FilesService.upload_only
  | uploadForLesson lessonId incoming => exact FilesService.upload_only
  | openFile id => exact .refl _ _
  | removeFile id => exact FilesService.remove_only
  | setAddons userId addons =>
      exact World.commit_only fun _ _ success => AddonsService.setFor_only success
  | updateSchool dto =>
      exact World.commit_only fun _ _ success => SchoolsService.update_only success
  | createTutor dto =>
      exact World.commit_only fun _ _ success => SchoolsService.createTutor_only success
  | invite email =>
      exact World.commit_only fun _ _ success => InvitationsService.invite_only success
  | revokeInvitation id =>
      exact World.commitUnit_only fun _ success => InvitationsService.revoke_only success
  | updateConfig input =>
      exact World.commit_only fun _ _ success => UsersService.updateConfig_only success
  | disconnect provider =>
      refine World.commitUnit_only fun _ success => ?_
      obtain ⟨_, -, disconnected⟩ := bind_ok.mp success
      exact MeetingAccountsService.disconnect_only disconnected

theorem PublicCall.run_only (call : PublicCall) :
    world.db.WritesOnly call.footprint (call.run platform outside world).world.db := by
  cases call with
  | registerSchool dto =>
      exact World.commit_only fun _ _ success => SchoolsService.register_only success
  | describeInvitation token => exact .refl _ _
  | acceptInvitation token name =>
      exact World.commit_only fun _ _ success => InvitationsService.accept_only success
  | completeConnection provider code state =>
      unfold run
      dsimp only
      split
      · exact .refl _ _
      · exact MeetingAccountsService.completeConnection_only

end

end TutorApp
