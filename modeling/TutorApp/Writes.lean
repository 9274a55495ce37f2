import TutorApp.Books

set_option autoImplicit false

namespace TutorApp

open Relational

/-- An invitation after an upsert or a claim keeps the role it was sent with. -/
def Db.SameRoles (db next : Db) : Prop :=
  ∀ row ∈ next.invitations.rows, ∃ old ∈ db.invitations.rows, old.role = row.role

/-- What a file hangs on, by its purpose. -/
structure File.Placed (row : File) : Prop where
  student : row.studentId.isSome ↔ row.purpose = .studentAttachment
  lesson : row.lessonId.isSome ↔ row.purpose = .lessonAttachment

/-- The lesson a mark is filed against is there, and is the student's own if it names one. -/
def Db.Fits (db : Db) (studentId : Id) (lessonId : Option Id) : Prop :=
  ∀ id ∈ lessonId, ∃ lesson, db.lessons.find id = some lesson ∧
    ∀ own ∈ lesson.studentId, studentId = own

/-- A registration: a school and its admin, in one transaction. -/
structure Db.Founds (db next : Db) (school : School) (admin : User) : Prop where
  role : admin.role = .admin
  home : admin.schoolId = school.id
  done : ∃ founded, db.createSchool school = .ok founded ∧ founded.createUser admin = .ok next

/-- What one statement of any other request does, with what its caller has seen to. The tables
that `aside` ranges over are not told apart. -/
inductive Db.Write (db : Db) : Db → Prop where
  | aside {subjects : Table Subject} {students : Table Student} {groups : Table Group}
      {members : Table GroupMember} {attendances : Table LessonAttendance}
      {addons : Table UserAddon} {meetingAccounts : Table MeetingAccount}
      {notifications : List Notification} :
      Write db { db with
        subjects, students, groups, members, attendances, addons, meetingAccounts, notifications }
  | updateSchool {next : Db} (id : Id) (name timezone : Option String)
      (done : db.updateSchool id name timezone = .ok next) : Write db next
  | enlist {next : Db} (row : User)
      (role : row.role = .tutor ∨ ∃ invitation ∈ db.invitations.rows, row.role = invitation.role)
      (done : db.createUser row = .ok next) : Write db next
  | configure {next : Db} (id : Id) (config : Js.Json)
      (done : db.updateUserConfig id config = .ok next) : Write db next
  | invite {next : Db} (row : Invitation) (role : row.role = .tutor)
      (done : db.upsertInvitation row = .ok next) : Write db next
  | respond {invitations : Table Invitation}
      (roles : db.SameRoles { db with invitations }) : Write db { db with invitations }
  | book {next : Db} (row : Lesson) (one : row.studentId.isSome ↔ row.groupId = none)
      (done : db.createLesson row = .ok next) : Write db next
  | updateLesson {next : Db} (id : Id) (patch : Db.LessonPatch)
      (done : db.updateLesson id patch = .ok next) : Write db next
  | deleteStudent {next : Db} (id : Id) (done : db.deleteStudent id = .ok next) : Write db next
  | deleteGroup {next : Db} (id : Id) (done : db.deleteGroup id = .ok next) : Write db next
  | note {next : Db} (row : Note) (one : row.studentId.isSome ↔ row.lessonId = none)
      (done : db.createNote row = .ok next) : Write db next
  | deleteNote {next : Db} (id : Id) (done : db.deleteNote id = .ok next) : Write db next
  | grade {next : Db} (row : Grade) (fits : db.Fits row.studentId row.lessonId)
      (done : db.createGrade row = .ok next) : Write db next
  | updateGrade {next : Db} (id : Id) (data : Db.GradeData)
      (done : db.updateGrade id data = .ok next) : Write db next
  | deleteGrade {next : Db} (id : Id) (done : db.deleteGrade id = .ok next) : Write db next
  | file {next : Db} (row : File) (placed : row.Placed) (done : db.createFile row = .ok next) :
      Write db next
  | finaliseFile {next : Db} (id : Id) (storageKey : String) (uploadedAt : Js.Instant)
      (done : db.finaliseFile id storageKey uploadedAt = .ok next) : Write db next
  | deleteFile {next : Db} (id : Id) (done : db.deleteFile id = .ok next) : Write db next

def Db.Writes : Db → Db → Prop := Relation.ReflTransGen Db.Write

namespace Db

variable {db next later : Db} {id : Id}

theorem Writes.refl (db : Db) : db.Writes db := Relation.ReflTransGen.refl

theorem Write.writes (write : db.Write next) : db.Writes next := .single write

theorem Writes.then (writes : db.Writes next) (write : next.Write later) : db.Writes later :=
  Relation.ReflTransGen.tail writes write

/-- What every write preserves, a request preserves. -/
theorem Writes.preserve {holds : Db → Prop}
    (kept : ∀ {db next}, Db.Write db next → holds db → holds next) (writes : db.Writes next)
    (before : holds db) : holds next := by
  induction writes with
  | refl => exact before
  | tail _ write ih => exact kept write ih

theorem createSubject_writes {row : Subject} (done : db.createSubject row = .ok next) :
    db.Writes next := by
  obtain ⟨-, -, subjects, -, rfl⟩ := createSubject_ok.mp done
  exact Write.aside.writes

theorem renameSubject_writes {name : String} (done : db.renameSubject id name = .ok next) :
    db.Writes next := by
  obtain ⟨-, subjects, -, rfl⟩ := renameSubject_ok.mp done
  exact Write.aside.writes

theorem hideSubject_writes {hiddenAt : Option Js.Instant}
    (done : db.hideSubject id hiddenAt = .ok next) : db.Writes next := by
  obtain ⟨subjects, -, rfl⟩ := hideSubject_ok.mp done
  exact Write.aside.writes

theorem createStudent_writes {row : Student} (done : db.createStudent row = .ok next) :
    db.Writes next := by
  obtain ⟨-, -, students, -, rfl⟩ := createStudent_ok.mp done
  exact Write.aside.writes

theorem updateStudent_writes {patch : StudentPatch} (done : db.updateStudent id patch = .ok next) :
    db.Writes next := by
  obtain ⟨-, -, students, -, rfl⟩ := updateStudent_ok.mp done
  exact Write.aside.writes

theorem createGroup_writes {row : Group} (done : db.createGroup row = .ok next) :
    db.Writes next := by
  obtain ⟨-, groups, -, rfl⟩ := createGroup_ok.mp done
  exact Write.aside.writes

theorem updateGroup_writes {patch : GroupPatch} (done : db.updateGroup id patch = .ok next) :
    db.Writes next := by
  obtain ⟨-, groups, -, rfl⟩ := updateGroup_ok.mp done
  exact Write.aside.writes

theorem upsertMember_writes {row : GroupMember} (done : db.upsertMember row = .ok next) :
    db.Writes next := by
  obtain ⟨-, ⟨members, -, rfl⟩ | ⟨-, rfl⟩⟩ := upsertMember_ok.mp done
  · exact Write.aside.writes
  · exact Writes.refl db

theorem createAddons_frame {userId enabledById : Id} {list : List AddonKey}
    (done : db.createAddons userId enabledById list = .ok next) :
    ∃ addons, next = { db with addons } := by
  obtain ⟨-, rfl⟩ := createAddons_ok.mp done
  clear done
  induction list generalizing db with
  | nil => exact ⟨db.addons, rfl⟩
  | cons addon rest ih =>
      obtain ⟨addons, same⟩ : ∃ addons,
          db.createAddon ⟨userId, addon, some enabledById⟩ = { db with addons } := by
        unfold createAddon
        split
        · exact ⟨_, rfl⟩
        · exact ⟨db.addons, rfl⟩
      obtain ⟨later, rest⟩ := @ih { db with addons }
      refine ⟨later, ?_⟩
      rw [List.foldl_cons, same]
      exact rest

end Db

section

variable {platform : Platform} {user : User} {draw : Draw} {db next : Db} {id : Id}

namespace SubjectsService

theorem create_writes {name : String} {subject : Subject}
    (success : create platform user draw name db = .ok (subject, next)) : db.Writes next := by
  obtain ⟨-, created, -⟩ := create_ok.mp success
  exact Db.createSubject_writes created

theorem rename_writes {name : String} {subject : Subject}
    (success : rename platform user id name db = .ok (subject, next)) : db.Writes next := by
  obtain ⟨_, -, -, renamed, -⟩ := rename_ok.mp success
  exact Db.renameSubject_writes renamed

theorem hide_writes {subject : Subject}
    (success : hide platform user draw id db = .ok (subject, next)) : db.Writes next := by
  obtain ⟨_, -, -, done⟩ := hide_ok.mp success
  split at done
  · exact done.2 ▸ Db.Writes.refl db
  · exact Db.hideSubject_writes done.1

theorem restore_writes {subject : Subject}
    (success : restore user id db = .ok (subject, next)) : db.Writes next := by
  obtain ⟨_, -, restored, -⟩ := restore_ok.mp success
  exact Db.hideSubject_writes restored

end SubjectsService

namespace StudentsService

theorem create_writes {dto : CreateStudentDto} {view : StudentView}
    (success : create user draw dto db = .ok (view, next)) : db.Writes next := by
  obtain ⟨_, -, created, -⟩ := create_ok.mp success
  exact Db.createStudent_writes created

theorem update_writes {dto : UpdateStudentDto} {view : StudentView}
    (success : update user id dto db = .ok (view, next)) : db.Writes next := by
  obtain ⟨_, -, _, -, _, -, updated, -⟩ := update_ok.mp success
  exact Db.updateStudent_writes updated

theorem remove_writes (success : remove user id db = .ok next) : db.Writes next := by
  obtain ⟨student, -, deleted⟩ := remove_ok.mp success
  exact (Db.Write.deleteStudent student.id deleted).writes

end StudentsService

namespace GroupsService

theorem create_writes {dto : CreateGroupDto} {view : GroupView}
    (success : create platform user draw dto db = .ok (view, next)) : db.Writes next := by
  obtain ⟨_, -, created, -⟩ := create_ok.mp success
  exact Db.createGroup_writes created

theorem update_writes {dto : UpdateGroupDto} {view : GroupView}
    (success : update platform user id dto db = .ok (view, next)) : db.Writes next := by
  obtain ⟨_, -, _, -, _, -, updated, -⟩ := update_ok.mp success
  exact Db.updateGroup_writes updated

theorem remove_writes (success : remove user id db = .ok next) : db.Writes next := by
  obtain ⟨group, -, deleted⟩ := remove_ok.mp success
  exact (Db.Write.deleteGroup group.id deleted).writes

theorem addMember_writes {groupId studentId : Id} {view : GroupView}
    (success : addMember platform user groupId studentId db = .ok (view, next)) :
    db.Writes next := by
  obtain ⟨_, -, _, -, added, -⟩ := addMember_ok.mp success
  exact Db.upsertMember_writes added

theorem removeMember_writes {groupId studentId : Id} {view : GroupView}
    (success : removeMember platform user groupId studentId db = .ok (view, next)) :
    db.Writes next := by
  obtain ⟨_, -, -, rfl⟩ := removeMember_ok.mp success
  exact Db.Write.aside.writes

end GroupsService

namespace LessonsService

theorem meetingFor_writes {endpoints : Endpoints} {subjectId : Option Id}
    {startsAt : Option Js.Instant} {durationMinutes : Int} :
    db.Writes
      (meetingFor platform user draw endpoints subjectId startsAt durationMinutes db).db := by
  obtain ⟨meetingAccounts, same⟩ :=
    meetingFor_db platform user draw endpoints subjectId startsAt durationMinutes db
  rw [same]
  exact Db.Write.aside.writes

/-- A booking is for a student or for a group, never for both. -/
theorem bookingTarget_one {dto : CreateLessonDto} {target : Option Id × Option Id}
    (found : bookingTarget user dto db = .ok target) : target.1.isSome ↔ target.2 = none := by
  unfold bookingTarget at found
  split at found
  · simp only [bind_ok, pure_ok] at found
    obtain ⟨_, -, student, -, rfl⟩ := found
    simp only [Option.isSome_some]
  · simp only [bind_ok, pure_ok] at found
    obtain ⟨_, -, group, -, rfl⟩ := found
    simp only [Option.isSome_none, Bool.false_eq_true, reduceCtorEq]

/-- Refused or not, a booking adds at most its lesson. -/
theorem create_writes {endpoints : Endpoints} {dto : CreateLessonDto} :
    db.Writes (create platform user draw endpoints dto db).db := by
  unfold create
  dsimp only
  split
  · exact .refl db
  · split
    · exact meetingFor_writes
    · split
      · exact meetingFor_writes
      · rename_i stored
        obtain ⟨target, found, _, -, _, rfl, created, -⟩ := storeLesson_ok.mp stored
        exact meetingFor_writes.then (.book _ (bookingTarget_one found) created)

theorem updateStatus_writes {status : LessonStatus} {view : LessonView}
    (success : updateStatus platform user id status db = .ok (view, next)) : db.Writes next := by
  obtain ⟨lesson, -, updated, -⟩ := updateStatus_ok.mp success
  exact (Db.Write.updateLesson lesson.id _ updated).writes

end LessonsService

namespace GradebookService

theorem writeJournal_writes {lessonId : Id} {dto : WriteJournalDto} {view : JournalView}
    (success : writeJournal platform user lessonId dto db = .ok (view, next)) : db.Writes next := by
  obtain ⟨lesson, written, -, -, -, -, marked, updated⟩ := writeJournal_accepted success
  obtain ⟨students, attendances, rfl⟩ := writeMarks_frame marked
  exact Db.Write.aside.writes.then (.updateLesson _ _ updated)

theorem storeGrade_writes {dto : WriteGradeDto} {studentId : Id} {lessonId : Option Id}
    {view : GradeWithAuthor} (fits : db.Fits studentId lessonId)
    (success : storeGrade user draw dto studentId lessonId db = .ok (view, next)) :
    db.Writes next := by
  obtain ⟨-, _, -, created, -⟩ := storeGrade_ok.mp success
  refine (Db.Write.grade _ ?_ created).writes
  exact fits

theorem addForStudent_writes {studentId : Id} {dto : WriteGradeDto} {view : GradeWithAuthor}
    (success : addForStudent user draw studentId dto db = .ok (view, next)) : db.Writes next := by
  obtain ⟨_, -, stored⟩ := addForStudent_ok.mp success
  refine storeGrade_writes (fun _ none => ?_) stored
  cases none

/-- A lesson that names a student takes marks for nobody else. -/
theorem resolveMarked_own {lesson : Lesson} {named : Js.Field Id} {studentId : Id}
    (resolved : resolveMarked lesson named db = .ok studentId) :
    ∀ own ∈ lesson.studentId, studentId = own := by
  intro own names
  rw [Option.mem_def] at names
  simp only [resolveMarked, names, bind_ok, pure_ok] at resolved
  obtain ⟨_, -, rfl⟩ := resolved
  rfl

theorem addForLesson_writes {lessonId : Id} {dto : WriteGradeDto} {view : GradeWithAuthor}
    (success : addForLesson user draw lessonId dto db = .ok (view, next)) : db.Writes next := by
  obtain ⟨lesson, reached, studentId, resolved, stored⟩ := addForLesson_ok.mp success
  have found := ((LessonsService.findReachable_ok user).mp reached).1
  have itself : lesson.id = lessonId := (Table.find_eq_some.mp found).2
  refine storeGrade_writes (fun id same => ⟨lesson, ?_, resolveMarked_own resolved⟩) stored
  rw [← Option.some.inj same, itself]
  exact found

theorem update_writes {dto : WriteGradeDto} {view : GradeWithAuthor}
    (success : update user id dto db = .ok (view, next)) : db.Writes next := by
  obtain ⟨grade, -, -, _, -, updated, -⟩ := update_ok.mp success
  exact (Db.Write.updateGrade grade.id _ updated).writes

theorem remove_writes (success : remove user id db = .ok next) : db.Writes next := by
  obtain ⟨grade, -, deleted⟩ := remove_ok.mp success
  exact (Db.Write.deleteGrade grade.id deleted).writes

end GradebookService

namespace NotesService

theorem addForStudent_writes {studentId : Id} {text : String} {view : NoteWithAuthor}
    (success : addForStudent user draw studentId text db = .ok (view, next)) : db.Writes next := by
  obtain ⟨_, -, created, -⟩ := addForStudent_ok.mp success
  exact (Db.Write.note _ (by simp only [Option.isSome_some]) created).writes

theorem addForLesson_writes {lessonId : Id} {text : String} {view : NoteWithAuthor}
    (success : addForLesson user draw lessonId text db = .ok (view, next)) : db.Writes next := by
  obtain ⟨_, -, created, -⟩ := addForLesson_ok.mp success
  exact (Db.Write.note _ (by simp) created).writes

theorem remove_writes (success : remove user id db = .ok next) : db.Writes next := by
  obtain ⟨note, -, -, -, -, deleted⟩ := remove_ok.mp success
  exact (Db.Write.deleteNote note.id deleted).writes

end NotesService

namespace FilesService

/-- What a target says about its purpose. -/
structure UploadTarget.Placed (target : UploadTarget) : Prop where
  student : target.studentId.isSome ↔ target.purpose = .studentAttachment
  lesson : target.lessonId.isSome ↔ target.purpose = .lessonAttachment

theorem studentTarget_placed {studentId : Id} {target : UploadTarget}
    (found : studentTarget user studentId db = .ok target) : target.Placed := by
  simp only [studentTarget, bind_ok, pure_ok] at found
  obtain ⟨student, -, rfl⟩ := found
  constructor <;> simp

theorem libraryTarget_placed {target : UploadTarget}
    (found : libraryTarget user db = .ok target) : target.Placed := by
  rw [← pure_ok.mp found]
  constructor <;> simp

theorem lessonTarget_placed {lessonId : Id} {target : UploadTarget}
    (found : lessonTarget user lessonId db = .ok target) : target.Placed := by
  simp only [lessonTarget, bind_ok, pure_ok] at found
  obtain ⟨lesson, -, rfl⟩ := found
  constructor <;> simp

theorem storeBytes_writes (world : World) {saves : Bool} {row : File} {contents : List UInt8} :
    world.db.Writes (storeBytes draw saves row contents world).2.db := by
  unfold storeBytes
  split
  · exact .refl _
  · dsimp only
    split
    · exact .refl _
    · rename_i finished
      obtain ⟨finalised, -⟩ := finishUpload_ok.mp finished
      exact (Db.Write.finaliseFile _ _ _ finalised).writes

theorem upload_writes {saves : Bool} {findTarget : Db → Service UploadTarget}
    {incoming : IncomingFile} {world : World}
    (placed : ∀ target, findTarget world.db = .ok target → target.Placed) :
    world.db.Writes (upload platform user draw saves findTarget incoming world).2.db := by
  unfold upload
  split
  · exact .refl _
  · rename_i row db began
    obtain ⟨target, found, -, -, created, -⟩ := beginUpload_ok.mp began
    obtain ⟨student, lesson⟩ := placed target found
    have inserted := (Db.Write.file _ ⟨student, lesson⟩ created).writes
    exact inserted.trans (storeBytes_writes ⟨_, _⟩)

theorem remove_writes {world : World} : world.db.Writes (remove user id world).2.db := by
  unfold remove
  split
  · exact .refl _
  · rename_i file db removed
    obtain ⟨-, -, deleted⟩ := removeRow_ok.mp removed
    exact (Db.Write.deleteFile file.id deleted).writes

end FilesService

theorem AddonsService.setFor_writes {userId : Id} {addons unique : List AddonKey}
    (success : setFor user userId addons db = .ok (unique, next)) : db.Writes next := by
  obtain ⟨_, -, -, created, -⟩ := setFor_ok.mp success
  obtain ⟨granted, rfl⟩ := Db.createAddons_frame created
  exact Db.Write.aside.writes

namespace SchoolsService

theorem update_writes {dto : UpdateSchoolDto} {school : School}
    (success : update user dto db = .ok (school, next)) : db.Writes next := by
  obtain ⟨_, -, updated, -⟩ := update_ok.mp success
  exact (Db.Write.updateSchool _ _ _ updated).writes

theorem createTutor_writes {dto : CreateTutorDto} {tutor : TutorFields}
    (success : createTutor platform user draw dto db = .ok (tutor, next)) : db.Writes next := by
  obtain ⟨-, created, -⟩ := createTutor_ok.mp success
  exact (Db.Write.enlist _ (.inl rfl) created).writes

/-- The account comes out as it was made. -/
theorem register_founds {dto : RegisterSchoolDto} {admin : User}
    (success : register platform draw dto db = .ok (admin, next)) :
    ∃ school, school.id = draw.id ∧ admin.id = draw.secondId ∧ db.Founds next school admin := by
  obtain ⟨-, -, founded, created, joined, rfl⟩ := register_ok.mp success
  exact ⟨_, rfl, rfl, rfl, rfl, founded, created, joined⟩

end SchoolsService

namespace InvitationsService

theorem invite_writes {email : String} {view : InvitationView}
    (success : invite platform user draw email db = .ok (view, next)) : db.Writes next := by
  obtain ⟨-, _, -, stored, _, -, -⟩ := invite_ok.mp success
  exact (Db.Write.invite _ (by rfl) stored).writes

theorem revoke_writes (success : revoke user id db = .ok next) : db.Writes next := by
  obtain ⟨-, rfl⟩ := revoke_ok.mp success
  refine Db.Write.writes (.respond fun row member => ⟨row, ?_, rfl⟩)
  exact (Table.mem_delete.mp member).1

theorem claimInvitation_roles {now : Js.Instant} : db.SameRoles (db.claimInvitation id now).2 := by
  intro row member
  have listed : row ∈ (db.invitations.update _ (fun row => { row with acceptedAt := some now })
      fun _ => rfl).rows := member
  rcases Table.of_mem_update listed with old | ⟨old, present, -, rfl⟩
  · exact ⟨row, old, rfl⟩
  · exact ⟨old, present, rfl⟩

theorem findUsable_member {now : Js.Instant} {token : String} {invitation : Invitation}
    (found : findUsable now token db = .ok invitation) : invitation ∈ db.invitations.rows := by
  rw [findUsable, orNotFound_ok, Option.filter_eq_some_iff] at found
  exact List.mem_of_find?_eq_some found.1

theorem accept_writes {token name : String} {account : User}
    (success : accept draw token name db = .ok (account, next)) : db.Writes next := by
  obtain ⟨invitation, usable, -, stored, created, -, rfl⟩ := accept_ok.mp success
  have claimed : db.Write (db.claimInvitation invitation.id draw.now).2 :=
    .respond claimInvitation_roles
  -- the claim leaves the row, so the role is still one of an invitation
  obtain ⟨row, member, role⟩ : ∃ row ∈ (db.claimInvitation invitation.id draw.now).2.invitations.rows,
      row.role = invitation.role := by
    refine ⟨_, List.mem_map_of_mem (findUsable_member usable), ?_⟩
    split <;> rfl
  have enlisted : (db.claimInvitation invitation.id draw.now).2.Write stored :=
    .enlist _ (.inr ⟨row, member, role.symm⟩) created
  exact (claimed.writes.then enlisted).then .aside

end InvitationsService

theorem UsersService.updateConfig_writes {input : UserConfigInput} {config : UserConfig}
    (success : updateConfig platform user input db = .ok (config, next)) : db.Writes next := by
  obtain ⟨_, -, updated, -⟩ := updateConfig_ok.mp success
  exact (Db.Write.configure _ _ updated).writes

namespace MeetingAccountsService

theorem disconnect_writes {provider : MeetingProvider}
    (success : disconnect user provider db = .ok next) : db.Writes next := by
  obtain ⟨-, rfl⟩ := disconnect_ok.mp success
  exact Db.Write.aside.writes

theorem completeConnection_writes {endpoints : Endpoints} {provider : MeetingProvider}
    {code state : String} :
    db.Writes (completeConnection platform draw endpoints provider code state db).db := by
  obtain ⟨meetingAccounts, same⟩ := completeConnection_db platform draw endpoints provider code state db
  rw [same]
  exact Db.Write.aside.writes

end MeetingAccountsService

end

section

variable {platform : Platform} {user : User} {outside : Outside} {world : World}

theorem World.commit_writes {α : Type} {answer : α → Response} {result : Service (α × Db)}
    (writes : ∀ value db, result = .ok (value, db) → world.db.Writes db) :
    world.db.Writes (world.commit answer result).world.db :=
  commit_keeps world.db.Writes (.refl _) writes

theorem World.commitUnit_writes {result : Service Db}
    (writes : ∀ db, result = .ok db → world.db.Writes db) :
    world.db.Writes (world.commitUnit result).world.db :=
  commitUnit_keeps world.db.Writes (.refl _) writes

theorem Command.run_writes (command : Command) :
    world.db.Writes (command.run platform user outside world).world.db := by
  cases command with
  | createSubject name =>
      exact World.commit_writes fun _ _ success => SubjectsService.create_writes success
  | renameSubject id name =>
      exact World.commit_writes fun _ _ success => SubjectsService.rename_writes success
  | hideSubject id =>
      exact World.commit_writes fun _ _ success => SubjectsService.hide_writes success
  | restoreSubject id =>
      exact World.commit_writes fun _ _ success => SubjectsService.restore_writes success
  | createStudent dto =>
      exact World.commit_writes fun _ _ success => StudentsService.create_writes success
  | updateStudent id dto =>
      exact World.commit_writes fun _ _ success => StudentsService.update_writes success
  | removeStudent id =>
      exact World.commitUnit_writes fun _ success => StudentsService.remove_writes success
  | createGroup dto =>
      exact World.commit_writes fun _ _ success => GroupsService.create_writes success
  | updateGroup id dto =>
      exact World.commit_writes fun _ _ success => GroupsService.update_writes success
  | removeGroup id =>
      exact World.commitUnit_writes fun _ success => GroupsService.remove_writes success
  | addMember groupId studentId =>
      exact World.commit_writes fun _ _ success => GroupsService.addMember_writes success
  | removeMember groupId studentId =>
      exact World.commit_writes fun _ _ success => GroupsService.removeMember_writes success
  | createLesson dto => exact LessonsService.create_writes
  | updateLessonStatus id status =>
      exact World.commit_writes fun _ _ success => LessonsService.updateStatus_writes success
  | writeJournal lessonId dto =>
      exact World.commit_writes fun _ _ success => GradebookService.writeJournal_writes success
  | addGradeForStudent studentId dto =>
      exact World.commit_writes fun _ _ success => GradebookService.addForStudent_writes success
  | addGradeForLesson lessonId dto =>
      exact World.commit_writes fun _ _ success => GradebookService.addForLesson_writes success
  | updateGrade id dto =>
      exact World.commit_writes fun _ _ success => GradebookService.update_writes success
  | removeGrade id =>
      exact World.commitUnit_writes fun _ success => GradebookService.remove_writes success
  | addNoteForStudent studentId text =>
      exact World.commit_writes fun _ _ success => NotesService.addForStudent_writes success
  | addNoteForLesson lessonId text =>
      exact World.commit_writes fun _ _ success => NotesService.addForLesson_writes success
  | removeNote id =>
      exact World.commitUnit_writes fun _ success => NotesService.remove_writes success
  | uploadForStudent studentId incoming =>
      exact FilesService.upload_writes fun _ => FilesService.studentTarget_placed
  | uploadToLibrary incoming =>
      exact FilesService.upload_writes fun _ => FilesService.libraryTarget_placed
  | uploadForLesson lessonId incoming =>
      exact FilesService.upload_writes fun _ => FilesService.lessonTarget_placed
  | openFile id => exact .refl _
  | removeFile id => exact FilesService.remove_writes
  | setAddons userId addons =>
      exact World.commit_writes fun _ _ success => AddonsService.setFor_writes success
  | updateSchool dto =>
      exact World.commit_writes fun _ _ success => SchoolsService.update_writes success
  | createTutor dto =>
      exact World.commit_writes fun _ _ success => SchoolsService.createTutor_writes success
  | invite email =>
      exact World.commit_writes fun _ _ success => InvitationsService.invite_writes success
  | revokeInvitation id =>
      exact World.commitUnit_writes fun _ success => InvitationsService.revoke_writes success
  | updateConfig input =>
      exact World.commit_writes fun _ _ success => UsersService.updateConfig_writes success
  | disconnect provider =>
      refine World.commitUnit_writes fun _ success => ?_
      obtain ⟨_, -, disconnected⟩ := bind_ok.mp success
      exact MeetingAccountsService.disconnect_writes disconnected

/-- A registration: refused, it leaves everything as it was. -/
theorem registerSchool_run (dto : RegisterSchoolDto) :
    (∃ reason, (PublicCall.registerSchool dto).run platform outside world =
        ⟨.error reason, world, []⟩) ∨
      ∃ admin next, SchoolsService.register platform outside.draw dto world.db = .ok (admin, next) ∧
        (PublicCall.registerSchool dto).run platform outside world =
          ⟨.ok (.session admin), { world with db := next }, []⟩ := by
  cases registered : SchoolsService.register platform outside.draw dto world.db with
  | error reason =>
      refine .inl ⟨reason, ?_⟩
      simp only [PublicCall.run, registered, World.commit]
  | ok value =>
      refine .inr ⟨value.1, value.2, rfl, ?_⟩
      simp only [PublicCall.run, registered, World.commit]

/-- The requests that are not a registration. -/
def Request.Ordinary (request : Request) : Prop :=
  ∀ dto, request ≠ .anonymous (.registerSchool dto)

/-- Whatever else is asked for, these are the writes it comes down to. -/
theorem Request.serve_writes {request : Request} (ordinary : request.Ordinary) :
    world.db.Writes (request.serve platform outside world).world.db := by
  cases request with
  | query userId asked =>
      simp only [serve]
      split <;> exact .refl _
  | command userId asked =>
      simp only [serve]
      split
      · exact .refl _
      · exact asked.run_writes
  | anonymous call =>
      cases call with
      | registerSchool dto => exact absurd rfl (ordinary dto)
      | describeInvitation token => exact .refl _
      | acceptInvitation token name =>
          exact World.commit_writes fun _ _ success => InvitationsService.accept_writes success
      | completeConnection provider code state =>
          simp only [serve, PublicCall.run]
          split
          · exact .refl _
          · exact MeetingAccountsService.completeConnection_writes

theorem Request.registers_or_ordinary (request : Request) :
    (∃ dto, request = .anonymous (.registerSchool dto)) ∨ request.Ordinary := by
  by_cases registers : ∃ dto, request = .anonymous (.registerSchool dto)
  · exact .inl registers
  · exact .inr fun dto same => registers ⟨dto, same⟩

/-- What every write and every registration preserves holds in every reachable state. -/
theorem Reachable.preserve {holds : Db → Prop}
    (kept : ∀ {db next}, Db.Write db next → holds db → holds next)
    (founded : ∀ {db next school admin}, Db.Founds db next school admin → holds db → holds next)
    (first : holds .empty) (reachable : Reachable platform world) : holds world.db := by
  induction reachable with
  | refl => exact first
  | tail _ step ih =>
      obtain ⟨outside, request, rfl⟩ := step
      rcases request.registers_or_ordinary with ⟨dto, rfl⟩ | ordinary
      · rcases registerSchool_run dto with ⟨reason, refused⟩ | ⟨admin, next, registered, made⟩
        · rw [Request.serve, refused]
          exact ih
        · obtain ⟨school, -, -, founds⟩ := SchoolsService.register_founds registered
          rw [Request.serve, made]
          exact founded founds ih
      · exact (Request.serve_writes ordinary).preserve kept ih

end

end TutorApp
