import TutorApp.Register
import TutorApp.TenantIsolation

set_option autoImplicit false

namespace TutorApp

open Relational

/-- Two states with the same students, lessons and register. -/
structure Db.SameBooks (db next : Db) : Prop where
  students : next.students = db.students
  lessons : next.lessons = db.lessons
  attendances : next.attendances = db.attendances

namespace Db

variable {db next later : Db} {id : Id}

theorem SameBooks.refl (db : Db) : db.SameBooks db := ⟨rfl, rfl, rfl⟩

theorem SameBooks.trans (first : db.SameBooks next) (second : next.SameBooks later) :
    db.SameBooks later :=
  ⟨second.students.trans first.students, second.lessons.trans first.lessons,
    second.attendances.trans first.attendances⟩

theorem createSchool_books {row : School} (done : db.createSchool row = .ok next) :
    db.SameBooks next := by
  obtain ⟨-, schools, -, rfl⟩ := createSchool_ok.mp done
  exact ⟨rfl, rfl, rfl⟩

theorem updateSchool_books {name timezone : Option String}
    (done : db.updateSchool id name timezone = .ok next) : db.SameBooks next := by
  obtain ⟨schools, -, rfl⟩ := updateSchool_ok.mp done
  exact ⟨rfl, rfl, rfl⟩

theorem createUser_books {row : User} (done : db.createUser row = .ok next) :
    db.SameBooks next := by
  obtain ⟨-, -, users, -, rfl⟩ := createUser_ok.mp done
  exact ⟨rfl, rfl, rfl⟩

theorem updateUserConfig_books {config : Js.Json} (done : db.updateUserConfig id config = .ok next) :
    db.SameBooks next := by
  obtain ⟨users, -, rfl⟩ := updateUserConfig_ok.mp done
  exact ⟨rfl, rfl, rfl⟩

theorem createSubject_books {row : Subject} (done : db.createSubject row = .ok next) :
    db.SameBooks next := by
  obtain ⟨-, -, subjects, -, rfl⟩ := createSubject_ok.mp done
  exact ⟨rfl, rfl, rfl⟩

theorem renameSubject_books {name : String} (done : db.renameSubject id name = .ok next) :
    db.SameBooks next := by
  obtain ⟨-, subjects, -, rfl⟩ := renameSubject_ok.mp done
  exact ⟨rfl, rfl, rfl⟩

theorem hideSubject_books {hiddenAt : Option Js.Instant}
    (done : db.hideSubject id hiddenAt = .ok next) : db.SameBooks next := by
  obtain ⟨subjects, -, rfl⟩ := hideSubject_ok.mp done
  exact ⟨rfl, rfl, rfl⟩

theorem createGroup_books {row : Group} (done : db.createGroup row = .ok next) :
    db.SameBooks next := by
  obtain ⟨-, groups, -, rfl⟩ := createGroup_ok.mp done
  exact ⟨rfl, rfl, rfl⟩

theorem updateGroup_books {patch : GroupPatch} (done : db.updateGroup id patch = .ok next) :
    db.SameBooks next := by
  obtain ⟨-, groups, -, rfl⟩ := updateGroup_ok.mp done
  exact ⟨rfl, rfl, rfl⟩

theorem upsertMember_books {row : GroupMember} (done : db.upsertMember row = .ok next) :
    db.SameBooks next := by
  obtain ⟨-, ⟨members, -, rfl⟩ | ⟨-, rfl⟩⟩ := upsertMember_ok.mp done
  · exact ⟨rfl, rfl, rfl⟩
  · exact SameBooks.refl db

theorem createNote_books {row : Note} (done : db.createNote row = .ok next) :
    db.SameBooks next := by
  obtain ⟨-, notes, -, rfl⟩ := createNote_ok.mp done
  exact ⟨rfl, rfl, rfl⟩

theorem deleteNote_books (done : db.deleteNote id = .ok next) : db.SameBooks next := by
  obtain ⟨notes, -, rfl⟩ := deleteNote_ok.mp done
  exact ⟨rfl, rfl, rfl⟩

theorem createGrade_books {row : Grade} (done : db.createGrade row = .ok next) :
    db.SameBooks next := by
  obtain ⟨-, grades, -, rfl⟩ := createGrade_ok.mp done
  exact ⟨rfl, rfl, rfl⟩

theorem updateGrade_books {data : GradeData} (done : db.updateGrade id data = .ok next) :
    db.SameBooks next := by
  obtain ⟨grades, -, rfl⟩ := updateGrade_ok.mp done
  exact ⟨rfl, rfl, rfl⟩

theorem deleteGrade_books (done : db.deleteGrade id = .ok next) : db.SameBooks next := by
  obtain ⟨grades, -, rfl⟩ := deleteGrade_ok.mp done
  exact ⟨rfl, rfl, rfl⟩

theorem upsertInvitation_books {row : Invitation} (done : db.upsertInvitation row = .ok next) :
    db.SameBooks next := by
  obtain ⟨-, -, stored⟩ := upsertInvitation_ok.mp done
  split at stored
  · obtain rfl := stored
    exact ⟨rfl, rfl, rfl⟩
  · obtain ⟨invitations, -, rfl⟩ := stored
    exact ⟨rfl, rfl, rfl⟩

theorem createAddons_books {userId enabledById : Id} {addons : List AddonKey}
    (done : db.createAddons userId enabledById addons = .ok next) : db.SameBooks next := by
  obtain ⟨-, rfl⟩ := createAddons_ok.mp done
  clear done
  induction addons generalizing db with
  | nil => exact SameBooks.refl db
  | cons addon rest ih =>
      rw [List.foldl_cons]
      refine SameBooks.trans ?_ ih
      unfold createAddon
      split <;> exact ⟨rfl, rfl, rfl⟩

end Db

/-- Requests that set a balance, and whose. -/
def Request.credits (outside : Outside) : Request → Option Id
  | .command _ (.createStudent dto) =>
      match dto.paidLessonsLeft with
      | .given _ => some outside.draw.id
      | _ => none
  | .command _ (.updateStudent id dto) =>
      match dto.paidLessonsLeft with
      | .given _ => some id
      | _ => none
  | _ => none

/-- Requests that remove a group with all its lessons. -/
def Request.disbands : Request → Bool
  | .command _ (.removeGroup _) => true
  | _ => false

/-- All that a request can do to the students, the lessons and the register. -/
inductive BookStep (outside : Outside) (request : Request) (db : Db) : Db → Prop where
  | idle {next : Db} (same : db.SameBooks next) : BookStep outside request db next
  | enrolled {next : Db} (row : Student) (drawn : row.id = outside.draw.id)
      (credited : row.paidLessonsLeft = 0 ∨ request.credits outside = some row.id)
      (done : db.createStudent row = .ok next) : BookStep outside request db next
  | edited {next : Db} (id : Id) (patch : Db.StudentPatch)
      (credited : patch.paidLessonsLeft = none ∨ request.credits outside = some id)
      (done : db.updateStudent id patch = .ok next) : BookStep outside request db next
  | removed {next : Db} (id : Id) (done : db.deleteStudent id = .ok next) :
      BookStep outside request db next
  | disbanded {next : Db} (id : Id) (asked : request.disbands = true)
      (done : db.deleteGroup id = .ok next) : BookStep outside request db next
  | booked {arranged next : Db} (row : Lesson) (same : db.SameBooks arranged)
      (done : arranged.createLesson row = .ok next) : BookStep outside request db next
  | stated {next : Db} (id : Id) (patch : Db.LessonPatch)
      (done : db.updateLesson id patch = .ok next) : BookStep outside request db next
  | written {register next : Db} (lessonId : Id) (marks : List MarkAttendanceDto)
      (patch : Db.LessonPatch)
      (eligible : ∀ mark ∈ marks, mark.studentId ∈ LessonsService.studentIdsFor lessonId db)
      (marked : GradebookService.writeMarks lessonId marks db = .ok register)
      (done : register.updateLesson lessonId patch = .ok next) : BookStep outside request db next

section

variable {platform : Platform} {user : User} {draw : Draw} {db next : Db} {id : Id}

theorem SubjectsService.create_books {name : String} {subject : Subject}
    (success : create platform user draw name db = .ok (subject, next)) : db.SameBooks next := by
  obtain ⟨-, created, -⟩ := create_ok.mp success
  exact Db.createSubject_books created

theorem SubjectsService.rename_books {name : String} {subject : Subject}
    (success : rename platform user id name db = .ok (subject, next)) : db.SameBooks next := by
  obtain ⟨_, -, -, renamed, -⟩ := rename_ok.mp success
  exact Db.renameSubject_books renamed

theorem SubjectsService.hide_books {subject : Subject}
    (success : hide platform user draw id db = .ok (subject, next)) : db.SameBooks next := by
  obtain ⟨_, -, -, done⟩ := hide_ok.mp success
  split at done
  · exact done.2 ▸ Db.SameBooks.refl db
  · exact Db.hideSubject_books done.1

theorem SubjectsService.restore_books {subject : Subject}
    (success : restore user id db = .ok (subject, next)) : db.SameBooks next := by
  obtain ⟨_, -, restored, -⟩ := restore_ok.mp success
  exact Db.hideSubject_books restored

theorem GroupsService.create_books {dto : CreateGroupDto} {view : GroupView}
    (success : create platform user draw dto db = .ok (view, next)) : db.SameBooks next := by
  obtain ⟨_, -, created, -⟩ := create_ok.mp success
  exact Db.createGroup_books created

theorem GroupsService.update_books {dto : UpdateGroupDto} {view : GroupView}
    (success : update platform user id dto db = .ok (view, next)) : db.SameBooks next := by
  obtain ⟨_, -, _, -, _, -, updated, -⟩ := update_ok.mp success
  exact Db.updateGroup_books updated

theorem GroupsService.addMember_books {groupId studentId : Id} {view : GroupView}
    (success : addMember platform user groupId studentId db = .ok (view, next)) :
    db.SameBooks next := by
  obtain ⟨_, -, _, -, added, -⟩ := addMember_ok.mp success
  exact Db.upsertMember_books added

theorem GroupsService.removeMember_books {groupId studentId : Id} {view : GroupView}
    (success : removeMember platform user groupId studentId db = .ok (view, next)) :
    db.SameBooks next := by
  obtain ⟨_, -, -, rfl⟩ := removeMember_ok.mp success
  exact ⟨rfl, rfl, rfl⟩

theorem LessonsService.meetingFor_books {endpoints : Endpoints} {subjectId : Option Id}
    {startsAt : Option Js.Instant} {durationMinutes : Int} :
    db.SameBooks
      (meetingFor platform user draw endpoints subjectId startsAt durationMinutes db).db := by
  obtain ⟨meetingAccounts, same⟩ :=
    meetingFor_db platform user draw endpoints subjectId startsAt durationMinutes db
  rw [same]
  exact ⟨rfl, rfl, rfl⟩

theorem GradebookService.storeGrade_books {dto : WriteGradeDto} {studentId : Id}
    {lessonId : Option Id} {view : GradeWithAuthor}
    (success : storeGrade user draw dto studentId lessonId db = .ok (view, next)) :
    db.SameBooks next := by
  obtain ⟨-, _, -, created, -⟩ := storeGrade_ok.mp success
  exact Db.createGrade_books created

theorem GradebookService.addForStudent_books {studentId : Id} {dto : WriteGradeDto}
    {view : GradeWithAuthor} (success : addForStudent user draw studentId dto db = .ok (view, next)) :
    db.SameBooks next := by
  obtain ⟨_, -, stored⟩ := addForStudent_ok.mp success
  exact storeGrade_books stored

theorem GradebookService.addForLesson_books {lessonId : Id} {dto : WriteGradeDto}
    {view : GradeWithAuthor} (success : addForLesson user draw lessonId dto db = .ok (view, next)) :
    db.SameBooks next := by
  obtain ⟨_, -, _, -, stored⟩ := addForLesson_ok.mp success
  exact storeGrade_books stored

theorem GradebookService.update_books {dto : WriteGradeDto} {view : GradeWithAuthor}
    (success : update user id dto db = .ok (view, next)) : db.SameBooks next := by
  obtain ⟨_, -, -, _, -, updated, -⟩ := update_ok.mp success
  exact Db.updateGrade_books updated

theorem GradebookService.remove_books (success : remove user id db = .ok next) :
    db.SameBooks next := by
  obtain ⟨_, -, deleted⟩ := remove_ok.mp success
  exact Db.deleteGrade_books deleted

theorem NotesService.addForStudent_books {studentId : Id} {text : String} {view : NoteWithAuthor}
    (success : addForStudent user draw studentId text db = .ok (view, next)) :
    db.SameBooks next := by
  obtain ⟨_, -, created, -⟩ := addForStudent_ok.mp success
  exact Db.createNote_books created

theorem NotesService.addForLesson_books {lessonId : Id} {text : String} {view : NoteWithAuthor}
    (success : addForLesson user draw lessonId text db = .ok (view, next)) :
    db.SameBooks next := by
  obtain ⟨_, -, created, -⟩ := addForLesson_ok.mp success
  exact Db.createNote_books created

theorem NotesService.remove_books (success : remove user id db = .ok next) : db.SameBooks next := by
  obtain ⟨_, -, -, -, -, deleted⟩ := remove_ok.mp success
  exact Db.deleteNote_books deleted

theorem FilesService.upload_books {saves : Bool} {findTarget : Db → Service UploadTarget}
    {incoming : IncomingFile} {world : World} :
    world.db.SameBooks (upload platform user draw saves findTarget incoming world).2.db := by
  obtain ⟨files, same⟩ := upload_db platform user draw saves findTarget incoming world
  rw [same]
  exact ⟨rfl, rfl, rfl⟩

theorem FilesService.remove_books {world : World} :
    world.db.SameBooks (remove user id world).2.db := by
  obtain ⟨files, same⟩ := remove_db user id world
  rw [same]
  exact ⟨rfl, rfl, rfl⟩

theorem AddonsService.setFor_books {userId : Id} {addons unique : List AddonKey}
    (success : setFor user userId addons db = .ok (unique, next)) : db.SameBooks next := by
  obtain ⟨_, -, -, created, -⟩ := setFor_ok.mp success
  have dropped : db.SameBooks (db.deleteAddons userId addons.eraseDups) := ⟨rfl, rfl, rfl⟩
  exact dropped.trans (Db.createAddons_books created)

theorem SchoolsService.update_books {dto : UpdateSchoolDto} {school : School}
    (success : update user dto db = .ok (school, next)) : db.SameBooks next := by
  obtain ⟨_, -, updated, -⟩ := update_ok.mp success
  exact Db.updateSchool_books updated

theorem SchoolsService.createTutor_books {dto : CreateTutorDto} {tutor : TutorFields}
    (success : createTutor platform user draw dto db = .ok (tutor, next)) : db.SameBooks next := by
  obtain ⟨-, created, -⟩ := createTutor_ok.mp success
  exact Db.createUser_books created

theorem SchoolsService.register_books {dto : RegisterSchoolDto} {admin : User}
    (success : register platform draw dto db = .ok (admin, next)) : db.SameBooks next := by
  obtain ⟨-, -, _, founded, joined, -⟩ := register_ok.mp success
  exact (Db.createSchool_books founded).trans (Db.createUser_books joined)

theorem InvitationsService.invite_books {email : String} {view : InvitationView}
    (success : invite platform user draw email db = .ok (view, next)) : db.SameBooks next := by
  obtain ⟨-, _, -, stored, _, -, -⟩ := invite_ok.mp success
  exact Db.upsertInvitation_books stored

theorem InvitationsService.revoke_books (success : revoke user id db = .ok next) :
    db.SameBooks next := by
  obtain ⟨-, rfl⟩ := revoke_ok.mp success
  exact ⟨rfl, rfl, rfl⟩

theorem InvitationsService.accept_books {token name : String} {account : User}
    (success : accept draw token name db = .ok (account, next)) : db.SameBooks next := by
  obtain ⟨invitation, -, -, _, created, -, rfl⟩ := accept_ok.mp success
  have claimed : db.SameBooks (db.claimInvitation invitation.id draw.now).2 := ⟨rfl, rfl, rfl⟩
  exact claimed.trans ((Db.createUser_books created).trans ⟨rfl, rfl, rfl⟩)

theorem UsersService.updateConfig_books {input : UserConfigInput} {config : UserConfig}
    (success : updateConfig platform user input db = .ok (config, next)) : db.SameBooks next := by
  obtain ⟨_, -, updated, -⟩ := updateConfig_ok.mp success
  exact Db.updateUserConfig_books updated

theorem MeetingAccountsService.disconnect_books {provider : MeetingProvider}
    (success : disconnect user provider db = .ok next) : db.SameBooks next := by
  obtain ⟨-, rfl⟩ := disconnect_ok.mp success
  exact ⟨rfl, rfl, rfl⟩

theorem MeetingAccountsService.completeConnection_books {endpoints : Endpoints}
    {provider : MeetingProvider} {code state : String} :
    db.SameBooks (completeConnection platform draw endpoints provider code state db).db := by
  obtain ⟨meetingAccounts, same⟩ := completeConnection_db platform draw endpoints provider code state db
  rw [same]
  exact ⟨rfl, rfl, rfl⟩

end

section

variable {platform : Platform} {user : User} {outside : Outside} {request : Request}
  {world : World}

theorem BookStep.of_commit {α : Type} {answer : α → Response} {result : Service (α × Db)}
    (step : ∀ value db, result = .ok (value, db) → BookStep outside request world.db db) :
    BookStep outside request world.db (world.commit answer result).world.db :=
  World.commit_keeps (BookStep outside request world.db) (.idle (Db.SameBooks.refl _)) step

theorem BookStep.of_commitUnit {result : Service Db}
    (step : ∀ db, result = .ok db → BookStep outside request world.db db) :
    BookStep outside request world.db (world.commitUnit result).world.db :=
  World.commitUnit_keeps (BookStep outside request world.db) (.idle (Db.SameBooks.refl _)) step

theorem StudentsService.create_bookStep {userId : Id} {dto : CreateStudentDto} {view : StudentView}
    {db next : Db} (success : create user outside.draw dto db = .ok (view, next)) :
    BookStep outside (.command userId (.createStudent dto)) db next := by
  obtain ⟨_, -, created, -⟩ := create_ok.mp success
  refine .enrolled _ rfl ?_ created
  cases paid : dto.paidLessonsLeft with
  | given amount =>
      right
      simp only [Request.credits, paid]
  | absent => exact .inl rfl
  | null => exact .inl rfl

theorem StudentsService.update_bookStep {userId id : Id} {dto : UpdateStudentDto}
    {view : StudentView} {db next : Db} (success : update user id dto db = .ok (view, next)) :
    BookStep outside (.command userId (.updateStudent id dto)) db next := by
  obtain ⟨student, found, _, -, patch, balance, updated, -⟩ := update_ok.mp success
  have same : student.id = id :=
    (Table.find_eq_some.mp ((findOne_ok user).mp found).1).2
  refine .edited student.id _ ?_ updated
  cases paid : dto.paidLessonsLeft with
  | given amount =>
      right
      simp only [Request.credits, paid, same]
  | absent =>
      rw [paid] at balance
      exact .inl (Except.ok.inj balance).symm
  | null =>
      rw [paid] at balance
      cases balance

/-- Refused or not, a booking adds at most its lesson. -/
theorem LessonsService.create_bookStep {dto : CreateLessonDto} {db : Db} :
    BookStep outside request db
      (create platform user outside.draw outside.endpoints dto db).db := by
  unfold create
  dsimp only
  split
  · exact .idle (Db.SameBooks.refl _)
  · split
    · exact .idle meetingFor_books
    · split
      · exact .idle meetingFor_books
      · rename_i stored
        obtain ⟨_, -, _, -, _, rfl, created, -⟩ := storeLesson_ok.mp stored
        exact .booked _ meetingFor_books created

theorem GradebookService.writeJournal_bookStep {lessonId : Id} {dto : WriteJournalDto}
    {view : JournalView} {db next : Db}
    (success : writeJournal platform user lessonId dto db = .ok (view, next)) :
    BookStep outside request db next := by
  obtain ⟨_, register, -, -, -, eligible, marked, updated⟩ := writeJournal_accepted success
  exact .written lessonId _ _ eligible marked updated

theorem Command.run_bookStep {userId : Id} (command : Command) :
    BookStep outside (.command userId command) world.db
      (command.run platform user outside world).world.db := by
  cases command with
  | createSubject name =>
      exact .of_commit fun _ _ success => .idle (SubjectsService.create_books success)
  | renameSubject id name =>
      exact .of_commit fun _ _ success => .idle (SubjectsService.rename_books success)
  | hideSubject id =>
      exact .of_commit fun _ _ success => .idle (SubjectsService.hide_books success)
  | restoreSubject id =>
      exact .of_commit fun _ _ success => .idle (SubjectsService.restore_books success)
  | createStudent dto =>
      exact .of_commit fun _ _ success => StudentsService.create_bookStep success
  | updateStudent id dto =>
      exact .of_commit fun _ _ success => StudentsService.update_bookStep success
  | removeStudent id =>
      refine .of_commitUnit fun _ success => ?_
      obtain ⟨student, -, deleted⟩ := StudentsService.remove_ok.mp success
      exact .removed student.id deleted
  | createGroup dto =>
      exact .of_commit fun _ _ success => .idle (GroupsService.create_books success)
  | updateGroup id dto =>
      exact .of_commit fun _ _ success => .idle (GroupsService.update_books success)
  | removeGroup id =>
      refine .of_commitUnit fun _ success => ?_
      obtain ⟨group, -, deleted⟩ := GroupsService.remove_ok.mp success
      exact .disbanded group.id rfl deleted
  | addMember groupId studentId =>
      exact .of_commit fun _ _ success => .idle (GroupsService.addMember_books success)
  | removeMember groupId studentId =>
      exact .of_commit fun _ _ success => .idle (GroupsService.removeMember_books success)
  | createLesson dto => exact LessonsService.create_bookStep
  | updateLessonStatus id status =>
      refine .of_commit fun _ _ success => ?_
      obtain ⟨lesson, -, updated, -⟩ := LessonsService.updateStatus_ok.mp success
      exact .stated lesson.id _ updated
  | writeJournal lessonId dto =>
      exact .of_commit fun _ _ success => GradebookService.writeJournal_bookStep success
  | addGradeForStudent studentId dto =>
      exact .of_commit fun _ _ success => .idle (GradebookService.addForStudent_books success)
  | addGradeForLesson lessonId dto =>
      exact .of_commit fun _ _ success => .idle (GradebookService.addForLesson_books success)
  | updateGrade id dto =>
      exact .of_commit fun _ _ success => .idle (GradebookService.update_books success)
  | removeGrade id =>
      exact .of_commitUnit fun _ success => .idle (GradebookService.remove_books success)
  | addNoteForStudent studentId text =>
      exact .of_commit fun _ _ success => .idle (NotesService.addForStudent_books success)
  | addNoteForLesson lessonId text =>
      exact .of_commit fun _ _ success => .idle (NotesService.addForLesson_books success)
  | removeNote id =>
      exact .of_commitUnit fun _ success => .idle (NotesService.remove_books success)
  | uploadForStudent studentId incoming => exact .idle FilesService.upload_books
  | uploadToLibrary incoming => exact .idle FilesService.upload_books
  | uploadForLesson lessonId incoming => exact .idle FilesService.upload_books
  | openFile id => exact .idle (Db.SameBooks.refl _)
  | removeFile id => exact .idle FilesService.remove_books
  | setAddons userId addons =>
      exact .of_commit fun _ _ success => .idle (AddonsService.setFor_books success)
  | updateSchool dto =>
      exact .of_commit fun _ _ success => .idle (SchoolsService.update_books success)
  | createTutor dto =>
      exact .of_commit fun _ _ success => .idle (SchoolsService.createTutor_books success)
  | invite email =>
      exact .of_commit fun _ _ success => .idle (InvitationsService.invite_books success)
  | revokeInvitation id =>
      exact .of_commitUnit fun _ success => .idle (InvitationsService.revoke_books success)
  | updateConfig input =>
      exact .of_commit fun _ _ success => .idle (UsersService.updateConfig_books success)
  | disconnect provider =>
      refine .of_commitUnit fun _ success => ?_
      obtain ⟨_, -, disconnected⟩ := bind_ok.mp success
      exact .idle (MeetingAccountsService.disconnect_books disconnected)

theorem PublicCall.run_books (call : PublicCall) :
    world.db.SameBooks (call.run platform outside world).world.db := by
  cases call with
  | registerSchool dto =>
      simp only [run, World.commit]
      split
      · exact Db.SameBooks.refl _
      · rename_i success
        exact SchoolsService.register_books success
  | describeInvitation token => exact Db.SameBooks.refl _
  | acceptInvitation token name =>
      simp only [run, World.commit]
      split
      · exact Db.SameBooks.refl _
      · rename_i success
        exact InvitationsService.accept_books success
  | completeConnection provider code state =>
      simp only [run]
      split
      · exact Db.SameBooks.refl _
      · exact MeetingAccountsService.completeConnection_books

/-- Every request is a step of the books. -/
theorem Request.serve_bookStep (request : Request) :
    BookStep outside request world.db (request.serve platform outside world).world.db := by
  cases request with
  | query userId asked =>
      simp only [serve]
      split <;> exact .idle (Db.SameBooks.refl _)
  | command userId asked =>
      simp only [serve]
      split
      · exact .idle (Db.SameBooks.refl _)
      · exact asked.run_bookStep
  | anonymous call => exact .idle call.run_books

theorem World.commit_failed {α : Type} {answer : α → Response} {result : Service (α × Db)}
    {reason : HttpError} (failed : (world.commit answer result).result = .error reason) :
    world.db.SameBooks (world.commit answer result).world.db := by
  cases result with
  | error other => exact Db.SameBooks.refl _
  | ok value => cases failed

theorem World.commitUnit_failed {result : Service Db} {reason : HttpError}
    (failed : (world.commitUnit result).result = .error reason) :
    world.db.SameBooks (world.commitUnit result).world.db := by
  cases result with
  | error other => exact Db.SameBooks.refl _
  | ok value => cases failed

/-- A booking that is refused can have touched the connection to a provider, not the books. -/
theorem LessonsService.create_failed {dto : CreateLessonDto} {db : Db} {reason : HttpError}
    (failed : (create platform user outside.draw outside.endpoints dto db).result =
      .error reason) :
    db.SameBooks (create platform user outside.draw outside.endpoints dto db).db := by
  unfold create at failed ⊢
  dsimp only at failed ⊢
  split
  · exact Db.SameBooks.refl _
  · split
    · exact meetingFor_books
    · split
      · exact meetingFor_books
      · simp_all

theorem Command.run_failed {reason : HttpError} {command : Command}
    (failed : (command.run platform user outside world).result = .error reason) :
    world.db.SameBooks (command.run platform user outside world).world.db := by
  cases command with
  | createLesson dto =>
      cases booked : (LessonsService.create platform user outside.draw outside.endpoints dto
          world.db).result with
      | error other => exact LessonsService.create_failed booked
      | ok view => simp [run, World.conclude, booked, Except.map] at failed
  | removeStudent id => exact World.commitUnit_failed failed
  | removeGroup id => exact World.commitUnit_failed failed
  | removeGrade id => exact World.commitUnit_failed failed
  | removeNote id => exact World.commitUnit_failed failed
  | revokeInvitation id => exact World.commitUnit_failed failed
  | disconnect provider => exact World.commitUnit_failed failed
  | uploadForStudent studentId incoming => exact FilesService.upload_books
  | uploadToLibrary incoming => exact FilesService.upload_books
  | uploadForLesson lessonId incoming => exact FilesService.upload_books
  | openFile id => exact Db.SameBooks.refl _
  | removeFile id => exact FilesService.remove_books
  | _ => exact World.commit_failed failed

/-- A request that fails leaves students, lessons and the register as they were. -/
theorem Request.serve_failed {reason : HttpError}
    (failed : (request.serve platform outside world).result = .error reason) :
    world.db.SameBooks (request.serve platform outside world).world.db := by
  cases request with
  | query userId asked =>
      simp only [serve]
      split <;> exact Db.SameBooks.refl _
  | command userId asked =>
      simp only [serve] at failed ⊢
      split
      · exact Db.SameBooks.refl _
      · rename_i user found
        simp only [found] at failed
        exact asked.run_failed failed
  | anonymous call => exact call.run_books

end

end TutorApp
