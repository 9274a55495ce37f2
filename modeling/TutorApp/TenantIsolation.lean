import TutorApp.TenantStatements

set_option autoImplicit false

namespace TutorApp

open Relational
open TenantOwnership

/-- The user a request is served for, as the database has them. -/
def Db.Caller (db : Db) (user : User) : Prop := db.users.find user.id = some user

theorem Db.Caller.home {db : Db} {user : User} (caller : db.Caller user) :
    db.home (.user user.id) = some user.schoolId :=
  Db.home_of_find Slot.users (.user user.id) rfl caller

theorem Db.Caller.school {db : Db} {user : User} (tenanted : db.Tenanted)
    (caller : db.Caller user) : db.home (.school user.schoolId) = some user.schoolId :=
  Db.belongs_user.mp (Db.Tenanted.belongs_own tenanted (.user user)
    (Table.find_eq_some.mp caller).1 List.mem_cons_self)

section

variable {platform : Platform} {user : User} {draw : Draw} {db next : Db}

theorem SubjectsService.findOne_home {id : Id} {subject : Subject}
    (found : SubjectsService.findOne user id db = .ok subject) :
    db.home (.subject subject.id) = some user.schoolId := by
  obtain ⟨found, school⟩ := (SubjectsService.findOne_ok user).mp found
  have same : subject.id = id := (Table.find_eq_some.mp found).2
  rw [same, ← school]
  exact Db.home_of_find Slot.subjects (.subject id) rfl found

theorem StudentsService.findOne_home {id : Id} {student : Student}
    (found : StudentsService.findOne user id db = .ok student) :
    db.home (.student student.id) = some user.schoolId := by
  obtain ⟨found, owned⟩ := (StudentsService.findOne_ok user).mp found
  have same : student.id = id := (Table.find_eq_some.mp found).2
  rw [same, ← User.owns_school owned]
  exact Db.home_of_find Slot.students (.student id) rfl found

theorem GroupsService.findOne_home {id : Id} {group : Group}
    (found : GroupsService.findOne user id db = .ok group) :
    db.home (.group group.id) = some user.schoolId := by
  obtain ⟨found, owned⟩ := (GroupsService.findOne_ok user).mp found
  have same : group.id = id := (Table.find_eq_some.mp found).2
  rw [same, ← User.owns_school owned]
  exact Db.home_of_find Slot.groups (.group id) rfl found

theorem LessonsService.findReachable_home {id : Id} {lesson : Lesson}
    (found : LessonsService.findReachable user id db = .ok lesson) :
    db.home (.lesson lesson.id) = some user.schoolId := by
  obtain ⟨found, owned⟩ := (LessonsService.findReachable_ok user).mp found
  have same : lesson.id = id := (Table.find_eq_some.mp found).2
  rw [same, ← User.owns_school owned]
  exact Db.home_of_find Slot.lessons (.lesson id) rfl found

theorem SubjectsService.create_confined {name : String} {subject : Subject}
    (tenanted : db.Tenanted)
    (success : SubjectsService.create platform user draw name db = .ok (subject, next)) :
    Db.Confined user.schoolId db next := by
  obtain ⟨-, created, -⟩ := create_ok.mp success
  exact Db.createSubject_confined tenanted created

theorem SubjectsService.rename_confined {id : Id} {name : String} {subject : Subject}
    (tenanted : db.Tenanted)
    (success : SubjectsService.rename platform user id name db = .ok (subject, next)) :
    Db.Confined user.schoolId db next := by
  obtain ⟨_, found, -, renamed, -⟩ := rename_ok.mp success
  exact Db.renameSubject_confined tenanted (findOne_home found) renamed

theorem SubjectsService.usage_subject {id : Id} {report : SubjectUsage}
    (success : SubjectsService.usage platform user draw id db = .ok report) :
    SubjectsService.findOne user id db = .ok report.subject := by
  simp only [usage, bind_ok, pure_ok] at success
  obtain ⟨_, found, rfl⟩ := success
  exact found

theorem SubjectsService.hide_confined {id : Id} {subject : Subject} (tenanted : db.Tenanted)
    (success : SubjectsService.hide platform user draw id db = .ok (subject, next)) :
    Db.Confined user.schoolId db next := by
  obtain ⟨_, found, -, done⟩ := hide_ok.mp success
  split at done
  · exact done.2 ▸ Ownership.Confined.refl _ _
  · exact Db.hideSubject_confined tenanted (findOne_home (usage_subject found)) done.1

theorem SubjectsService.restore_confined {id : Id} {subject : Subject} (tenanted : db.Tenanted)
    (success : SubjectsService.restore user id db = .ok (subject, next)) :
    Db.Confined user.schoolId db next := by
  obtain ⟨_, found, restored, -⟩ := restore_ok.mp success
  exact Db.hideSubject_confined tenanted (findOne_home found) restored

theorem StudentsService.create_confined {dto : CreateStudentDto} {view : StudentView}
    (tenanted : db.Tenanted) (caller : db.Caller user)
    (success : StudentsService.create user draw dto db = .ok (view, next)) :
    Db.Confined user.schoolId db next := by
  obtain ⟨_, resolved, created, -⟩ := create_ok.mp success
  exact Db.createStudent_confined tenanted (Db.belongs_student.mpr
    ⟨caller.school tenanted, caller.home, SubjectsService.resolve_ok user resolved⟩) created

theorem StudentsService.update_confined {id : Id} {dto : UpdateStudentDto} {view : StudentView}
    (tenanted : db.Tenanted)
    (success : StudentsService.update user id dto db = .ok (view, next)) :
    Db.Confined user.schoolId db next := by
  obtain ⟨_, found, _, subject, _, -, updated, -⟩ := update_ok.mp success
  exact Db.updateStudent_confined tenanted (findOne_home found) (subjectPatch_ok user subject) updated

theorem StudentsService.remove_confined {id : Id} (tenanted : db.Tenanted)
    (success : StudentsService.remove user id db = .ok next) :
    Db.Confined user.schoolId db next := by
  obtain ⟨_, found, deleted⟩ := remove_ok.mp success
  exact Db.deleteStudent_confined tenanted (findOne_home found) deleted

theorem GroupsService.create_confined {dto : CreateGroupDto} {view : GroupView}
    (tenanted : db.Tenanted) (caller : db.Caller user)
    (success : GroupsService.create platform user draw dto db = .ok (view, next)) :
    Db.Confined user.schoolId db next := by
  obtain ⟨_, resolved, created, -⟩ := create_ok.mp success
  exact Db.createGroup_confined tenanted (Db.belongs_group.mpr
    ⟨caller.school tenanted, caller.home, SubjectsService.resolve_ok user resolved⟩) created

theorem GroupsService.update_confined {id : Id} {dto : UpdateGroupDto} {view : GroupView}
    (tenanted : db.Tenanted)
    (success : GroupsService.update platform user id dto db = .ok (view, next)) :
    Db.Confined user.schoolId db next := by
  obtain ⟨_, found, _, subject, _, -, updated, -⟩ := update_ok.mp success
  exact Db.updateGroup_confined tenanted (findOne_home found)
    (StudentsService.subjectPatch_ok user subject) updated

theorem GroupsService.remove_confined {id : Id} (tenanted : db.Tenanted)
    (success : GroupsService.remove user id db = .ok next) :
    Db.Confined user.schoolId db next := by
  obtain ⟨_, found, deleted⟩ := remove_ok.mp success
  exact Db.deleteGroup_confined tenanted (findOne_home found) deleted

theorem GroupsService.addMember_confined {groupId studentId : Id} {view : GroupView}
    (tenanted : db.Tenanted)
    (success : GroupsService.addMember platform user groupId studentId db = .ok (view, next)) :
    Db.Confined user.schoolId db next := by
  obtain ⟨_, group, _, student, added, -⟩ := addMember_ok.mp success
  exact Db.upsertMember_confined tenanted
    (Db.belongs_member.mpr ⟨findOne_home group, StudentsService.findOne_home student⟩) added

theorem GroupsService.removeMember_confined {groupId studentId : Id} {view : GroupView}
    (tenanted : db.Tenanted)
    (success : GroupsService.removeMember platform user groupId studentId db = .ok (view, next)) :
    Db.Confined user.schoolId db next := by
  obtain ⟨_, group, -, rfl⟩ := removeMember_ok.mp success
  exact Db.deleteMember_confined tenanted (findOne_home group)

theorem MeetingAccountsService.accessTokenFor_confined {schoolId : Id} {endpoints : Endpoints}
    {account : MeetingAccount} (present : account ∈ db.meetingAccounts.rows)
    (belongs : db.Belongs schoolId (.meetingAccount account)) :
    Db.Confined schoolId db (accessTokenFor platform draw endpoints account db).db := by
  have owned : ∀ row ∈ db.meetingAccounts.find account.id,
      db.Belongs schoolId (.meetingAccount row) := by
    intro row found
    obtain ⟨member, same⟩ := Table.find_eq_some.mp found
    exact Table.key_injective present member same.symm ▸ belongs
  unfold accessTokenFor
  split
  · exact Ownership.Confined.refl _ _
  · split
    · exact Db.forgetMeetingAccount_confined owned
    · split
      · exact Db.forgetMeetingAccount_confined owned
      · split
        · exact Ownership.Confined.refl _ _
        · rename_i written
          obtain ⟨_, -, _, -, _, -, updated⟩ := (writeBack_ok platform).mp written
          exact Db.updateMeetingAccount_confined owned updated

theorem MeetingAccountsService.createRoom_confined {endpoints : Endpoints}
    {provider : MeetingProvider} {request : RoomRequest} (caller : db.Caller user) :
    Db.Confined user.schoolId db (createRoom platform user draw endpoints provider request db).db := by
  unfold createRoom
  split
  · exact Ownership.Confined.refl _ _
  · split
    · exact Ownership.Confined.refl _ _
    · rename_i account found
      have present := List.mem_of_find?_eq_some found
      have mine := List.find?_some found
      simp only [Bool.and_eq_true, beq_iff_eq] at mine
      have access : Db.Confined user.schoolId db
          (accessTokenFor platform draw endpoints account db).db :=
        accessTokenFor_confined present (Db.belongs_meetingAccount.mpr (mine.1 ▸ caller.home))
      dsimp only
      split
      · split
        · exact access
        · exact access
      · exact access

theorem MeetingAccountsService.disconnect_confined {provider : MeetingProvider}
    (caller : db.Caller user)
    (success : MeetingAccountsService.disconnect user provider db = .ok next) :
    Db.Confined user.schoolId db next := by
  obtain ⟨-, rfl⟩ := disconnect_ok.mp success
  exact Db.deleteMeetingAccounts_confined caller.home

/-- A connection is stored for the user the state names, in that user's school. -/
theorem MeetingAccountsService.completeConnection_confined {endpoints : Endpoints}
    {provider : MeetingProvider} {code state : String} (tenanted : db.Tenanted) :
    ∃ schoolId, Db.Confined schoolId db
      (completeConnection platform draw endpoints provider code state db).db := by
  unfold completeConnection
  dsimp only
  split
  · exact ⟨"", Ownership.Confined.refl _ _⟩
  · rename_i userId uri prepared
    split
    · exact ⟨"", Ownership.Confined.refl _ _⟩
    · split
      · exact ⟨"", Ownership.Confined.refl _ _⟩
      · split
        · exact ⟨"", Ownership.Confined.refl _ _⟩
        · rename_i stored
          simp only [bind_ok] at stored
          obtain ⟨row, -, upserted⟩ := stored
          obtain ⟨_, known, -⟩ := bind_ok.mp upserted
          obtain ⟨owner, found⟩ := Option.isSome_iff_exists.mp (require_ok.mp known)
          exact ⟨owner.schoolId, Db.upsertMeetingAccount_confined tenanted
            (Db.home_of_find Slot.users _ rfl found) upserted⟩

theorem LessonsService.bookingTarget_home {dto : CreateLessonDto} {target : Option Id × Option Id}
    (success : LessonsService.bookingTarget user dto db = .ok target) :
    (∀ id ∈ target.1, db.home (.student id) = some user.schoolId) ∧
      ∀ id ∈ target.2, db.home (.group id) = some user.schoolId := by
  unfold bookingTarget at success
  split at success
  · simp only [bind_ok, pure_ok] at success
    obtain ⟨_, -, student, found, rfl⟩ := success
    exact ⟨by rintro _ ⟨⟩; exact StudentsService.findOne_home found, by rintro _ ⟨⟩⟩
  · simp only [bind_ok, pure_ok] at success
    obtain ⟨_, -, group, found, rfl⟩ := success
    exact ⟨by rintro _ ⟨⟩, by rintro _ ⟨⟩; exact GroupsService.findOne_home found⟩

theorem LessonsService.storeLesson_confined {dto : CreateLessonDto} {subjectId : Option Id}
    {meeting : Option (MeetingProvider × String)} {view : LessonView} (tenanted : db.Tenanted)
    (caller : db.Caller user)
    (subject : ∀ id ∈ subjectId, db.home (.subject id) = some user.schoolId)
    (success : storeLesson platform user draw dto subjectId meeting db = .ok (view, next)) :
    Db.Confined user.schoolId db next := by
  obtain ⟨target, chosen, _, -, _, rfl, created, -⟩ := storeLesson_ok.mp success
  obtain ⟨student, group⟩ := bookingTarget_home chosen
  exact Db.createLesson_confined tenanted (Db.belongs_lesson.mpr
    ⟨caller.school tenanted, caller.home, subject, student, group⟩) created

theorem LessonsService.meetingFor_confined {endpoints : Endpoints} {subjectId : Option Id}
    {startsAt : Option Js.Instant} {durationMinutes : Int} (caller : db.Caller user) :
    Db.Confined user.schoolId db
      (meetingFor platform user draw endpoints subjectId startsAt durationMinutes db).db := by
  unfold meetingFor
  split
  · exact Ownership.Confined.refl _ _
  · exact MeetingAccountsService.createRoom_confined caller

/-- Booked or refused, a booking stays within the caller's school. -/
theorem LessonsService.create_confined {endpoints : Endpoints} {dto : CreateLessonDto}
    (tenanted : db.Tenanted) (caller : db.Caller user) :
    Db.Confined user.schoolId db (create platform user draw endpoints dto db).db := by
  unfold create
  dsimp only
  split
  · exact Ownership.Confined.refl _ _
  · rename_i subjectId checked
    obtain ⟨_, -, resolved⟩ := bind_ok.mp checked
    have subject := SubjectsService.resolve_ok user resolved
    have arranged : Db.Confined user.schoolId db (meetingFor platform user draw endpoints subjectId
        (platform.parseDate dto.startsAt) dto.durationMinutes db).db := meetingFor_confined caller
    obtain ⟨accounts, same⟩ := meetingFor_db platform user draw endpoints subjectId
      (platform.parseDate dto.startsAt) dto.durationMinutes db
    split
    · exact arranged
    · split
      · exact arranged
      · rename_i stored
        refine arranged.trans (storeLesson_confined (arranged.sound tenanted) ?_ ?_ stored)
        · rw [same]
          exact caller
        · rw [same]
          exact subject

theorem LessonsService.updateStatus_confined {id : Id} {status : LessonStatus} {view : LessonView}
    (tenanted : db.Tenanted)
    (success : LessonsService.updateStatus platform user id status db = .ok (view, next)) :
    Db.Confined user.schoolId db next := by
  obtain ⟨_, found, updated, -⟩ := updateStatus_ok.mp success
  exact Db.updateLesson_confined tenanted (findReachable_home found) updated

/-- Whoever a lesson is for is of the lesson's school. -/
theorem LessonsService.studentIdsFor_home {lessonId studentId schoolId : Id}
    (tenanted : db.Tenanted) (home : db.home (.lesson lessonId) = some schoolId)
    (eligible : studentId ∈ studentIdsFor lessonId db) :
    db.home (.student studentId) = some schoolId := by
  unfold studentIdsFor at eligible
  split at eligible
  · cases eligible
  · rename_i lesson found
    have belongs : db.Belongs schoolId (.lesson lesson) :=
      Db.owned_of_home Slot.lessons tenanted rfl home List.mem_cons_self
        (Table.find_eq_some.mp found).1 (decide_eq_true (Table.find_eq_some.mp found).2)
    obtain ⟨-, -, -, student, group⟩ := Db.belongs_lesson.mp belongs
    split at eligible
    · rename_i named
      exact student studentId (named ▸ List.mem_singleton.mp eligible ▸ rfl)
    · rename_i groupId none named
      obtain ⟨member, listed, rfl⟩ := List.mem_map.mp eligible
      obtain ⟨present, ofGroup⟩ := Table.mem_select.mp listed
      have enrolled : db.Belongs schoolId (.member member) :=
        Db.Tenanted.belongs_via tenanted _ present List.mem_cons_self
          (beq_iff_eq.mp ofGroup ▸ group groupId named)
      exact (Db.belongs_member.mp enrolled).2
    · cases eligible

theorem GradebookService.settle_confined {lessonId schoolId : Id} {mark : MarkAttendanceDto}
    (tenanted : db.Tenanted) (student : db.home (.student mark.studentId) = some schoolId)
    (success : settle lessonId mark db = .ok next) :
    Db.Confined schoolId db next ∧ ∀ ref, next.home ref = db.home ref := by
  simp only [settle, settleFrom] at success
  split at success
  · exact ⟨Db.addLessons_confined tenanted student success, Db.addLessons_home success⟩
  · cases success
    exact ⟨Ownership.Confined.refl _ _, fun _ => rfl⟩

theorem GradebookService.writeMark_confined {lessonId schoolId : Id} {mark : MarkAttendanceDto}
    (tenanted : db.Tenanted) (lesson : db.home (.lesson lessonId) = some schoolId)
    (student : db.home (.student mark.studentId) = some schoolId)
    (success : writeMark lessonId mark db = .ok next) :
    Db.Confined schoolId db next ∧ ∀ ref, next.home ref = db.home ref := by
  obtain ⟨_, settled, written⟩ := writeMark_ok.mp success
  obtain ⟨balance, homes⟩ := settle_confined tenanted student settled
  refine ⟨balance.trans (Db.upsertAttendance_confined (balance.sound tenanted)
    ((homes _).trans lesson) ((homes _).trans student) written), fun ref => ?_⟩
  exact (Db.upsertAttendance_home written ref).trans (homes ref)

theorem GradebookService.writeMarks_confined {lessonId schoolId : Id}
    {marks : List MarkAttendanceDto} (tenanted : db.Tenanted)
    (lesson : db.home (.lesson lessonId) = some schoolId)
    (students : ∀ mark ∈ marks, db.home (.student mark.studentId) = some schoolId)
    (success : writeMarks lessonId marks db = .ok next) :
    Db.Confined schoolId db next ∧ ∀ ref, next.home ref = db.home ref := by
  induction marks generalizing db with
  | nil =>
      cases success
      exact ⟨Ownership.Confined.refl _ _, fun _ => rfl⟩
  | cons mark rest ih =>
      obtain ⟨_, written, rest⟩ := writeMarks_cons_ok.mp success
      obtain ⟨first, homes⟩ := writeMark_confined tenanted lesson
        (students mark List.mem_cons_self) written
      obtain ⟨others, later⟩ := ih (first.sound tenanted) ((homes _).trans lesson)
        (fun mark member => (homes _).trans (students mark (List.mem_cons_of_mem _ member))) rest
      exact ⟨first.trans others, fun ref => (later ref).trans (homes ref)⟩

theorem GradebookService.writeJournal_confined {lessonId : Id} {dto : WriteJournalDto}
    {view : JournalView} (tenanted : db.Tenanted)
    (success : writeJournal platform user lessonId dto db = .ok (view, next)) :
    Db.Confined user.schoolId db next := by
  obtain ⟨lesson, found, checked, _, written, updated, -⟩ := writeJournal_ok.mp success
  have home := LessonsService.findReachable_home found
  obtain ⟨eligible, -⟩ := checkMarks_ok.mp checked
  obtain ⟨register, homes⟩ := writeMarks_confined tenanted home
    (fun mark member => LessonsService.studentIdsFor_home tenanted home (eligible mark member))
    written
  exact register.trans (Db.updateLesson_confined (register.sound tenanted)
    ((homes _).trans home) updated)

theorem GradebookService.storeGrade_confined {dto : WriteGradeDto} {studentId : Id}
    {lessonId : Option Id} {view : GradeWithAuthor} (tenanted : db.Tenanted)
    (caller : db.Caller user) (student : db.home (.student studentId) = some user.schoolId)
    (lesson : ∀ id ∈ lessonId, db.home (.lesson id) = some user.schoolId)
    (success : storeGrade user draw dto studentId lessonId db = .ok (view, next)) :
    Db.Confined user.schoolId db next := by
  obtain ⟨-, _, -, created, -⟩ := storeGrade_ok.mp success
  exact Db.createGrade_confined tenanted
    (Db.belongs_grade.mpr ⟨student, caller.home, lesson⟩) created

theorem GradebookService.addForStudent_confined {studentId : Id} {dto : WriteGradeDto}
    {view : GradeWithAuthor} (tenanted : db.Tenanted) (caller : db.Caller user)
    (success : addForStudent user draw studentId dto db = .ok (view, next)) :
    Db.Confined user.schoolId db next := by
  obtain ⟨_, found, stored⟩ := addForStudent_ok.mp success
  exact storeGrade_confined tenanted caller (StudentsService.findOne_home found) (by simp) stored

/-- A mark filed against a lesson is for somebody the lesson is for. -/
theorem GradebookService.resolveMarked_home {lesson : Lesson} {named : Js.Field Id}
    {studentId schoolId : Id} (tenanted : db.Tenanted)
    (belongs : db.Belongs schoolId (.lesson lesson))
    (home : db.home (.lesson lesson.id) = some schoolId)
    (success : resolveMarked lesson named db = .ok studentId) :
    db.home (.student studentId) = some schoolId := by
  unfold resolveMarked at success
  split at success
  · rename_i own
    simp only [bind_ok, pure_ok] at success
    obtain ⟨_, -, rfl⟩ := success
    exact (Db.belongs_lesson.mp belongs).2.2.2.1 _ own
  · split at success
    · cases success
    · cases success
    · simp only [bind_ok, pure_ok, require_ok, List.contains_iff_mem] at success
      obtain ⟨_, eligible, rfl⟩ := success
      exact LessonsService.studentIdsFor_home tenanted home eligible

theorem GradebookService.addForLesson_confined {lessonId : Id} {dto : WriteGradeDto}
    {view : GradeWithAuthor} (tenanted : db.Tenanted) (caller : db.Caller user)
    (success : addForLesson user draw lessonId dto db = .ok (view, next)) :
    Db.Confined user.schoolId db next := by
  obtain ⟨lesson, found, _, marked, stored⟩ := addForLesson_ok.mp success
  have home := LessonsService.findReachable_home found
  obtain ⟨lookup, owned⟩ := (LessonsService.findReachable_ok user).mp found
  have belongs := Db.Tenanted.belongs_own tenanted (.lesson lesson)
    (Table.find_eq_some.mp lookup).1 List.mem_cons_self
  rw [User.owns_school owned] at belongs
  refine storeGrade_confined tenanted caller (resolveMarked_home tenanted belongs home marked) ?_
    stored
  rintro _ ⟨⟩
  exact home

/-- A mark its caller may change is one of the caller's school. -/
theorem GradebookService.findWritable_owned {id : Id} {grade : Grade} (tenanted : db.Tenanted)
    (success : findWritable user id db = .ok grade) :
    ∀ row ∈ db.grades.find grade.id, db.Belongs user.schoolId (.grade row) := by
  obtain ⟨lookup, ⟨student, found⟩, -⟩ := findWritable_ok.mp success
  intro row again
  have same : grade.id = id := (Table.find_eq_some.mp lookup).2
  rw [same, lookup] at again
  cases again
  have ofStudent : student.id = grade.studentId :=
    (Table.find_eq_some.mp ((StudentsService.findOne_ok user).mp found).1).2
  exact Db.Tenanted.belongs_via tenanted _ (Table.find_eq_some.mp lookup).1 List.mem_cons_self
    (ofStudent ▸ StudentsService.findOne_home found)

theorem GradebookService.update_confined {id : Id} {dto : WriteGradeDto} {view : GradeWithAuthor}
    (tenanted : db.Tenanted) (success : update user id dto db = .ok (view, next)) :
    Db.Confined user.schoolId db next := by
  obtain ⟨_, found, -, _, -, updated, -⟩ := update_ok.mp success
  exact Db.updateGrade_confined (findWritable_owned tenanted found) updated

theorem GradebookService.remove_confined {id : Id} (tenanted : db.Tenanted)
    (success : remove user id db = .ok next) : Db.Confined user.schoolId db next := by
  obtain ⟨_, found, deleted⟩ := remove_ok.mp success
  exact Db.deleteGrade_confined (findWritable_owned tenanted found) deleted

theorem NotesService.addForStudent_confined {studentId : Id} {text : String}
    {view : NoteWithAuthor} (tenanted : db.Tenanted) (caller : db.Caller user)
    (success : addForStudent user draw studentId text db = .ok (view, next)) :
    Db.Confined user.schoolId db next := by
  obtain ⟨_, found, created, -⟩ := addForStudent_ok.mp success
  refine Db.createNote_confined tenanted (Db.belongs_note.mpr ⟨caller.home, ?_, by simp, .inl rfl⟩)
    created
  rintro _ ⟨⟩
  exact StudentsService.findOne_home found

theorem NotesService.addForLesson_confined {lessonId : Id} {text : String}
    {view : NoteWithAuthor} (tenanted : db.Tenanted) (caller : db.Caller user)
    (success : addForLesson user draw lessonId text db = .ok (view, next)) :
    Db.Confined user.schoolId db next := by
  obtain ⟨_, found, created, -⟩ := addForLesson_ok.mp success
  refine Db.createNote_confined tenanted (Db.belongs_note.mpr ⟨caller.home, by simp, ?_, .inr rfl⟩)
    created
  rintro _ ⟨⟩
  exact LessonsService.findReachable_home found

theorem LessonsService.reachesStudent_home {studentId : Option Id} {result : Unit}
    (success : reachesStudent user studentId db = .ok result) :
    ∀ id ∈ studentId, db.home (.student id) = some user.schoolId := by
  rintro id ⟨⟩
  simp only [reachesStudent, bind_ok] at success
  obtain ⟨student, found, -⟩ := success
  have same : student.id = id :=
    (Table.find_eq_some.mp ((StudentsService.findOne_ok user).mp found).1).2
  exact same ▸ StudentsService.findOne_home found

theorem LessonsService.reachesLesson_home {lessonId : Option Id} {result : Unit}
    (success : reachesLesson user lessonId db = .ok result) :
    ∀ id ∈ lessonId, db.home (.lesson id) = some user.schoolId := by
  rintro id ⟨⟩
  simp only [reachesLesson, bind_ok] at success
  obtain ⟨lesson, found, -⟩ := success
  have same : lesson.id = id :=
    (Table.find_eq_some.mp ((findReachable_ok user).mp found).1).2
  exact same ▸ findReachable_home found

theorem NotesService.remove_confined {id : Id} (tenanted : db.Tenanted)
    (success : remove user id db = .ok next) : Db.Confined user.schoolId db next := by
  obtain ⟨note, lookup, student, lesson, -, deleted⟩ := remove_ok.mp success
  refine Db.deleteNote_confined (fun row again => ?_) deleted
  obtain ⟨present, same⟩ := Table.find_eq_some.mp lookup
  rw [show note.id = id from same, lookup] at again
  cases again
  obtain ⟨schoolId, belongs⟩ := tenanted (.note note) present
  -- A note hangs off a student or a lesson, and whichever it is was just reached.
  rcases (Db.belongs_note.mp belongs).2.2.2 with named | named
  · obtain ⟨studentId, named⟩ := Option.isSome_iff_exists.mp named
    exact Db.Tenanted.belongs_via tenanted _ present (Db.note_student_ref.mpr named)
      (LessonsService.reachesStudent_home student studentId named)
  · obtain ⟨lessonId, named⟩ := Option.isSome_iff_exists.mp named
    exact Db.Tenanted.belongs_via tenanted _ present (Db.note_lesson_ref.mpr named)
      (LessonsService.reachesLesson_home lesson lessonId named)

/-- What an upload is stored against is of the caller's school. -/
def FilesService.UploadTarget.Of (db : Db) (schoolId : Id) (target : UploadTarget) : Prop :=
  target.schoolId = schoolId ∧ (∀ id ∈ target.studentId, db.home (.student id) = some schoolId) ∧
    ∀ id ∈ target.lessonId, db.home (.lesson id) = some schoolId

theorem FilesService.studentTarget_of {studentId : Id} {target : UploadTarget}
    (success : studentTarget user studentId db = .ok target) : target.Of db user.schoolId := by
  simp only [studentTarget, bind_ok, pure_ok] at success
  obtain ⟨_, found, rfl⟩ := success
  have owned := ((StudentsService.findOne_ok user).mp found).2
  refine ⟨User.owns_school owned, ?_, by rintro _ ⟨⟩⟩
  rintro _ ⟨⟩
  exact StudentsService.findOne_home found

theorem FilesService.libraryTarget_of {target : UploadTarget}
    (success : libraryTarget user db = .ok target) : target.Of db user.schoolId := by
  cases pure_ok.mp success
  exact ⟨rfl, by rintro _ ⟨⟩, by rintro _ ⟨⟩⟩

theorem FilesService.lessonTarget_of {lessonId : Id} {target : UploadTarget}
    (success : lessonTarget user lessonId db = .ok target) : target.Of db user.schoolId := by
  simp only [lessonTarget, bind_ok, pure_ok] at success
  obtain ⟨_, found, rfl⟩ := success
  have owned := ((LessonsService.findReachable_ok user).mp found).2
  refine ⟨User.owns_school owned, by rintro _ ⟨⟩, ?_⟩
  rintro _ ⟨⟩
  exact LessonsService.findReachable_home found

theorem FilesService.beginUpload_confined {findTarget : Db → Service UploadTarget}
    {incoming : IncomingFile} {row : File} (tenanted : db.Tenanted) (caller : db.Caller user)
    (inside : ∀ target, findTarget db = .ok target → target.Of db user.schoolId)
    (success : beginUpload platform user draw findTarget incoming db = .ok (row, next)) :
    Db.Confined user.schoolId db next ∧ next.Belongs user.schoolId (.file row) ∧
      row ∈ next.files.rows := by
  obtain ⟨target, found, -, -, created, rfl⟩ := beginUpload_ok.mp success
  obtain ⟨school, student, lesson⟩ := inside target found
  have belongs : db.Belongs user.schoolId (.file (pendingRow user draw target incoming)) :=
    Db.belongs_file.mpr ⟨school ▸ caller.school tenanted, caller.home, student, lesson⟩
  refine ⟨Db.createFile_confined tenanted belongs created, ?_⟩
  obtain ⟨-, -, -, files, inserted, rfl⟩ := Db.createFile_ok.mp created
  exact ⟨belongs, (Table.mem_insert inserted).mpr (.inr rfl)⟩

theorem FilesService.finishUpload_confined {schoolId : Id} {row file : File}
    (present : row ∈ db.files.rows) (belongs : db.Belongs schoolId (.file row))
    (success : finishUpload draw row db = .ok (file, next)) : Db.Confined schoolId db next := by
  obtain ⟨finalised, -⟩ := finishUpload_ok.mp success
  refine Db.finaliseFile_confined (fun other found => ?_) finalised
  obtain ⟨member, same⟩ := Table.find_eq_some.mp found
  exact Table.key_injective present member same.symm ▸ belongs

theorem FilesService.storeBytes_confined (world : World) {saves : Bool} {schoolId : Id} {row : File}
    {contents : List UInt8} (present : row ∈ world.db.files.rows)
    (belongs : world.db.Belongs schoolId (.file row)) :
    Db.Confined schoolId world.db (storeBytes draw saves row contents world).2.db := by
  unfold storeBytes
  split
  · exact Ownership.Confined.refl _ _
  · dsimp only
    split
    · exact Ownership.Confined.refl _ _
    · rename_i finished
      exact finishUpload_confined present belongs finished

theorem FilesService.upload_confined {saves : Bool} {findTarget : Db → Service UploadTarget}
    {incoming : IncomingFile} {world : World} (tenanted : world.db.Tenanted)
    (caller : world.db.Caller user)
    (inside : ∀ target, findTarget world.db = .ok target → target.Of world.db user.schoolId) :
    Db.Confined user.schoolId world.db
      (upload platform user draw saves findTarget incoming world).2.db := by
  unfold upload
  split
  · exact Ownership.Confined.refl _ _
  · rename_i row db began
    obtain ⟨inserted, belongs, present⟩ := beginUpload_confined tenanted caller inside began
    exact inserted.trans (storeBytes_confined { world with db } present belongs)

theorem FilesService.findReachable_school {id : Id} {file : File}
    (success : findReachable user id db = .ok file) :
    db.files.find id = some file ∧ file.schoolId = user.schoolId := by
  simp only [findReachable, bind_ok, orNotFound_ok, Option.filter_eq_some_iff, beq_iff_eq,
    pure_ok] at success
  obtain ⟨_, ⟨found, school⟩, _, -, _, -, _, -, rfl⟩ := success
  exact ⟨found, school⟩

theorem FilesService.remove_confined {id : Id} {world : World} (tenanted : world.db.Tenanted) :
    Db.Confined user.schoolId world.db (remove user id world).2.db := by
  unfold remove
  split
  · exact Ownership.Confined.refl _ _
  · rename_i file db removed
    obtain ⟨found, -, deleted⟩ := removeRow_ok.mp removed
    obtain ⟨lookup, school⟩ := findReachable_school found
    refine Db.deleteFile_confined (fun row again => ?_) deleted
    obtain ⟨member, same⟩ := Table.find_eq_some.mp again
    obtain ⟨present, asked⟩ := Table.find_eq_some.mp lookup
    obtain rfl := Table.key_injective member present same
    exact school ▸ Db.Tenanted.belongs_own tenanted (.file row) present List.mem_cons_self

theorem AddonsService.setFor_confined {userId : Id} {addons unique : List AddonKey}
    (tenanted : db.Tenanted) (caller : db.Caller user)
    (success : setFor user userId addons db = .ok (unique, next)) :
    Db.Confined user.schoolId db next := by
  obtain ⟨target, ⟨found, school⟩, -, created, -⟩ := setFor_ok.mp success
  have home : db.home (.user userId) = some user.schoolId :=
    school ▸ Db.home_of_find Slot.users _ rfl found
  have dropped : Db.Confined user.schoolId db (db.deleteAddons userId addons.eraseDups) :=
    Db.deleteAddons_confined tenanted home
  exact dropped.trans
    (Db.createAddons_confined (dropped.sound tenanted) home caller.home created)

theorem SchoolsService.update_confined {dto : UpdateSchoolDto} {school : School}
    (tenanted : db.Tenanted) (success : update user dto db = .ok (school, next)) :
    Db.Confined user.schoolId db next := by
  obtain ⟨_, -, updated, -⟩ := update_ok.mp success
  exact Db.updateSchool_confined tenanted updated

theorem SchoolsService.createTutor_confined {dto : CreateTutorDto} {tutor : TutorFields}
    (tenanted : db.Tenanted)
    (success : createTutor platform user draw dto db = .ok (tutor, next)) :
    Db.Confined user.schoolId db next := by
  obtain ⟨-, created, -⟩ := createTutor_ok.mp success
  have confined := Db.createUser_confined tenanted created
  exact confined

theorem InvitationsService.invite_confined {email : String} {view : InvitationView}
    (tenanted : db.Tenanted) (caller : db.Caller user)
    (success : invite platform user draw email db = .ok (view, next)) :
    Db.Confined user.schoolId db next := by
  obtain ⟨-, _, -, stored, _, -, -⟩ := invite_ok.mp success
  exact Db.upsertInvitation_confined tenanted caller.home stored

theorem InvitationsService.revoke_confined {id : Id} (tenanted : db.Tenanted)
    (success : revoke user id db = .ok next) : Db.Confined user.schoolId db next := by
  obtain ⟨-, rfl⟩ := revoke_ok.mp success
  exact Db.deleteInvitations_confined tenanted

theorem UsersService.updateConfig_confined {input : UserConfigInput} {config : UserConfig}
    (tenanted : db.Tenanted) (caller : db.Caller user)
    (success : updateConfig platform user input db = .ok (config, next)) :
    Db.Confined user.schoolId db next := by
  obtain ⟨_, -, updated, -⟩ := updateConfig_ok.mp success
  exact Db.updateUserConfig_confined tenanted caller.home updated

theorem SchoolsService.register_confined {dto : RegisterSchoolDto} {admin : User}
    (tenanted : db.Tenanted) (success : register platform draw dto db = .ok (admin, next)) :
    Db.Confined draw.id db next := by
  obtain ⟨-, -, _, founded, joined, -⟩ := register_ok.mp success
  have school := Db.createSchool_confined tenanted founded
  have admin := Db.createUser_confined (school.sound tenanted) joined
  exact school.trans admin

theorem NotificationsService.tutorJoined_confined {newcomer : User} (tenanted : db.Tenanted) :
    Db.Confined newcomer.schoolId db (tutorJoined draw newcomer db) := by
  refine Db.createNotifications_confined tenanted fun row member => ?_
  obtain ⟨recipient, listed, rfl⟩ := List.mem_map.mp member
  obtain ⟨present, told⟩ := Table.mem_select.mp listed
  simp only [Bool.and_eq_true, beq_iff_eq] at told
  exact told.1 ▸ Db.home_of_find Slot.users _ rfl (Table.find_key present)

theorem InvitationsService.findUsable_found {now : Js.Instant} {token : String}
    {invitation : Invitation} (success : findUsable now token db = .ok invitation) :
    db.invitations.find invitation.id = some invitation := by
  simp only [findUsable, orNotFound_ok, Option.filter_eq_some_iff] at success
  exact Table.find_key (List.mem_of_find?_eq_some success.1)

theorem InvitationsService.accept_confined {token name : String} {account : User}
    (tenanted : db.Tenanted) (success : accept draw token name db = .ok (account, next)) :
    ∃ schoolId, Db.Confined schoolId db next := by
  obtain ⟨invitation, usable, -, _, created, -, rfl⟩ := accept_ok.mp success
  have claimed : Db.Confined invitation.schoolId db (db.claimInvitation invitation.id draw.now).2 :=
    Db.claimInvitation_confined tenanted (findUsable_found usable)
  have joined := Db.createUser_confined (claimed.sound tenanted) created
  exact ⟨invitation.schoolId,
    claimed.trans (joined.trans (NotificationsService.tutorJoined_confined
      (joined.sound (claimed.sound tenanted))))⟩

end

section

variable {platform : Platform} {user : User} {outside : Outside} {world next : World}

theorem World.commit_confined {α : Type} {answer : α → Response} {result : Service (α × Db)}
    {schoolId : Id} (confined : ∀ value db, result = .ok (value, db) →
      Db.Confined schoolId world.db db) :
    Db.Confined schoolId world.db (world.commit answer result).world.db :=
  commit_keeps (Db.Confined schoolId world.db) (Ownership.Confined.refl _ _) confined

theorem World.commitUnit_confined {result : Service Db} {schoolId : Id}
    (confined : ∀ db, result = .ok db → Db.Confined schoolId world.db db) :
    Db.Confined schoolId world.db (world.commitUnit result).world.db :=
  commitUnit_keeps (Db.Confined schoolId world.db) (Ownership.Confined.refl _ _) confined

/-- Whatever a signed-in user sends, only rows of their school come, go or change. -/
theorem Command.run_confined (tenanted : world.db.Tenanted) (caller : world.db.Caller user)
    (command : Command) :
    Db.Confined user.schoolId world.db (command.run platform user outside world).world.db := by
  cases command with
  | createSubject name =>
      exact World.commit_confined fun _ _ => SubjectsService.create_confined tenanted
  | renameSubject id name =>
      exact World.commit_confined fun _ _ => SubjectsService.rename_confined tenanted
  | hideSubject id =>
      exact World.commit_confined fun _ _ => SubjectsService.hide_confined tenanted
  | restoreSubject id =>
      exact World.commit_confined fun _ _ => SubjectsService.restore_confined tenanted
  | createStudent dto =>
      exact World.commit_confined fun _ _ => StudentsService.create_confined tenanted caller
  | updateStudent id dto =>
      exact World.commit_confined fun _ _ => StudentsService.update_confined tenanted
  | removeStudent id =>
      exact World.commitUnit_confined fun _ => StudentsService.remove_confined tenanted
  | createGroup dto =>
      exact World.commit_confined fun _ _ => GroupsService.create_confined tenanted caller
  | updateGroup id dto =>
      exact World.commit_confined fun _ _ => GroupsService.update_confined tenanted
  | removeGroup id =>
      exact World.commitUnit_confined fun _ => GroupsService.remove_confined tenanted
  | addMember groupId studentId =>
      exact World.commit_confined fun _ _ => GroupsService.addMember_confined tenanted
  | removeMember groupId studentId =>
      exact World.commit_confined fun _ _ => GroupsService.removeMember_confined tenanted
  | createLesson dto => exact LessonsService.create_confined tenanted caller
  | updateLessonStatus id status =>
      exact World.commit_confined fun _ _ => LessonsService.updateStatus_confined tenanted
  | writeJournal lessonId dto =>
      exact World.commit_confined fun _ _ => GradebookService.writeJournal_confined tenanted
  | addGradeForStudent studentId dto =>
      exact World.commit_confined fun _ _ => GradebookService.addForStudent_confined tenanted caller
  | addGradeForLesson lessonId dto =>
      exact World.commit_confined fun _ _ => GradebookService.addForLesson_confined tenanted caller
  | updateGrade id dto =>
      exact World.commit_confined fun _ _ => GradebookService.update_confined tenanted
  | removeGrade id =>
      exact World.commitUnit_confined fun _ => GradebookService.remove_confined tenanted
  | addNoteForStudent studentId text =>
      exact World.commit_confined fun _ _ => NotesService.addForStudent_confined tenanted caller
  | addNoteForLesson lessonId text =>
      exact World.commit_confined fun _ _ => NotesService.addForLesson_confined tenanted caller
  | removeNote id =>
      exact World.commitUnit_confined fun _ => NotesService.remove_confined tenanted
  | uploadForStudent studentId incoming =>
      exact FilesService.upload_confined tenanted caller fun _ => FilesService.studentTarget_of
  | uploadToLibrary incoming =>
      exact FilesService.upload_confined tenanted caller fun _ => FilesService.libraryTarget_of
  | uploadForLesson lessonId incoming =>
      exact FilesService.upload_confined tenanted caller fun _ => FilesService.lessonTarget_of
  | openFile id => exact Ownership.Confined.refl _ _
  | removeFile id => exact FilesService.remove_confined tenanted
  | setAddons userId addons =>
      exact World.commit_confined fun _ _ => AddonsService.setFor_confined tenanted caller
  | updateSchool dto =>
      exact World.commit_confined fun _ _ => SchoolsService.update_confined tenanted
  | createTutor dto =>
      exact World.commit_confined fun _ _ => SchoolsService.createTutor_confined tenanted
  | invite email =>
      exact World.commit_confined fun _ _ => InvitationsService.invite_confined tenanted caller
  | revokeInvitation id =>
      exact World.commitUnit_confined fun _ => InvitationsService.revoke_confined tenanted
  | updateConfig input =>
      exact World.commit_confined fun _ _ => UsersService.updateConfig_confined tenanted caller
  | disconnect provider =>
      refine World.commitUnit_confined fun _ success => ?_
      obtain ⟨_, -, disconnected⟩ := bind_ok.mp success
      exact MeetingAccountsService.disconnect_confined caller disconnected

theorem PublicCall.run_confined (tenanted : world.db.Tenanted) (call : PublicCall) :
    ∃ schoolId, Db.Confined schoolId world.db (call.run platform outside world).world.db := by
  cases call with
  | registerSchool dto =>
      exact ⟨_, World.commit_confined fun _ _ => SchoolsService.register_confined tenanted⟩
  | describeInvitation token => exact ⟨"", Ownership.Confined.refl _ _⟩
  | acceptInvitation token name =>
      simp only [run, World.commit]
      split
      · exact ⟨"", Ownership.Confined.refl _ _⟩
      · rename_i success
        exact InvitationsService.accept_confined tenanted success
  | completeConnection provider code state =>
      simp only [run]
      split
      · exact ⟨"", Ownership.Confined.refl _ _⟩
      · exact MeetingAccountsService.completeConnection_confined tenanted

/-- A request with a session stays within the school of whoever sent it. -/
theorem Request.serve_confined (tenanted : world.db.Tenanted) {userId : Id}
    (caller : world.db.users.find userId = some user) {request : Request}
    (signedIn : (∃ query, request = .query userId query) ∨
      ∃ command, request = .command userId command) :
    Db.Confined user.schoolId world.db (request.serve platform outside world).world.db := by
  obtain rfl : user.id = userId := (Table.find_eq_some.mp caller).2
  rcases signedIn with ⟨query, rfl⟩ | ⟨command, rfl⟩
  · simp only [serve, caller]
    exact Ownership.Confined.refl _ _
  · simp only [serve, caller]
    exact command.run_confined tenanted caller

theorem Step.tenanted (step : Step platform world next) (tenanted : world.db.Tenanted) :
    next.db.Tenanted := by
  obtain ⟨outside, request, rfl⟩ := step
  cases request with
  | query userId query =>
      simp only [Request.serve]
      split <;> exact tenanted
  | command userId command =>
      cases found : world.db.users.find userId with
      | none =>
          simp only [Request.serve, found]
          exact tenanted
      | some user =>
          exact (Request.serve_confined tenanted found (.inr ⟨command, rfl⟩)).sound tenanted
  | anonymous call =>
      obtain ⟨_, confined⟩ := PublicCall.run_confined tenanted call
      exact confined.sound tenanted

theorem empty_tenanted : World.empty.db.Tenanted := by
  intro row present
  cases row <;> cases present

theorem Reachable.tenanted (reachable : Reachable platform world) : world.db.Tenanted := by
  induction reachable with
  | refl => exact empty_tenanted
  | tail _ step ih => exact step.tenanted ih

/-- In every reachable state all references of a row lead to one school, and a request of a
signed-in user leaves the rows of every other school as they are. -/
theorem schools_stay_apart (reachable : Reachable platform world) :
    (∀ row, world.db.Holds row → ∃ schoolId, ∀ ref ∈ row.refs, world.db.home ref = some schoolId) ∧
      ∀ outside userId user request, world.db.users.find userId = some user →
        ((∃ query, request = Request.query userId query) ∨
          ∃ command, request = Request.command userId command) →
        ∀ other ≠ user.schoolId, ∀ row,
          (world.db.Holds row ∧ world.db.Belongs other row) ↔
            ((request.serve platform outside world).world.db.Holds row ∧
              (request.serve platform outside world).world.db.Belongs other row) := by
  refine ⟨reachable.tenanted, ?_⟩
  intro outside userId user request caller signedIn other foreign row
  exact (Request.serve_confined reachable.tenanted caller signedIn).isolates foreign row

/-- One school's admin books a lesson with a student of the other school. -/
theorem schools_stay_apart_of_two :
    let world := World.empty.after .plain
      [foxSchool, owlSchool, enrol "a1" "k1" "Kim", enrol "a2" "k2" "Lee"]
    let booking := Request.command "a1" (.createLesson
      ⟨.given "k2", .absent, .absent, "2026-03-01T10:00:00.000Z", 60⟩)
    (∀ row, world.db.Holds row →
      ∃ schoolId, ∀ ref ∈ row.refs, world.db.home ref = some schoolId) ∧
      ∀ row, (world.db.Holds row ∧ world.db.Belongs "s2" row) ↔
        ((booking.serve .plain (.quiet "l1") world).world.db.Holds row ∧
          (booking.serve .plain (.quiet "l1") world).world.db.Belongs "s2" row) := by
  intro world booking
  have found : world.db.users.find "a1" = some foxAdmin := by decide
  have reached : Reachable .plain world := .after .plain .refl _
  have apart := schools_stay_apart reached
  exact ⟨apart.1, apart.2 (.quiet "l1") "a1" foxAdmin booking found (.inr ⟨_, rfl⟩) "s2"
    (by decide)⟩

end

end TutorApp
