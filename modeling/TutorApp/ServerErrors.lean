import TutorApp.DebtorList
import TutorApp.Downloads
import TutorApp.QueryWindows
import TutorApp.Shelves
import TutorApp.StatementErrors
import TutorApp.StoredFiles

set_option autoImplicit false

namespace TutorApp

open Relational

section

variable {platform : Platform} {user : User} {draw : Draw} {db : Db} {id : Id}

namespace SubjectsService

@[simp] theorem crashes_findOne : ¬ Crashes (findOne user id db) := crashes_orNotFound

theorem nameConflict_ne (existing : Subject) : nameConflict existing ≠ .internal := by
  unfold nameConflict
  split <;> simp

theorem crashes_conflict {clash : Option Subject} : ¬ Crashes (refuse (clash.map nameConflict)) := by
  intro crash
  obtain ⟨existing, -, same⟩ := Option.map_eq_some_iff.mp (crashes_refuse.mp crash)
  exact nameConflict_ne existing same

@[simp] theorem crashes_resolve {subjectId current : Option Id} :
    ¬ Crashes (resolve user subjectId current db) := by
  unfold resolve
  split <;> simp

@[simp] theorem crashes_usage : ¬ Crashes (usage platform user draw id db) := by
  simp [usage]

theorem crashes_create {name : String} (tenanted : db.Tenanted) (caller : db.Caller user) :
    ¬ Crashes (create platform user draw name db) := by
  have school := Db.hasSchool_of_home (caller.school tenanted)
  simp [create, crashes_conflict, Db.crashes_createSubject, school, -crashes_refuse]

theorem crashes_rename {name : String} : ¬ Crashes (rename platform user id name db) := by
  simp [rename, crashes_conflict, Db.crashes_renameSubject, -crashes_refuse]

theorem crashes_hide : ¬ Crashes (hide platform user draw id db) := by
  intro crash
  simp only [hide, crashes_bind, crashes_usage, crashes_require, reduceCtorEq, and_false,
    false_or] at crash
  obtain ⟨report, -, _, -, crash⟩ := crash
  split at crash
  · exact crashes_pure crash
  · simp [Db.crashes_hideSubject] at crash

theorem crashes_restore : ¬ Crashes (restore user id db) := by
  simp [restore, Db.crashes_hideSubject]

end SubjectsService

namespace StudentsService

@[simp] theorem crashes_findOne : ¬ Crashes (findOne user id db) := by
  simp [findOne]

@[simp] theorem crashes_subjectPatch {subjectId : Js.Field Id} {current : Option Id} :
    ¬ Crashes (subjectPatch user subjectId current db) := by
  unfold subjectPatch
  split <;> simp

theorem crashes_balancePatch {balance : Js.Field Nat} :
    Crashes (balancePatch balance) ↔ balance = .null := by
  cases balance <;> simp [balancePatch, Crashes]

/-- A subject that an edit sets is there. -/
theorem subjectPatch_found {subjectId : Js.Field Id} {current : Option Id}
    {patch : Option (Option Id)} (success : subjectPatch user subjectId current db = .ok patch) :
    (patch.all fun subject => subject.all db.hasSubject) = true := by
  cases patch with
  | none => rfl
  | some subject =>
      exact Db.all_of_mem fun id named =>
        Db.hasSubject_of_home (subjectPatch_ok user success subject rfl id named)

theorem crashes_create {dto : CreateStudentDto} (tenanted : db.Tenanted)
    (caller : db.Caller user) (crash : Crashes (create user draw dto db)) :
    int4 (dto.paidLessonsLeft.getD 0) = false := by
  simp only [create, crashes_bind, SubjectsService.crashes_resolve, false_or,
    crashes_pure, and_false, exists_false, or_false] at crash
  obtain ⟨subjectId, resolved, crash⟩ := crash
  rcases Db.crashes_createStudent.mp crash with dangling | ⟨-, large⟩
  · have refers : db.refersStudent ⟨draw.id, Js.trim dto.name, dto.paidLessonsLeft.getD 0,
        user.schoolId, user.id, subjectId⟩ = true :=
      Db.refersStudent_of (Db.belongs_student.mpr
        ⟨caller.school tenanted, caller.home, SubjectsService.resolve_ok user resolved⟩)
    rw [refers] at dangling
    cases dangling
  · exact large

theorem crashes_update {dto : UpdateStudentDto} (crash : Crashes (update user id dto db)) :
    dto.paidLessonsLeft = .null ∨
      ∃ amount, dto.paidLessonsLeft = .given amount ∧ int4 amount = false := by
  simp only [update, crashes_bind, crashes_findOne, crashes_subjectPatch, crashes_balancePatch,
    false_or, crashes_pure, and_false, exists_false, or_false] at crash
  obtain ⟨student, -, subject, patched, null | ⟨balance, read, crash⟩⟩ := crash
  · exact .inl null
  · rcases Db.crashes_updateStudent.mp crash with large | ⟨-, dangling⟩
    · cases sent : dto.paidLessonsLeft with
      | absent =>
          rw [sent] at read
          cases read
          cases large
      | null => exact .inl rfl
      | given amount =>
          rw [sent] at read
          cases read
          exact .inr ⟨amount, rfl, large⟩
    · rw [subjectPatch_found patched] at dangling
      cases dangling

theorem crashes_remove : ¬ Crashes (remove user id db) := by
  simp [remove, Db.crashes_deleteStudent]

end StudentsService

namespace GroupsService

@[simp] theorem crashes_findOne : ¬ Crashes (findOne user id db) := crashes_orNotFound

@[simp] theorem crashes_detail : ¬ Crashes (detail platform user id db) := by
  simp [detail]

theorem crashes_create {dto : CreateGroupDto} (tenanted : db.Tenanted) (caller : db.Caller user) :
    ¬ Crashes (create platform user draw dto db) := by
  intro crash
  simp only [create, crashes_bind, SubjectsService.crashes_resolve, false_or,
    crashes_pure, and_false, exists_false, or_false] at crash
  obtain ⟨subjectId, resolved, crash⟩ := crash
  have dangling := Db.crashes_createGroup.mp crash
  rw [Db.refersGroup_of (Db.belongs_group.mpr
    ⟨caller.school tenanted, caller.home, SubjectsService.resolve_ok user resolved⟩)] at dangling
  cases dangling

theorem crashes_update {dto : UpdateGroupDto} (crash : Crashes (update platform user id dto db)) :
    dto.level = .null := by
  simp only [update, crashes_bind, crashes_findOne, StudentsService.crashes_subjectPatch,
    false_or, crashes_pure, and_false, exists_false, or_false] at crash
  obtain ⟨group, -, subject, patched, null | ⟨level, -, crash⟩⟩ := crash
  · cases sent : dto.level with
    | null => rfl
    | absent | given => rw [sent] at null; cases null
  · rw [Db.crashes_updateGroup, StudentsService.subjectPatch_found patched] at crash
    cases crash

theorem crashes_remove : ¬ Crashes (remove user id db) := by
  simp [remove, Db.crashes_deleteGroup]

theorem crashes_addMember {groupId studentId : Id} :
    ¬ Crashes (addMember platform user groupId studentId db) := by
  intro crash
  simp only [addMember, crashes_bind, crashes_findOne, StudentsService.crashes_findOne,
    crashes_detail, false_or, crashes_pure, and_false, exists_false, or_false] at crash
  obtain ⟨group, found, student, known, crash⟩ := crash
  rw [Db.crashes_upsertMember, Db.hasGroup_of_home (findOne_home found),
    Db.hasStudent_of_home (StudentsService.findOne_home known)] at crash
  cases crash

theorem crashes_removeMember {groupId studentId : Id} :
    ¬ Crashes (removeMember platform user groupId studentId db) := by
  simp [removeMember]

end GroupsService

namespace MeetingAccountsService

variable {endpoints : Endpoints} {provider : MeetingProvider}

/-- A token endpoint grants a token that runs out at no time a column can hold. -/
def GrantsEndless (endpoints : Endpoints) (now : Js.Instant) : Prop :=
  ∃ call tokens, readTokens (endpoints call) = .ok tokens ∧ Crashes (expiryOf now tokens)

@[simp] theorem crashes_encrypt {nonce value : String} : ¬ Crashes (encrypt platform nonce value) := by
  unfold encrypt
  split <;> simp [Crashes]

@[simp] theorem crashes_requireCredentials : ¬ Crashes (requireCredentials platform provider) := by
  unfold requireCredentials
  split <;> simp [Crashes]

theorem crashes_writeBack {account : MeetingAccount} {tokens : TokenSet} :
    Crashes (writeBack platform draw account tokens db) → Crashes (expiryOf draw.now tokens) := by
  have refreshed : ¬ Crashes (refreshedToken platform draw account tokens) := by
    unfold refreshedToken
    split <;> simp
  intro crash
  simp only [writeBack, crashes_bind, refreshed, crashes_encrypt, Db.crashes_updateMeetingAccount,
    false_or, and_false, exists_false, or_false] at crash
  obtain ⟨_, -, _, -, crash⟩ := crash
  exact crash

/-- What an exchange gives is what the endpoint's answer reads as. -/
theorem exchange_reads {grant : TokenGrant} {tokens : TokenSet} {calls : List ProviderCall}
    (done : exchange platform endpoints provider grant = (.ok tokens, calls)) :
    ∃ call, readTokens (endpoints call) = .ok tokens := by
  unfold exchange at done
  split at done
  · cases (Prod.mk.inj done).1
  · exact ⟨_, (Prod.mk.inj done).1⟩

theorem crashes_accessTokenFor {account : MeetingAccount}
    (crash : Crashes (accessTokenFor platform draw endpoints account db).result) :
    GrantsEndless endpoints draw.now := by
  unfold accessTokenFor at crash
  split at crash
  · exact absurd crash crashes_ok
  · split at crash
    · exact absurd crash crashes_ok
    · split at crash
      · exact absurd crash crashes_ok
      · rename_i tokens calls exchanged
        split at crash
        · rename_i reason failed
          obtain ⟨call, read⟩ := exchange_reads exchanged
          have same : reason = .internal := Except.error.inj crash
          exact ⟨call, tokens, read, crashes_writeBack (failed.trans (congrArg _ same))⟩
        · exact absurd crash crashes_ok

theorem crashes_createRoom {request : RoomRequest}
    (crash : Crashes (createRoom platform user draw endpoints provider request db).result) :
    GrantsEndless endpoints draw.now := by
  unfold createRoom at crash
  split at crash
  · exact absurd crash crashes_ok
  · split at crash
    · exact absurd crash crashes_ok
    · dsimp only at crash
      split at crash
      · split at crash <;> exact absurd crash crashes_ok
      · exact crashes_accessTokenFor crash

end MeetingAccountsService

namespace LessonsService

open MeetingAccountsService (GrantsEndless)

variable {endpoints : Endpoints}

@[simp] theorem crashes_findReachable : ¬ Crashes (findReachable user id db) := crashes_orNotFound

@[simp] theorem crashes_reachesStudent {studentId : Option Id} :
    ¬ Crashes (reachesStudent user studentId db) := by
  unfold reachesStudent
  split <;> simp

@[simp] theorem crashes_reachesLesson {lessonId : Option Id} :
    ¬ Crashes (reachesLesson user lessonId db) := by
  unfold reachesLesson
  split <;> simp

theorem crashes_meetingFor {subjectId : Option Id} {startsAt : Option Js.Instant}
    {durationMinutes : Int} (crash : Crashes
      (meetingFor platform user draw endpoints subjectId startsAt durationMinutes db).result) :
    GrantsEndless endpoints draw.now := by
  unfold meetingFor at crash
  split at crash
  · exact absurd crash crashes_ok
  · exact MeetingAccountsService.crashes_createRoom (crashes_map.mp crash)

theorem crashes_queryId {asked : Js.Field Id} (crash : Crashes (queryId asked))
    (sent : asked.isAbsent = false) : asked = .null := by
  cases asked with
  | absent => cases sent
  | null => rfl
  | given id => exact absurd crash crashes_ok

theorem crashes_bookingTarget {dto : CreateLessonDto}
    (one : (dto.studentId.isAbsent != dto.groupId.isAbsent) = true)
    (crash : Crashes (bookingTarget user dto db)) : dto.studentId = .null ∨ dto.groupId = .null := by
  unfold bookingTarget at crash
  split at crash
  · rename_i absent
    simp only [crashes_bind, StudentsService.crashes_findOne, crashes_pure, and_false,
      exists_false, or_false] at crash
    rw [absent] at one
    exact .inl (crashes_queryId crash (by simpa using one))
  · rename_i sent
    simp only [crashes_bind, GroupsService.crashes_findOne, crashes_pure, and_false,
      exists_false, or_false] at crash
    exact .inr (crashes_queryId crash (by simpa using sent))

theorem crashes_storeLesson {dto : CreateLessonDto} {subjectId : Option Id}
    {meeting : Option (MeetingProvider × String)} (tenanted : db.Tenanted)
    (caller : db.Caller user)
    (subject : ∀ id ∈ subjectId, db.home (.subject id) = some user.schoolId)
    (one : (dto.studentId.isAbsent != dto.groupId.isAbsent) = true)
    (crash : Crashes (storeLesson platform user draw dto subjectId meeting db)) :
    dto.studentId = .null ∨ dto.groupId = .null ∨
      Crashes (timestampColumn (platform.parseDate dto.startsAt)) ∨
        ∃ link ∈ meeting, textColumn link.2 = false := by
  simp only [storeLesson, insertLesson, crashes_bind, crashes_pure, and_false, exists_false,
    or_false] at crash
  rcases crash with untold | ⟨target, chosen, undated | ⟨startsAt, -, crash⟩⟩
  · exact (crashes_bookingTarget one untold).imp_right .inl
  · exact .inr (.inr (.inl undated))
  · obtain ⟨student, group⟩ := bookingTarget_home chosen
    rw [Db.crashes_createLesson, Db.refersLesson_of (Db.belongs_lesson.mpr
      ⟨caller.school tenanted, caller.home, subject, student, group⟩), Bool.true_and] at crash
    cases meeting with
    | none => cases crash
    | some link => exact .inr (.inr (.inr ⟨link, rfl, crash⟩))

/-- The room arranged for a booking has an address that no text column takes. -/
def Unlinkable (platform : Platform) (user : User) (draw : Draw) (endpoints : Endpoints)
    (dto : CreateLessonDto) (db : Db) : Prop :=
  ∃ subjectId link, (meetingFor platform user draw endpoints subjectId
    (platform.parseDate dto.startsAt) dto.durationMinutes db).result = .ok (some link) ∧
      textColumn link.2 = false

theorem crashes_create {dto : CreateLessonDto} (tenanted : db.Tenanted) (caller : db.Caller user)
    (crash : Crashes (create platform user draw endpoints dto db).result) :
    dto.studentId = .null ∨ dto.groupId = .null ∨
      Crashes (timestampColumn (platform.parseDate dto.startsAt)) ∨
        GrantsEndless endpoints draw.now ∨ Unlinkable platform user draw endpoints dto db := by
  unfold create at crash
  dsimp only at crash
  split at crash
  · rename_i reason failed
    have same : reason = .internal := Except.error.inj crash
    have checking : Crashes (checkBooking user dto db) := failed.trans (congrArg _ same)
    simp [checkBooking] at checking
  · rename_i subjectId checked
    obtain ⟨_, required, resolved⟩ := bind_ok.mp checked
    have one := require_ok.mp required
    have subject := SubjectsService.resolve_ok user resolved
    obtain ⟨accounts, same⟩ := meetingFor_db platform user draw endpoints subjectId
      (platform.parseDate dto.startsAt) dto.durationMinutes db
    have arranged : Db.Confined user.schoolId db (meetingFor platform user draw endpoints subjectId
        (platform.parseDate dto.startsAt) dto.durationMinutes db).db := meetingFor_confined caller
    split at crash
    · rename_i reason failed
      have internal : reason = .internal := Except.error.inj crash
      exact .inr (.inr (.inr (.inl (crashes_meetingFor (failed.trans (congrArg _ internal))))))
    · rename_i link met
      split at crash
      · rename_i reason failed
        have internal : reason = .internal := Except.error.inj crash
        rcases crashes_storeLesson (arranged.sound tenanted) (by rw [same]; exact caller)
          (by rw [same]; exact subject) one (failed.trans (congrArg _ internal)) with
          untold | untold | undated | ⟨room, rfl, unplain⟩
        · exact .inl untold
        · exact .inr (.inl untold)
        · exact .inr (.inr (.inl undated))
        · exact .inr (.inr (.inr (.inr ⟨subjectId, room, met, unplain⟩)))
      · exact absurd crash crashes_ok

theorem crashes_updateStatus {status : LessonStatus} :
    ¬ Crashes (updateStatus platform user id status db) := by
  simp [updateStatus, Db.crashes_updateLesson]

end LessonsService

namespace GradebookService

variable {lessonId : Id}

/-- One more or one less leaves no room in the column. -/
def AtLimit (db : Db) (studentId : Id) : Prop :=
  ∃ student, db.students.find studentId = some student ∧
    (int4 (student.paidLessonsLeft - 1) = false ∨ int4 (student.paidLessonsLeft + 1) = false)

theorem crashes_settle {mark : MarkAttendanceDto} (crash : Crashes (settle lessonId mark db)) :
    AtLimit db mark.studentId := by
  unfold settle settleFrom at crash
  split at crash
  · rename_i moves
    have large := Db.crashes_addLessons.mp crash
    cases found : db.students.find mark.studentId with
    | none =>
        rw [found] at large
        cases large
    | some student =>
        rw [found, Option.all_some] at large
        refine ⟨student, found, ?_⟩
        unfold chargeStep at large
        split at large
        · rename_i still
          rw [bne_iff_ne] at moves
          exact absurd still moves
        · split at large
          · exact .inl large
          · exact .inr large
  · exact absurd crash crashes_ok

theorem crashes_writeMark {mark : MarkAttendanceDto} {schoolId : Id} (tenanted : db.Tenanted)
    (lesson : db.home (.lesson lessonId) = some schoolId)
    (student : db.home (.student mark.studentId) = some schoolId)
    (crash : Crashes (writeMark lessonId mark db)) : AtLimit db mark.studentId := by
  rcases crashes_bind.mp crash with settling | ⟨settled, settles, marking⟩
  · exact crashes_settle settling
  · obtain ⟨-, homes⟩ := settle_confined tenanted student settles
    rw [Db.crashes_upsertAttendance, Db.hasLesson_of_home ((homes _).trans lesson),
      Db.hasStudent_of_home ((homes _).trans student)] at marking
    cases marking

/-- Nobody is marked twice, so the balance a mark meets is the one the write-up began with. -/
theorem crashes_writeMarks {marks : List MarkAttendanceDto} {schoolId : Id}
    (tenanted : db.Tenanted) (lesson : db.home (.lesson lessonId) = some schoolId)
    (students : ∀ mark ∈ marks, db.home (.student mark.studentId) = some schoolId)
    (once : (marks.map MarkAttendanceDto.studentId).Nodup)
    (crash : Crashes (writeMarks lessonId marks db)) :
    ∃ mark ∈ marks, AtLimit db mark.studentId := by
  induction marks generalizing db with
  | nil => exact absurd crash crashes_ok
  | cons mark rest ih =>
      have student := students mark List.mem_cons_self
      rcases crashes_bind.mp crash with first | ⟨marked, written, later⟩
      · exact ⟨mark, List.mem_cons_self, crashes_writeMark tenanted lesson student first⟩
      · obtain ⟨confined, homes⟩ := writeMark_confined tenanted lesson student written
        rw [List.map_cons, List.nodup_cons] at once
        obtain ⟨other, listed, known, found, limit⟩ := ih (confined.sound tenanted)
          ((homes _).trans lesson)
          (fun other member => (homes _).trans (students other (List.mem_cons_of_mem _ member)))
          once.2 later
        have apart : mark.studentId ≠ other.studentId := by
          intro same
          exact once.1 (same ▸ List.mem_map_of_mem listed)
        rw [writeMark_balances written apart] at found
        exact ⟨other, List.mem_cons_of_mem _ listed, known, found, limit⟩

theorem crashes_writeJournal {dto : WriteJournalDto} (tenanted : db.Tenanted)
    (crash : Crashes (writeJournal platform user lessonId dto db)) :
    ∃ mark ∈ dto.attendance.getD [], AtLimit db mark.studentId := by
  have unchecked : ∀ id, ¬ Crashes (checkMarks id (dto.attendance.getD []) db) := by
    simp [checkMarks]
  simp only [writeJournal, crashes_bind, LessonsService.crashes_findReachable, unchecked,
    Db.crashes_updateLesson, false_or, crashes_pure, and_false, exists_false, or_false] at crash
  obtain ⟨lesson, found, _, checked, crash⟩ := crash
  obtain ⟨eligible, once⟩ := checkMarks_ok.mp checked
  have home := LessonsService.findReachable_home found
  exact crashes_writeMarks tenanted home (fun mark member =>
    LessonsService.studentIdsFor_home tenanted home (eligible mark member)) once crash

/-- A comment is sent that is neither null nor a text. -/
def Wordless (dto : WriteGradeDto) : Prop :=
  ∃ comment, dto.comment = some comment ∧ comment ≠ .null ∧ ∀ text, comment ≠ .str text

theorem crashes_dataFrom {dto : WriteGradeDto} (crash : Crashes (dataFrom dto)) : Wordless dto := by
  simp only [dataFrom, crashes_bind, crashes_pure, and_false, exists_false, or_false] at crash
  unfold commentColumn at crash
  split at crash
  · exact absurd crash crashes_ok
  · exact absurd crash crashes_ok
  · exact absurd crash crashes_ok
  · rename_i comment some text sent
    exact ⟨comment, sent, some, text⟩

@[simp] theorem crashes_assertValueInScale {dto : WriteGradeDto} :
    ¬ Crashes (assertValueInScale user dto db) := by
  unfold assertValueInScale
  split
  · simp
  · simp
  · simp
  · split <;> simp [recordNotFound]

theorem crashes_storeGrade {dto : WriteGradeDto} {studentId : Id} {lesson : Option Id}
    (caller : db.Caller user) (student : db.home (.student studentId) = some user.schoolId)
    (lessons : ∀ id ∈ lesson, db.home (.lesson id) = some user.schoolId)
    (crash : Crashes (storeGrade user draw dto studentId lesson db)) : Wordless dto := by
  simp only [storeGrade, crashes_bind, crashes_assertValueInScale, false_or, crashes_pure,
    and_false, exists_false, or_false] at crash
  obtain ⟨_, -, wordless | ⟨data, -, crash⟩⟩ := crash
  · exact crashes_dataFrom wordless
  · rw [Db.crashes_createGrade, Db.refersGrade_of (Db.belongs_grade.mpr
      ⟨student, caller.home, lessons⟩)] at crash
    cases crash

theorem crashes_addForStudent {studentId : Id} {dto : WriteGradeDto} (caller : db.Caller user)
    (crash : Crashes (addForStudent user draw studentId dto db)) : Wordless dto := by
  simp only [addForStudent, crashes_bind, StudentsService.crashes_findOne, false_or] at crash
  obtain ⟨student, found, crash⟩ := crash
  exact crashes_storeGrade caller (StudentsService.findOne_home found) (by simp) crash

theorem crashes_addForLesson {dto : WriteGradeDto} (tenanted : db.Tenanted)
    (caller : db.Caller user) (crash : Crashes (addForLesson user draw lessonId dto db)) :
    Wordless dto := by
  have unresolved : ∀ lesson, ¬ Crashes (resolveMarked lesson dto.studentId db) := by
    intro lesson
    unfold resolveMarked
    split
    · simp
    · split <;> simp
  simp only [addForLesson, crashes_bind, LessonsService.crashes_findReachable, unresolved,
    false_or] at crash
  obtain ⟨lesson, found, studentId, marked, crash⟩ := crash
  have home := LessonsService.findReachable_home found
  obtain ⟨lookup, owned⟩ := (LessonsService.findReachable_ok user).mp found
  have belongs := Db.Tenanted.belongs_own tenanted (.lesson lesson)
    (Table.find_eq_some.mp lookup).1 List.mem_cons_self
  rw [User.owns_school owned] at belongs
  refine crashes_storeGrade caller (resolveMarked_home tenanted belongs home marked) ?_ crash
  rintro _ ⟨⟩
  exact home

@[simp] theorem crashes_findWritable : ¬ Crashes (findWritable user id db) := by
  simp [findWritable]

theorem crashes_update {dto : WriteGradeDto} (crash : Crashes (update user id dto db)) :
    Wordless dto := by
  simp only [update, crashes_bind, crashes_findWritable, crashes_assertValueInScale,
    Db.crashes_updateGrade, false_or, crashes_pure, and_false, exists_false, or_false] at crash
  obtain ⟨_, -, _, -, crash⟩ := crash
  exact crashes_dataFrom crash

theorem crashes_remove : ¬ Crashes (remove user id db) := by
  simp [remove, Db.crashes_deleteGrade]

end GradebookService

namespace NotesService

theorem crashes_addForStudent {studentId : Id} {text : String} (caller : db.Caller user) :
    ¬ Crashes (addForStudent user draw studentId text db) := by
  intro crash
  simp only [addForStudent, crashes_bind, StudentsService.crashes_findOne, false_or, crashes_pure,
    and_false, exists_false, or_false] at crash
  obtain ⟨student, found, crash⟩ := crash
  rw [Db.crashes_createNote, Db.refersNote_of (Db.belongs_note.mpr ⟨caller.home, fun id named =>
    Option.some.inj named ▸ StudentsService.findOne_home found, by simp, .inl rfl⟩)] at crash
  cases crash

theorem crashes_addForLesson {lessonId : Id} {text : String} (caller : db.Caller user) :
    ¬ Crashes (addForLesson user draw lessonId text db) := by
  intro crash
  simp only [addForLesson, crashes_bind, LessonsService.crashes_findReachable, false_or,
    crashes_pure, and_false, exists_false, or_false] at crash
  obtain ⟨lesson, found, crash⟩ := crash
  rw [Db.crashes_createNote, Db.refersNote_of (Db.belongs_note.mpr ⟨caller.home, by simp,
    fun id named => Option.some.inj named ▸ LessonsService.findReachable_home found, .inr rfl⟩)]
    at crash
  cases crash

theorem crashes_remove : ¬ Crashes (remove user id db) := by
  simp [remove, Db.crashes_deleteNote]

end NotesService

namespace FilesService

variable {world : World} {saves : Bool} {incoming : IncomingFile}

@[simp] theorem crashes_studentTarget {studentId : Id} :
    ¬ Crashes (studentTarget user studentId db) := by
  simp [studentTarget]

@[simp] theorem crashes_lessonTarget {lessonId : Id} :
    ¬ Crashes (lessonTarget user lessonId db) := by
  simp [lessonTarget]

theorem unacceptable_ne : unacceptable platform incoming ≠ some .internal := by
  unfold unacceptable
  split
  · simp
  · split
    · simp
    · split
      · simp
      · split <;> simp

/-- The column for a size holds every size the endpoint takes. -/
theorem int4_size (accepted : assertAcceptable platform incoming = .ok ()) :
    int4 incoming.size = true := by
  obtain ⟨-, small, -⟩ := acceptable_checks (refuse_ok.mp accepted)
  have least := Nat.mul_le_mul_right mb platform.maxUploadMb_le
  unfold maxBytes at small
  unfold int4
  have : 100 * mb = 104857600 := by decide
  simp only [decide_eq_true_eq, Bool.and_eq_true]
  omega

theorem crashes_beginUpload {findTarget : Db → Service UploadTarget} (tenanted : db.Tenanted)
    (caller : db.Caller user) (found : ¬ Crashes (findTarget db))
    (inside : ∀ target, findTarget db = .ok target → target.Of db user.schoolId) :
    ¬ Crashes (beginUpload platform user draw findTarget incoming db) := by
  intro crash
  simp only [beginUpload, assertAcceptable, assertWithinQuota, crashes_bind, found, crashes_refuse,
    unacceptable_ne, crashes_require, reduceCtorEq, and_false, false_or, crashes_pure, exists_false,
    or_false] at crash
  obtain ⟨target, chosen, _, accepted, _, -, crash⟩ := crash
  rcases Db.crashes_createFile.mp crash with dangling | ⟨-, large⟩
  · obtain ⟨school, student, lesson⟩ := inside target chosen
    have refers : db.refersFile (pendingRow user draw target incoming) = true :=
      Db.refersFile_of
        (Db.belongs_file.mpr ⟨school ▸ caller.school tenanted, caller.home, student, lesson⟩)
    rw [refers] at dangling
    cases dangling
  · rw [show (pendingRow user draw target incoming).sizeBytes = incoming.size from rfl,
      int4_size accepted] at large
    cases large

theorem crashes_upload {findTarget : Db → Service UploadTarget} (tenanted : world.db.Tenanted)
    (caller : world.db.Caller user) (found : ¬ Crashes (findTarget world.db))
    (inside : ∀ target, findTarget world.db = .ok target → target.Of world.db user.schoolId)
    (crash : Crashes (upload platform user draw saves findTarget incoming world).1) :
    saves = false := by
  unfold upload at crash
  split at crash
  · rename_i reason failed
    have same : reason = .internal := Except.error.inj crash
    exact absurd (failed.trans (congrArg _ same)) (crashes_beginUpload tenanted caller found inside)
  · unfold storeBytes at crash
    split at crash
    · rename_i unsaved
      simpa using unsaved
    · dsimp only at crash
      split at crash
      · rename_i row db _ _ _ reason failed
        have same : reason = .internal := Except.error.inj crash
        have finishing : Crashes (finishUpload draw row db) := failed.trans (congrArg _ same)
        simp [finishUpload, Db.crashes_finaliseFile] at finishing
      · exact absurd crash crashes_ok

@[simp] theorem crashes_findReachable : ¬ Crashes (findReachable user id db) := by
  simp [findReachable]

theorem crashes_open (shelved : world.Shelved) (crash : Crashes (open_ user id world)) :
    ∃ file ∈ world.db.files.find id, file.uploadedAt = none := by
  simp only [open_, crashes_bind, crashes_findReachable, false_or] at crash
  obtain ⟨file, reached, crash⟩ := crash
  split at crash
  · exact absurd crash crashes_pure
  · rename_i missing
    refine ⟨file, (findReachable_school reached).1, ?_⟩
    cases finished : file.uploadedAt with
    | none => rfl
    | some uploadedAt =>
        exact absurd missing
          (shelved.kept file (findReachable_member reached) (by rw [finished]; rfl))

theorem crashes_remove {world : World} : ¬ Crashes (remove user id world).1 := by
  intro crash
  unfold remove at crash
  split at crash
  · rename_i reason failed
    have same : reason = .internal := Except.error.inj crash
    have removing : Crashes (removeRow user id world.db) := failed.trans (congrArg _ same)
    simp [removeRow, Db.crashes_deleteFile] at removing
  · exact crashes_ok crash

end FilesService

theorem AddonsService.crashes_setFor {userId : Id} {addons : List AddonKey}
    (caller : db.Caller user) : ¬ Crashes (setFor user userId addons db) := by
  intro crash
  simp only [setFor, crashes_bind, crashes_orNotFound, crashes_require, reduceCtorEq, and_false,
    false_or, crashes_pure, exists_false, or_false] at crash
  obtain ⟨target, found, _, -, crash⟩ := crash
  obtain ⟨lookup, -⟩ := Option.filter_eq_some_iff.mp (orNotFound_ok.mp found)
  have dangling := Db.crashes_createAddons crash
  have there : (db.deleteAddons userId addons.eraseDups).hasUser userId = true := by
    show (db.users.find userId).isSome = true
    rw [lookup, Option.isSome_some]
  have granter : (db.deleteAddons userId addons.eraseDups).hasUser user.id = true :=
    Db.hasUser_of_home caller.home
  rw [there, granter] at dangling
  cases dangling

namespace SchoolsService

theorem crashes_update {dto : UpdateSchoolDto} (crash : Crashes (update user dto db)) :
    dto.timezone = .null := by
  simp only [update, findCurrent, crashes_bind, Db.crashes_updateSchool, crashes_orNotFound,
    crashes_pure, and_false, exists_false, or_false] at crash
  cases sent : dto.timezone with
  | null => rfl
  | absent | given => rw [sent] at crash; cases crash

theorem crashes_createTutor {dto : CreateTutorDto} (tenanted : db.Tenanted)
    (caller : db.Caller user) : ¬ Crashes (createTutor platform user draw dto db) := by
  simp [createTutor, Db.crashes_createUser, Db.hasSchool_of_home (caller.school tenanted)]

/-- The admin is written into the school that was written before. -/
theorem crashes_register {dto : RegisterSchoolDto} : ¬ Crashes (register platform draw dto db) := by
  intro crash
  simp only [register, crashes_bind, crashes_require, reduceCtorEq, and_false, false_or,
    Db.crashes_createSchool, Db.crashes_createUser, crashes_pure, exists_false, or_false] at crash
  obtain ⟨_, -, _, -, founded, created, dangling⟩ := crash
  obtain ⟨-, schools, inserted, rfl⟩ := Db.createSchool_ok.mp created
  have there := Table.find_eq_some.mpr ⟨(Table.mem_insert inserted).mpr (.inr rfl), rfl⟩
  rw [Db.hasSchool, show schools.find draw.id = some _ from there] at dangling
  cases dangling

end SchoolsService

namespace InvitationsService

theorem crashes_invite {email : String} (tenanted : db.Tenanted) (caller : db.Caller user)
    (crash : Crashes (invite platform user draw email db)) :
    Crashes (timestampColumn
      (Js.dateOfMs ((draw.now + platform.inviteTtlHours * hourMs : Int) : ℚ))) := by
  simp only [invite, crashes_bind, crashes_require, reduceCtorEq, and_false, false_or,
    crashes_orNotFound, crashes_pure, exists_false, or_false] at crash
  obtain ⟨_, -, undated | ⟨expiresAt, -, crash⟩⟩ := crash
  · exact undated
  · rw [Db.crashes_upsertInvitation, Db.hasSchool_of_home (caller.school tenanted),
      Db.hasUser_of_home caller.home] at crash
    cases crash

theorem crashes_revoke : ¬ Crashes (revoke user id db) := by
  simp only [revoke]
  split <;> simp

@[simp] theorem crashes_findUsable {now : Js.Instant} {token : String} :
    ¬ Crashes (findUsable now token db) := crashes_orNotFound

theorem crashes_describe {token : String} : ¬ Crashes (describe draw token db) := by
  simp [describe]

theorem crashes_accept {token name : String} (tenanted : db.Tenanted) :
    ¬ Crashes (accept draw token name db) := by
  intro crash
  simp only [accept, crashes_bind, crashes_findUsable, crashes_require, reduceCtorEq, and_false,
    false_or, Db.crashes_createUser, crashes_pure, exists_false, or_false] at crash
  obtain ⟨invitation, found, _, -, dangling⟩ := crash
  have belongs := Db.Tenanted.belongs_own tenanted (.invitation invitation)
    (Table.find_eq_some.mp (findUsable_found found)).1 List.mem_cons_self
  have school : (db.claimInvitation invitation.id draw.now).2.hasSchool invitation.schoolId = true :=
    Db.hasSchool_of_home (Db.belongs_invitation.mp belongs).1
  exact absurd (school.symm.trans dangling) (by decide)

end InvitationsService

theorem UsersService.crashes_updateConfig {input : UserConfigInput} :
    ¬ Crashes (updateConfig platform user input db) := by
  unfold updateConfig
  split <;> simp [Db.crashes_updateUserConfig]

namespace MeetingAccountsService

@[simp] theorem crashes_parse {provider : MeetingProvider} : ¬ Crashes (parse provider) := by
  unfold parse
  split <;> simp

theorem crashes_disconnect {provider : MeetingProvider} : ¬ Crashes (do
    let provider ← parse provider
    disconnect user provider db) := by
  intro crash
  simp only [crashes_bind, crashes_parse, false_or, disconnect] at crash
  obtain ⟨_, -, crash⟩ := crash
  split at crash
  · simp at crash
  · exact crashes_ok crash

/-- The answers of a provider that a connection cannot be made from. -/
def GrantsNothing (endpoints : Endpoints) : Prop := ∃ call, Crashes (readTokens (endpoints call))

/-- The connection was asked for by somebody who is no longer there. -/
def Orphaned (platform : Platform) (now : Js.Instant) (state : String) (db : Db) : Prop :=
  ∃ provider userId, stateUser platform now provider state = .ok userId ∧ db.hasUser userId = false

@[simp] theorem crashes_stateUser {now : Js.Instant} {provider : MeetingProvider}
    {state : String} : ¬ Crashes (stateUser platform now provider state) := by
  unfold stateUser
  split
  · split <;> simp
  · simp

@[simp] theorem crashes_redirectUri {provider : MeetingProvider} :
    ¬ Crashes (redirectUri platform provider) := by
  unfold redirectUri
  split <;> simp

theorem crashes_exchange {endpoints : Endpoints} {provider : MeetingProvider} {grant : TokenGrant}
    {reason : HttpError} {calls : List ProviderCall} (internal : reason = .internal)
    (failed : exchange platform endpoints provider grant = (.error reason, calls)) :
    GrantsNothing endpoints := by
  unfold exchange at failed
  split at failed
  · rename_i refused
    have same := (Except.error.inj (Prod.mk.inj failed).1).trans internal
    exact absurd (refused.trans (congrArg _ same)) crashes_requireCredentials
  · exact ⟨_, (Prod.mk.inj failed).1.trans (congrArg _ internal)⟩

theorem crashes_connectionRow {userId : Id} {provider : MeetingProvider} {tokens : TokenSet}
    {refreshToken : String} {label : Option String}
    (crash : Crashes (connectionRow platform draw userId provider tokens refreshToken label)) :
    Crashes (expiryOf draw.now tokens) := by
  simp only [connectionRow, crashes_bind, crashes_encrypt, false_or, crashes_pure, and_false,
    exists_false, or_false] at crash
  obtain ⟨_, -, _, -, crash⟩ := crash
  exact crash

theorem connectionRow_user {userId : Id} {provider : MeetingProvider} {tokens : TokenSet}
    {refreshToken : String} {label : Option String} {row : MeetingAccount}
    (made : connectionRow platform draw userId provider tokens refreshToken label = .ok row) :
    row.userId = userId := by
  simp only [connectionRow, bind_ok, pure_ok] at made
  obtain ⟨_, -, _, -, _, -, rfl⟩ := made
  rfl

theorem crashes_completeConnection {endpoints : Endpoints} {provider : MeetingProvider}
    {code state : String}
    (crash : Crashes (completeConnection platform draw endpoints provider code state db).result) :
    GrantsNothing endpoints ∨ GrantsEndless endpoints draw.now ∨
      Orphaned platform draw.now state db := by
  unfold completeConnection at crash
  dsimp only at crash
  split at crash
  · rename_i reason failed
    have same : reason = .internal := Except.error.inj crash
    have preparing : Crashes (do
        let _ ← requireCredentials platform provider
        let userId ← stateUser platform draw.now provider state
        let uri ← redirectUri platform provider
        return (userId, uri)) := failed.trans (congrArg _ same)
    simp at preparing
  · rename_i userId uri prepared
    split at crash
    · rename_i reason calls failed
      exact .inl (crashes_exchange (Except.error.inj crash) failed)
    · rename_i tokens calls exchanged
      split at crash
      · cases crash
      · rename_i refreshToken granted
        split at crash
        · rename_i reason failed
          have same : reason = .internal := Except.error.inj crash
          rcases crashes_bind.mp (failed.trans (congrArg _ same)) with undated | ⟨row, made, crash⟩
          · obtain ⟨call, read⟩ := exchange_reads exchanged
            exact .inr (.inl ⟨call, tokens, read, crashes_connectionRow undated⟩)
          · have gone := Db.crashes_upsertMeetingAccount.mp crash
            rw [connectionRow_user made] at gone
            simp only [bind_ok, pure_ok, Prod.mk.injEq] at prepared
            obtain ⟨_, -, _, asked, _, -, rfl, -⟩ := prepared
            exact .inr (.inr ⟨provider, _, asked, gone⟩)
        · exact absurd crash crashes_ok

end MeetingAccountsService

namespace ReportsService

@[simp] theorem crashes_tutorScope {asked : Option Id} {refusal : String} :
    ¬ Crashes (tutorScope user asked refusal) := by
  unfold tutorScope
  split <;> simp

theorem windowProblem_ne {start stop : Option Js.Instant} :
    windowProblem start stop ≠ some .internal := by
  unfold windowProblem
  split
  · split
    · simp
    · split <;> simp
  · simp

theorem crashes_window {query : ReportQueryDto} : ¬ Crashes (window platform draw query) := by
  simp [window, windowProblem_ne]

/-- A report that breaks names no window that can be answered. -/
theorem crashes_summary {query : ReportQueryDto}
    (crash : Crashes (summary platform user draw query db)) :
    ¬ ∃ start stop, query.Names platform draw start stop ∧
      Answerable maxWindowDays start stop := by
  obtain ⟨made, -, shape⟩ := @summary_shape platform user draw db query
  have reached := crash
  rw [shape] at reached
  simp only [crashes_bind, crashes_window, crashes_tutorScope, false_or] at reached
  obtain ⟨_, -, covered, asks, -⟩ := reached
  intro answerable
  exact not_answers crash ((answers_iff asks).mpr answerable)

end ReportsService

/-- A debtor list that breaks covers a student with a register entry of the year 10000 or later. -/
theorem DebtorsService.crashes_list {query : DebtorQueryDto}
    (crash : Crashes (list platform user draw query db)) :
    ∃ covered, tutorScope user query.tutorId "Only an admin can ask about another tutor" =
        .ok covered ∧
      ∃ student ∈ db.students.rows,
        student.Covered user covered (query.atOrBelow.getD defaultAtOrBelow) ∧
          ∃ start ∈ db.startsMarked (fun _ => true) student.id, 253402300800000 ≤ start := by
  cases allowed : tutorScope user query.tutorId "Only an admin can ask about another tutor" with
  | error reason =>
      simp only [list, allowed, error_bind] at crash
      have same : reason = .internal := Except.error.inj crash
      exact absurd (allowed.trans (congrArg _ same)) ReportsService.crashes_tutorScope
  | ok covered =>
      rw [list_eq allowed rfl, crashes_map, crashes_require, List.all_eq_false] at crash
      obtain ⟨⟨student, chosen, unprintable⟩, -⟩ := crash
      rw [printable_iff (List.mem_map_of_mem chosen)] at unprintable
      push Not at unprintable
      obtain ⟨member, covers⟩ := mem_selected.mp chosen
      exact ⟨covered, rfl, student, member, covers, unprintable⟩

theorem LessonsService.crashes_findInRange {query : ListLessonsQueryDto}
    (crash : Crashes (findInRange platform user draw query db)) :
    ¬ ∃ start stop, query.Names platform draw start stop ∧
      Answerable maxWindowDays start stop := by
  intro answerable
  exact not_answers crash (answers_iff.mpr (.inl answerable))

end

/-- Why a read breaks: the ends of its window are not two times that the columns take, or it is to
print a date that does not read back. -/
def Query.Fault (platform : Platform) (user : User) (draw : Draw) (db : Db) : Query → Prop
  | lessonsInRange query => ¬ ∃ start stop, query.Names platform draw start stop ∧
      Answerable LessonsService.maxWindowDays start stop
  | report query => ¬ ∃ start stop, query.Names platform draw start stop ∧
      Answerable ReportsService.maxWindowDays start stop
  | debtors query => ∃ covered,
      tutorScope user query.tutorId "Only an admin can ask about another tutor" = .ok covered ∧
        ∃ student ∈ db.students.rows,
          student.Covered user covered (query.atOrBelow.getD DebtorsService.defaultAtOrBelow) ∧
            ∃ start ∈ db.startsMarked (fun _ => true) student.id, 253402300800000 ≤ start
  | _ => False

/-- Why a command breaks: a null where the client takes none, a number or a time beyond its
column, or a store or a provider that does not do its part. -/
def Command.Fault (platform : Platform) (user : User) (outside : Outside) (db : Db) : Command → Prop
  | createStudent dto => int4 (dto.paidLessonsLeft.getD 0) = false
  | updateStudent _ dto => dto.paidLessonsLeft = .null ∨
      ∃ amount, dto.paidLessonsLeft = .given amount ∧ int4 amount = false
  | updateGroup _ dto => dto.level = .null
  | createLesson dto => dto.studentId = .null ∨ dto.groupId = .null ∨
      Crashes (timestampColumn (platform.parseDate dto.startsAt)) ∨
        MeetingAccountsService.GrantsEndless outside.endpoints outside.draw.now ∨
          LessonsService.Unlinkable platform user outside.draw outside.endpoints dto db
  | writeJournal _ dto => ∃ mark ∈ dto.attendance.getD [], GradebookService.AtLimit db mark.studentId
  | addGradeForStudent _ dto | addGradeForLesson _ dto | updateGrade _ dto =>
      GradebookService.Wordless dto
  | uploadForStudent _ _ | uploadToLibrary _ | uploadForLesson _ _ => outside.saves = false
  | openFile id => ∃ file ∈ db.files.find id, file.uploadedAt = none
  | updateSchool dto => dto.timezone = .null
  | invite _ => Crashes (timestampColumn (Js.dateOfMs
      ((outside.draw.now + platform.inviteTtlHours * InvitationsService.hourMs : Int) : ℚ)))
  | _ => False

def PublicCall.Fault (platform : Platform) (outside : Outside) (db : Db) : PublicCall → Prop
  | completeConnection _ _ state => MeetingAccountsService.GrantsNothing outside.endpoints ∨
      MeetingAccountsService.GrantsEndless outside.endpoints outside.draw.now ∨
        MeetingAccountsService.Orphaned platform outside.draw.now state db
  | _ => False

def Request.Fault (platform : Platform) (outside : Outside) (db : Db) : Request → Prop
  | query userId asked => ∃ user ∈ db.users.find userId, asked.Fault platform user outside.draw db
  | command userId asked => ∃ user ∈ db.users.find userId, asked.Fault platform user outside db
  | anonymous call => call.Fault platform outside db

section

variable {platform : Platform} {user : User} {outside : Outside} {world : World}

@[simp] theorem World.crashes_commit {α : Type} {answer : α → Response}
    {result : Service (α × Db)} :
    Crashes (world.commit answer result).result ↔ Crashes result := by
  cases result <;> simp [World.commit]

@[simp] theorem World.crashes_commitUnit {result : Service Db} :
    Crashes (world.commitUnit result).result ↔ Crashes result := by
  cases result <;> simp [World.commitUnit]

@[simp] theorem World.crashes_conclude {α : Type} {answer : α → Response}
    {attempt : Attempt α} :
    Crashes (world.conclude answer attempt).result ↔ Crashes attempt.result := crashes_map

@[simp] theorem crashes_storedOutcome {α : Type} {answer : α → Response}
    {ended : Service α × World} :
    Crashes (storedOutcome answer ended).result ↔ Crashes ended.1 := crashes_map

theorem Query.read_crashes {asked : Query} {draw : Draw} {db : Db}
    (crash : Crashes (asked.read platform user draw db)) : asked.Fault platform user draw db := by
  cases asked with
  | lessonsInRange query => exact LessonsService.crashes_findInRange (crashes_map.mp crash)
  | report query => exact ReportsService.crashes_summary (crashes_map.mp crash)
  | debtors query => exact DebtorsService.crashes_list (crashes_map.mp crash)
  | subjectUsage id => simp [read] at crash
  | showStudent id => simp [read] at crash
  | showGroup id => simp [read] at crash
  | lessonsForStudent studentId limit => simp [read, LessonsService.findForStudent] at crash
  | register lessonId => simp [read, GradebookService.registerFor] at crash
  | gradesForStudent studentId => simp [read, GradebookService.listForStudent] at crash
  | gradesForLesson lessonId => simp [read, GradebookService.listForLesson] at crash
  | progress studentId => simp [read, GradebookService.progressForStudent] at crash
  | notesForStudent studentId => simp [read, NotesService.listForStudent] at crash
  | notesForLesson lessonId => simp [read, NotesService.listForLesson] at crash
  | filesForStudent studentId => simp [read, FilesService.listForStudent] at crash
  | filesForLesson lessonId => simp [read, FilesService.listForLesson] at crash
  | currentSchool => simp [read, SchoolsService.findCurrent] at crash
  | _ => exact absurd crash crashes_ok

theorem Command.run_crashes {asked : Command} (tenanted : world.db.Tenanted)
    (caller : world.db.Caller user) (shelved : world.Shelved)
    (crash : Crashes (asked.run platform user outside world).result) :
    asked.Fault platform user outside world.db := by
  cases asked with
  | createSubject name =>
      exact SubjectsService.crashes_create tenanted caller (World.crashes_commit.mp crash)
  | renameSubject id name => exact SubjectsService.crashes_rename (World.crashes_commit.mp crash)
  | hideSubject id => exact SubjectsService.crashes_hide (World.crashes_commit.mp crash)
  | restoreSubject id => exact SubjectsService.crashes_restore (World.crashes_commit.mp crash)
  | createStudent dto =>
      exact StudentsService.crashes_create tenanted caller (World.crashes_commit.mp crash)
  | updateStudent id dto => exact StudentsService.crashes_update (World.crashes_commit.mp crash)
  | removeStudent id => exact StudentsService.crashes_remove (World.crashes_commitUnit.mp crash)
  | createGroup dto =>
      exact GroupsService.crashes_create tenanted caller (World.crashes_commit.mp crash)
  | updateGroup id dto => exact GroupsService.crashes_update (World.crashes_commit.mp crash)
  | removeGroup id => exact GroupsService.crashes_remove (World.crashes_commitUnit.mp crash)
  | addMember groupId studentId =>
      exact GroupsService.crashes_addMember (World.crashes_commit.mp crash)
  | removeMember groupId studentId =>
      exact GroupsService.crashes_removeMember (World.crashes_commit.mp crash)
  | createLesson dto =>
      exact LessonsService.crashes_create tenanted caller (World.crashes_conclude.mp crash)
  | updateLessonStatus id status =>
      exact LessonsService.crashes_updateStatus (World.crashes_commit.mp crash)
  | writeJournal lessonId dto =>
      exact GradebookService.crashes_writeJournal tenanted (World.crashes_commit.mp crash)
  | addGradeForStudent studentId dto =>
      exact GradebookService.crashes_addForStudent caller (World.crashes_commit.mp crash)
  | addGradeForLesson lessonId dto =>
      exact GradebookService.crashes_addForLesson tenanted caller (World.crashes_commit.mp crash)
  | updateGrade id dto => exact GradebookService.crashes_update (World.crashes_commit.mp crash)
  | removeGrade id => exact GradebookService.crashes_remove (World.crashes_commitUnit.mp crash)
  | addNoteForStudent studentId text =>
      exact NotesService.crashes_addForStudent caller (World.crashes_commit.mp crash)
  | addNoteForLesson lessonId text =>
      exact NotesService.crashes_addForLesson caller (World.crashes_commit.mp crash)
  | removeNote id => exact NotesService.crashes_remove (World.crashes_commitUnit.mp crash)
  | uploadForStudent studentId incoming =>
      exact FilesService.crashes_upload tenanted caller FilesService.crashes_studentTarget
        (fun _ => FilesService.studentTarget_of) (crashes_storedOutcome.mp crash)
  | uploadToLibrary incoming =>
      exact FilesService.crashes_upload tenanted caller crashes_pure
        (fun _ => FilesService.libraryTarget_of) (crashes_storedOutcome.mp crash)
  | uploadForLesson lessonId incoming =>
      exact FilesService.crashes_upload tenanted caller FilesService.crashes_lessonTarget
        (fun _ => FilesService.lessonTarget_of) (crashes_storedOutcome.mp crash)
  | openFile id => exact FilesService.crashes_open shelved (crashes_storedOutcome.mp crash)
  | removeFile id => exact FilesService.crashes_remove (crashes_storedOutcome.mp crash)
  | setAddons userId addons =>
      exact AddonsService.crashes_setFor caller (World.crashes_commit.mp crash)
  | updateSchool dto => exact SchoolsService.crashes_update (World.crashes_commit.mp crash)
  | createTutor dto =>
      exact SchoolsService.crashes_createTutor tenanted caller (World.crashes_commit.mp crash)
  | invite email =>
      exact InvitationsService.crashes_invite tenanted caller (World.crashes_commit.mp crash)
  | revokeInvitation id =>
      exact InvitationsService.crashes_revoke (World.crashes_commitUnit.mp crash)
  | updateConfig input => exact UsersService.crashes_updateConfig (World.crashes_commit.mp crash)
  | disconnect provider =>
      exact MeetingAccountsService.crashes_disconnect (World.crashes_commitUnit.mp crash)

theorem PublicCall.run_crashes {call : PublicCall} (tenanted : world.db.Tenanted)
    (crash : Crashes (call.run platform outside world).result) :
    call.Fault platform outside world.db := by
  cases call with
  | registerSchool dto => exact SchoolsService.crashes_register (World.crashes_commit.mp crash)
  | describeInvitation token => exact InvitationsService.crashes_describe (crashes_map.mp crash)
  | acceptInvitation token name =>
      exact InvitationsService.crashes_accept tenanted (World.crashes_commit.mp crash)
  | completeConnection provider code state =>
      unfold run at crash
      dsimp only at crash
      split at crash
      · rename_i reason failed
        have same : reason = .internal := Except.error.inj crash
        exact absurd (failed.trans (congrArg _ same)) MeetingAccountsService.crashes_parse
      · exact MeetingAccountsService.crashes_completeConnection (World.crashes_conclude.mp crash)

/-- Served one after the other, no request breaks on a key that is taken or a reference that
dangles: what breaks has one of the reasons above. -/
theorem server_errors_are_explained {request : Request} (reachable : Reachable platform world)
    (failed : (request.serve platform outside world).result = .error .internal) :
    request.Fault platform outside world.db := by
  cases request with
  | query userId asked =>
      unfold Request.serve at failed
      dsimp only at failed
      split at failed
      · cases failed
      · rename_i user known
        exact ⟨user, known, Query.read_crashes failed⟩
  | command userId asked =>
      unfold Request.serve at failed
      dsimp only at failed
      split at failed
      · cases failed
      · rename_i user known
        obtain rfl : user.id = userId := (Table.find_eq_some.mp known).2
        exact ⟨user, known, Command.run_crashes reachable.tenanted known reachable.shelved failed⟩
  | anonymous call => exact call.run_crashes reachable.tenanted failed

end

def halfUploaded : World := World.empty.after .plain [foxSchool,
  ({ Outside.quiet "f1" with saves := false },
    .command "a1" (.uploadToLibrary ⟨"n.txt", "text/plain", 2, [104, 105]⟩))]

/-- Its row is listed, and opening it breaks. -/
theorem half_upload_breaks : ∃ file ∈ halfUploaded.db.files.find "f1", file.uploadedAt = none := by
  have reachable : Reachable .plain halfUploaded := Reachable.after _ .refl _
  have failed : (Request.serve .plain (.quiet "") (.command "a1" (.openFile "f1"))
      halfUploaded).result = .error .internal := rfl
  obtain ⟨user, -, half⟩ := server_errors_are_explained reachable failed
  exact half

end TutorApp
