import TutorApp.PartStatements
import TutorApp.Register

set_option autoImplicit false

namespace TutorApp

open Relational
open TenantOwnership
open Unwinding

/-- A service answers on the school's part of the rows as on all of them, and does to the part
what it does to the whole. -/
abbrev Db.Answers {α : Type} (schoolId : Id) (onPart onWhole : Service (α × Db)) : Prop :=
  Follows (Prod.map id fun db : Db => db.restrict schoolId) onPart onWhole

section

variable {platform : Platform} {user : User} {draw : Draw} {db next : Db} {id : Id}

theorem answer_follows {α : Type} {schoolId : Id} {onPart onWhole : α} (same : onPart = onWhole) :
    Db.Answers schoolId (pure (onPart, db.restrict schoolId)) (pure (onWhole, db)) := by
  subst same
  exact Follows.ok (onPart, db)

theorem Db.Unclaimed.confined {schoolId : Id} {mark : Mark} (unclaimed : db.Unclaimed schoolId mark)
    (confined : Db.Confined schoolId db next) : next.Unclaimed schoolId mark := by
  intro row later bears
  rcases confined.fresh row later with earlier | belongs
  · exact confined.belongs_forward earlier later (unclaimed row earlier bears)
  · exact belongs

section

variable {ρ κ : Type} [Keyed ρ κ] [DecidableEq κ] {table after : Table ρ} {row : ρ}

theorem mem_after_create (done : createRow table row = .ok after) : row ∈ after.rows :=
  (Table.mem_insert (createRow_ok.mp done)).mpr (.inr rfl)

theorem mem_after_update {k : κ} {change : ρ → ρ} {keeps : ∀ row, key (change row) = key row}
    (done : updateRow table k change keeps = .ok after) (found : table.find k = some row) :
    change row ∈ after.rows := by
  obtain ⟨-, rfl⟩ := updateRow_ok.mp done
  obtain ⟨member, same⟩ := Table.find_eq_some.mp found
  exact List.mem_map.mpr ⟨row, member, if_pos (decide_eq_true same)⟩

end

namespace SubjectsService

theorem findByName_restrict {schoolId : Id} {name : String} (tenanted : db.Tenanted) :
    findByName platform schoolId name (db.restrict schoolId) =
      findByName platform schoolId name db := by
  refine Table.find?_restrict fun row found => ?_
  have own := List.find?_some found
  simp only [Bool.and_eq_true, beq_iff_eq] at own
  exact Db.subject_belongs tenanted (List.mem_of_find?_eq_some found) own.1

theorem resolve_restrict {subjectId current : Option Id} (tenanted : db.Tenanted) :
    resolve user subjectId current (db.restrict user.schoolId) =
      resolve user subjectId current db := by
  cases subjectId with
  | none => rfl
  | some asked => simp only [resolve, findOne_restrict tenanted]

theorem create_answers {name : String} (tenanted : db.Tenanted)
    (id : db.Unclaimed user.schoolId (.id draw.id)) :
    Db.Answers user.schoolId (create platform user draw name (db.restrict user.schoolId))
      (create platform user draw name db) := by
  refine Follows.read ?_ fun _ _ => ?_
  · rw [findByName_restrict tenanted]
  · exact (Db.createSubject_mirrors tenanted rfl id).bind fun next _ => answer_follows rfl

theorem rename_answers {name : String} (tenanted : db.Tenanted) :
    Db.Answers user.schoolId (rename platform user id name (db.restrict user.schoolId))
      (rename platform user id name db) := by
  refine Follows.read (findOne_restrict tenanted) fun subject found => ?_
  refine Follows.read ?_ fun _ _ => ?_
  · rw [findByName_restrict tenanted]
  · exact (Db.renameSubject_mirrors tenanted (findOne_home found)).bind
      fun next _ => answer_follows rfl

theorem hide_answers (tenanted : db.Tenanted) :
    Db.Answers user.schoolId (hide platform user draw id (db.restrict user.schoolId))
      (hide platform user draw id db) := by
  refine Follows.read (usage_restrict tenanted) fun report used => ?_
  refine require_follows rfl fun _ => ?_
  split
  · exact answer_follows rfl
  · exact (Db.hideSubject_mirrors tenanted (findOne_home (usage_subject used))).bind
      fun next _ => answer_follows rfl

theorem restore_answers (tenanted : db.Tenanted) :
    Db.Answers user.schoolId (restore user id (db.restrict user.schoolId)) (restore user id db) := by
  refine Follows.read (findOne_restrict tenanted) fun subject found => ?_
  exact (Db.hideSubject_mirrors tenanted (findOne_home found)).bind fun next _ => answer_follows rfl

end SubjectsService

namespace StudentsService

/-- A student of the caller's school that a statement has left in the table. -/
theorem studentView_after {row : Student} (tenanted : next.Tenanted)
    (member : row ∈ next.students.rows) (own : row.schoolId = user.schoolId) :
    (next.restrict user.schoolId).studentView row = next.studentView row := by
  refine Db.studentView_restrict tenanted ?_
  rw [← own]
  exact Db.Tenanted.belongs_own tenanted (.student row) member List.mem_cons_self

theorem subjectPatch_restrict {subjectId : Js.Field Id} {current : Option Id}
    (tenanted : db.Tenanted) : subjectPatch user subjectId current (db.restrict user.schoolId) =
      subjectPatch user subjectId current db := by
  simp only [subjectPatch, SubjectsService.resolve_restrict tenanted]

theorem create_answers {dto : CreateStudentDto} (tenanted : db.Tenanted) (caller : db.Caller user)
    (id : db.Unclaimed user.schoolId (.id draw.id)) :
    Db.Answers user.schoolId (create user draw dto (db.restrict user.schoolId))
      (create user draw dto db) := by
  refine Follows.read (SubjectsService.resolve_restrict tenanted) fun subjectId resolved => ?_
  have belongs : db.Belongs user.schoolId (.student ⟨draw.id, Js.trim dto.name,
      dto.paidLessonsLeft.getD 0, user.schoolId, user.id, subjectId⟩) := Db.belongs_student.mpr
    ⟨caller.school tenanted, caller.home, SubjectsService.resolve_ok user resolved⟩
  refine (Db.createStudent_mirrors tenanted belongs id).bind fun next created => ?_
  have sound := (Db.createStudent_confined tenanted belongs created).sound tenanted
  obtain ⟨-, -, students, inserted, rfl⟩ := Db.createStudent_ok.mp created
  exact answer_follows
    (studentView_after sound (mem_after_create (createRow_ok.mpr inserted)) rfl)

theorem update_answers {dto : UpdateStudentDto} (tenanted : db.Tenanted) :
    Db.Answers user.schoolId (update user id dto (db.restrict user.schoolId))
      (update user id dto db) := by
  refine Follows.read (findOne_restrict tenanted) fun student found => ?_
  refine Follows.read (subjectPatch_restrict tenanted) fun subject patched => ?_
  refine Follows.read rfl fun balance _ => ?_
  have home := findOne_home found
  have subjects := subjectPatch_ok user patched
  refine (Db.updateStudent_mirrors tenanted home subjects).bind fun next updated => ?_
  have sound := (Db.updateStudent_confined tenanted home subjects updated).sound tenanted
  obtain ⟨-, -, students, changed, rfl⟩ := Db.updateStudent_ok.mp updated
  obtain ⟨lookup, owned⟩ := (findOne_ok user).mp found
  have same : student.id = id := (Table.find_eq_some.mp lookup).2
  have member := mem_after_update changed (same.symm ▸ lookup)
  exact answer_follows (studentView_after sound member (User.owns_school owned))

theorem remove_mirrors (tenanted : db.Tenanted) :
    Db.Mirrors user.schoolId (remove user id (db.restrict user.schoolId)) (remove user id db) :=
  Follows.read (findOne_restrict tenanted) fun _ found =>
    Db.deleteStudent_mirrors tenanted (findOne_home found)

end StudentsService

namespace GroupsService

theorem groupView_after {row : Group} (tenanted : next.Tenanted)
    (member : row ∈ next.groups.rows) (own : row.schoolId = user.schoolId) :
    (next.restrict user.schoolId).groupView platform row = next.groupView platform row := by
  have belongs : next.Belongs user.schoolId (.group row) :=
    own ▸ Db.Tenanted.belongs_own tenanted (.group row) member List.mem_cons_self
  have home : next.home (.group row.id) = some user.schoolId :=
    own ▸ Db.home_of_find Slot.groups (.group row.id) rfl (Table.find_key member)
  exact Db.groupView_restrict tenanted belongs home

theorem create_answers {dto : CreateGroupDto} (tenanted : db.Tenanted) (caller : db.Caller user)
    (id : db.Unclaimed user.schoolId (.id draw.id)) :
    Db.Answers user.schoolId (create platform user draw dto (db.restrict user.schoolId))
      (create platform user draw dto db) := by
  refine Follows.read (SubjectsService.resolve_restrict tenanted) fun subjectId resolved => ?_
  have belongs : db.Belongs user.schoolId (.group ⟨draw.id, Js.trim dto.name,
      Js.blankToNull dto.level.toOption, user.schoolId, user.id, subjectId⟩) :=
    Db.belongs_group.mpr
      ⟨caller.school tenanted, caller.home, SubjectsService.resolve_ok user resolved⟩
  refine (Db.createGroup_mirrors tenanted belongs id).bind fun next created => ?_
  have sound := (Db.createGroup_confined tenanted belongs created).sound tenanted
  obtain ⟨-, groups, inserted, rfl⟩ := Db.createGroup_ok.mp created
  exact answer_follows (groupView_after sound (mem_after_create (createRow_ok.mpr inserted)) rfl)

theorem update_answers {dto : UpdateGroupDto} (tenanted : db.Tenanted) :
    Db.Answers user.schoolId (update platform user id dto (db.restrict user.schoolId))
      (update platform user id dto db) := by
  refine Follows.read (findOne_restrict tenanted) fun group found => ?_
  refine Follows.read (StudentsService.subjectPatch_restrict tenanted) fun subject patched => ?_
  refine Follows.read rfl fun level _ => ?_
  have home := findOne_home found
  have subjects := StudentsService.subjectPatch_ok user patched
  refine (Db.updateGroup_mirrors tenanted home subjects).bind fun next updated => ?_
  have sound := (Db.updateGroup_confined tenanted home subjects updated).sound tenanted
  obtain ⟨-, groups, changed, rfl⟩ := Db.updateGroup_ok.mp updated
  obtain ⟨lookup, owned⟩ := (findOne_ok user).mp found
  have same : group.id = id := (Table.find_eq_some.mp lookup).2
  have member := mem_after_update changed (same.symm ▸ lookup)
  exact answer_follows (groupView_after sound member (User.owns_school owned))

theorem remove_mirrors (tenanted : db.Tenanted) :
    Db.Mirrors user.schoolId (remove user id (db.restrict user.schoolId)) (remove user id db) :=
  Follows.read (findOne_restrict tenanted) fun _ found =>
    Db.deleteGroup_mirrors tenanted (findOne_home found)

theorem addMember_answers {groupId studentId : Id} (tenanted : db.Tenanted) :
    Db.Answers user.schoolId
      (addMember platform user groupId studentId (db.restrict user.schoolId))
      (addMember platform user groupId studentId db) := by
  refine Follows.read (findOne_restrict tenanted) fun group found => ?_
  refine Follows.read (StudentsService.findOne_restrict tenanted) fun student reached => ?_
  have belongs : db.Belongs user.schoolId (.member ⟨group.id, student.id⟩) :=
    Db.belongs_member.mpr ⟨findOne_home found, StudentsService.findOne_home reached⟩
  refine (Db.upsertMember_mirrors tenanted belongs).bind fun next added => ?_
  have sound := (Db.upsertMember_confined tenanted belongs added).sound tenanted
  exact Follows.read (detail_restrict sound) fun _ _ => answer_follows rfl

theorem removeMember_answers {groupId studentId : Id} (tenanted : db.Tenanted) :
    Db.Answers user.schoolId
      (removeMember platform user groupId studentId (db.restrict user.schoolId))
      (removeMember platform user groupId studentId db) := by
  refine Follows.read (findOne_restrict tenanted) fun group found => ?_
  have home := findOne_home found
  have sound : (db.deleteMember group.id studentId).Tenanted :=
    (Db.deleteMember_confined tenanted home).sound tenanted
  rw [← Db.deleteMember_part tenanted home]
  exact Follows.read (detail_restrict sound) fun _ _ => answer_follows rfl

end GroupsService

/-- The school's part of what an attempt leaves. -/
def Attempt.restrict {α : Type} (attempt : Attempt α) (schoolId : Id) : Attempt α :=
  { attempt with db := attempt.db.restrict schoolId }

namespace MeetingAccountsService

theorem writeBack_mirrors {schoolId : Id} {account : MeetingAccount} {tokens : TokenSet}
    (owned : ∀ row ∈ db.meetingAccounts.find account.id,
      db.Belongs schoolId (.meetingAccount row)) :
    Db.Mirrors schoolId (writeBack platform draw account tokens (db.restrict schoolId))
      (writeBack platform draw account tokens db) :=
  Follows.read rfl fun _ _ => Follows.read rfl fun _ _ => Follows.read rfl fun _ _ =>
    Db.updateMeetingAccount_mirrors owned

theorem accessTokenFor_part {schoolId : Id} {endpoints : Endpoints} {account : MeetingAccount}
    (owned : ∀ row ∈ db.meetingAccounts.find account.id,
      db.Belongs schoolId (.meetingAccount row)) :
    accessTokenFor platform draw endpoints account (db.restrict schoolId) =
      (accessTokenFor platform draw endpoints account db).restrict schoolId := by
  have forgotten := Db.forgetMeetingAccount_part owned
  unfold accessTokenFor
  cases cachedToken platform draw.now account with
  | some cached => rfl
  | none =>
      cases decrypt platform account.refreshToken with
      | none => simp only [Attempt.restrict, forgotten]
      | some refreshToken =>
          dsimp only
          generalize exchange platform endpoints account.provider (.refreshToken refreshToken) =
            answered
          obtain ⟨outcome, calls⟩ := answered
          cases outcome with
          | error reason => simp only [Attempt.restrict, forgotten]
          | ok tokens =>
              dsimp only
              rw [writeBack_mirrors owned]
              cases writeBack platform draw account tokens db <;> rfl

theorem accountOf_restrict {provider : MeetingProvider} (tenanted : db.Tenanted)
    (caller : db.Caller user) :
    accountOf (db.restrict user.schoolId) user.id provider = accountOf db user.id provider := by
  refine Table.find?_restrict fun row found => ?_
  have own := List.find?_some found
  simp only [Bool.and_eq_true, beq_iff_eq] at own
  exact Db.account_belongs tenanted caller.home (List.mem_of_find?_eq_some found) own.1

theorem createRoom_part {endpoints : Endpoints} {provider : MeetingProvider}
    {request : RoomRequest} (tenanted : db.Tenanted) (caller : db.Caller user) :
    createRoom platform user draw endpoints provider request (db.restrict user.schoolId) =
      (createRoom platform user draw endpoints provider request db).restrict user.schoolId := by
  unfold createRoom
  rw [accountOf_restrict tenanted caller]
  split
  · rfl
  · cases found : accountOf db user.id provider with
    | none => rfl
    | some account =>
        have owned : ∀ row ∈ db.meetingAccounts.find account.id,
            db.Belongs user.schoolId (.meetingAccount row) := by
          intro row again
          obtain ⟨present, same⟩ := Table.find_eq_some.mp again
          have own := List.find?_some found
          simp only [Bool.and_eq_true, beq_iff_eq] at own
          have member := List.mem_of_find?_eq_some found
          rw [Table.key_injective present member same]
          exact Db.belongs_meetingAccount.mpr (own.1 ▸ caller.home)
        dsimp only
        rw [accessTokenFor_part owned]
        generalize accessTokenFor platform draw endpoints account db = access
        obtain ⟨outcome, stored, calls⟩ := access
        rcases outcome with reason | _ | token
        · rfl
        · rfl
        · simp only [Attempt.restrict]
          split <;> rfl

theorem disconnect_mirrors {provider : MeetingProvider} (tenanted : db.Tenanted)
    (caller : db.Caller user) :
    Db.Mirrors user.schoolId (disconnect user provider (db.restrict user.schoolId))
      (disconnect user provider db) := by
  unfold disconnect
  rw [Db.deleteMeetingAccounts_part tenanted caller.home]
  generalize db.deleteMeetingAccounts user.id provider = removed
  obtain ⟨count, after⟩ := removed
  dsimp only
  split
  · exact Follows.error _
  · exact Follows.ok after

/-- A connection is stored on the part when its user is of the school. -/
theorem completeConnection_part {endpoints : Endpoints} {provider : MeetingProvider}
    {code state schoolId : Id} (tenanted : db.Tenanted)
    (home : ∀ userId, stateUser platform draw.now provider state = .ok userId →
      db.home (.user userId) = some schoolId)
    (id : db.Unclaimed schoolId (.id draw.id)) :
    completeConnection platform draw endpoints provider code state (db.restrict schoolId) =
      (completeConnection platform draw endpoints provider code state db).restrict schoolId := by
  unfold completeConnection
  dsimp only
  cases prepared : (do
      let _ ← requireCredentials platform provider
      let userId ← stateUser platform draw.now provider state
      let uri ← redirectUri platform provider
      return (userId, uri) : Service (Id × String)) with
  | error reason => rfl
  | ok both =>
      obtain ⟨userId, uri⟩ := both
      have named : stateUser platform draw.now provider state = .ok userId := by
        simp only [bind_ok, pure_ok, Prod.mk.injEq] at prepared
        obtain ⟨_, -, _, named, _, -, rfl, rfl⟩ := prepared
        exact named
      dsimp only
      generalize exchange platform endpoints provider (.authorizationCode code uri) = answered
      obtain ⟨outcome, calls⟩ := answered
      cases outcome with
      | error reason => rfl
      | ok tokens =>
          dsimp only
          cases tokens.refreshToken with
          | none => rfl
          | some refreshToken =>
              dsimp only
              generalize describeAccount endpoints provider tokens.accessToken = described
              have stored : Db.Mirrors schoolId (do
                  let row ← connectionRow platform draw userId provider tokens refreshToken
                    described.1
                  (db.restrict schoolId).upsertMeetingAccount row) (do
                  let row ← connectionRow platform draw userId provider tokens refreshToken
                    described.1
                  db.upsertMeetingAccount row) := by
                refine Follows.read rfl fun row made => ?_
                obtain ⟨own, mark⟩ : row.userId = userId ∧ row.id = draw.id := by
                  simp only [connectionRow, bind_ok, pure_ok] at made
                  obtain ⟨_, -, _, -, _, -, rfl⟩ := made
                  exact ⟨rfl, rfl⟩
                exact Db.upsertMeetingAccount_mirrors tenanted (own.symm ▸ home userId named)
                  (mark.symm ▸ id)
              rw [stored]
              cases (do
                  let row ← connectionRow platform draw userId provider tokens refreshToken
                    described.1
                  db.upsertMeetingAccount row : Service Db) <;> rfl

end MeetingAccountsService

namespace LessonsService

theorem lessonView_after {row : Lesson} (tenanted : next.Tenanted)
    (member : row ∈ next.lessons.rows) (own : row.schoolId = user.schoolId) :
    (next.restrict user.schoolId).lessonView platform row = next.lessonView platform row := by
  refine Db.lessonView_restrict tenanted ?_
  rw [← own]
  exact Db.Tenanted.belongs_own tenanted (.lesson row) member List.mem_cons_self

theorem home_after {row : Lesson} (member : row ∈ next.lessons.rows) (same : row.id = id)
    (own : row.schoolId = user.schoolId) : next.home (.lesson id) = some user.schoolId := by
  subst same
  rw [← own]
  exact Db.home_of_find Slot.lessons (.lesson row.id) rfl (Table.find_key member)

theorem topicFor_restrict {subjectId : Option Id} (tenanted : db.Tenanted) :
    topicFor user subjectId (db.restrict user.schoolId) = topicFor user subjectId db := by
  cases subjectId with
  | none => rfl
  | some id =>
      have same := Slot.subjects.filter_restrict (fun _ => List.mem_cons_self) tenanted id
        (fun row => row.schoolId == user.schoolId) fun _ passes => beq_iff_eq.mp passes
      exact congrArg (fun found => (Option.map Subject.name found).getD "Lesson") same

theorem meetingFor_part {endpoints : Endpoints} {subjectId : Option Id}
    {startsAt : Option Js.Instant} {durationMinutes : Int} (tenanted : db.Tenanted)
    (caller : db.Caller user) :
    meetingFor platform user draw endpoints subjectId startsAt durationMinutes
        (db.restrict user.schoolId) =
      (meetingFor platform user draw endpoints subjectId startsAt durationMinutes db).restrict
        user.schoolId := by
  unfold meetingFor
  split
  · rfl
  · rw [topicFor_restrict tenanted, MeetingAccountsService.createRoom_part tenanted caller]
    rfl

theorem bookingTarget_restrict {dto : CreateLessonDto} (tenanted : db.Tenanted) :
    bookingTarget user dto (db.restrict user.schoolId) = bookingTarget user dto db := by
  simp only [bookingTarget, StudentsService.findOne_restrict tenanted,
    GroupsService.findOne_restrict tenanted]

theorem storeLesson_answers {dto : CreateLessonDto} {subjectId : Option Id}
    {meeting : Option (MeetingProvider × String)} (tenanted : db.Tenanted)
    (caller : db.Caller user)
    (subject : ∀ id ∈ subjectId, db.home (.subject id) = some user.schoolId)
    (id : db.Unclaimed user.schoolId (.id draw.id)) :
    Db.Answers user.schoolId
      (storeLesson platform user draw dto subjectId meeting (db.restrict user.schoolId))
      (storeLesson platform user draw dto subjectId meeting db) := by
  refine Follows.read (bookingTarget_restrict tenanted) fun target chosen => ?_
  refine Follows.read rfl fun startsAt _ => ?_
  obtain ⟨student, group⟩ := bookingTarget_home chosen
  have belongs : db.Belongs user.schoolId (.lesson {
      id := draw.id
      startsAt
      durationMinutes := dto.durationMinutes
      status := .scheduled
      schoolId := user.schoolId
      tutorId := user.id
      subjectId
      studentId := target.1
      groupId := target.2
      topic := none
      homework := none
      meetingUrl := meeting.map Prod.snd
      meetingProvider := meeting.map Prod.fst }) :=
    Db.belongs_lesson.mpr ⟨caller.school tenanted, caller.home, subject, student, group⟩
  refine (Db.createLesson_mirrors tenanted belongs id).bind fun next created => ?_
  have sound := (Db.createLesson_confined tenanted belongs created).sound tenanted
  obtain ⟨-, lessons, inserted, rfl⟩ := Db.createLesson_ok.mp created
  exact answer_follows (lessonView_after sound (mem_after_create (createRow_ok.mpr inserted)) rfl)

theorem create_part {endpoints : Endpoints} {dto : CreateLessonDto} (tenanted : db.Tenanted)
    (caller : db.Caller user) (id : db.Unclaimed user.schoolId (.id draw.id)) :
    create platform user draw endpoints dto (db.restrict user.schoolId) =
      (create platform user draw endpoints dto db).restrict user.schoolId := by
  have checked : checkBooking user dto (db.restrict user.schoolId) = checkBooking user dto db := by
    simp only [checkBooking, SubjectsService.resolve_restrict tenanted]
  unfold create
  rw [checked]
  cases found : checkBooking user dto db with
  | error reason => rfl
  | ok subjectId =>
      obtain ⟨_, -, resolved⟩ := bind_ok.mp found
      have subject := SubjectsService.resolve_ok user resolved
      have arranged : Db.Confined user.schoolId db (meetingFor platform user draw endpoints
          subjectId (platform.parseDate dto.startsAt) dto.durationMinutes db).db :=
        meetingFor_confined caller
      obtain ⟨accounts, same⟩ := meetingFor_db platform user draw endpoints subjectId
        (platform.parseDate dto.startsAt) dto.durationMinutes db
      dsimp only
      rw [meetingFor_part tenanted caller]
      generalize meetingFor platform user draw endpoints subjectId
        (platform.parseDate dto.startsAt) dto.durationMinutes db = meeting at arranged same
      obtain ⟨outcome, after, calls⟩ := meeting
      cases outcome with
      | error reason => rfl
      | ok link =>
          simp only [Attempt.restrict] at arranged same ⊢
          have stored : Db.Answers user.schoolId
              (storeLesson platform user draw dto subjectId link (after.restrict user.schoolId))
              (storeLesson platform user draw dto subjectId link after) := by
            refine storeLesson_answers (arranged.sound tenanted) ?_ ?_ (id.confined arranged)
            · rw [same]
              exact caller
            · rw [same]
              exact subject
          rw [stored]
          cases storeLesson platform user draw dto subjectId link after <;> rfl

theorem updateStatus_answers {status : LessonStatus} (tenanted : db.Tenanted) :
    Db.Answers user.schoolId (updateStatus platform user id status (db.restrict user.schoolId))
      (updateStatus platform user id status db) := by
  refine Follows.read (findReachable_restrict tenanted) fun lesson found => ?_
  have home := findReachable_home found
  refine (Db.updateLesson_mirrors tenanted home).bind fun next updated => ?_
  have sound := (Db.updateLesson_confined tenanted home updated).sound tenanted
  obtain ⟨lessons, changed, rfl⟩ := Db.updateLesson_ok.mp updated
  obtain ⟨lookup, owned⟩ := (findReachable_ok user).mp found
  have same : lesson.id = id := (Table.find_eq_some.mp lookup).2
  have member := mem_after_update changed (same.symm ▸ lookup)
  exact answer_follows (lessonView_after sound member (User.owns_school owned))

end LessonsService

theorem Db.find_school_restrict {schoolId : Id} (tenanted : db.Tenanted) :
    (db.restrict schoolId).schools.find schoolId = db.schools.find schoolId := by
  refine Slot.schools.find_part fun row found => ?_
  obtain ⟨present, same⟩ := Table.find_eq_some.mp found
  obtain rfl : row.id = schoolId := same
  exact Db.Tenanted.belongs_own tenanted (.school row) present List.mem_cons_self

theorem LessonsService.studentIdsFor_restrict {lessonId schoolId : Id} (tenanted : db.Tenanted)
    (home : db.home (.lesson lessonId) = some schoolId) :
    studentIdsFor lessonId (db.restrict schoolId) = studentIdsFor lessonId db := by
  unfold studentIdsFor
  rw [Db.find_lesson_restrict tenanted home]
  cases found : db.lessons.find lessonId with
  | none => rfl
  | some lesson =>
      have belongs : db.Belongs schoolId (.lesson lesson) :=
        Db.found_belongs Slot.lessons tenanted rfl home (fun _ => List.mem_cons_self) lesson found
      dsimp only
      split
      · rfl
      · rename_i groupId _ named
        rw [Db.members_restrict tenanted ((Db.belongs_lesson.mp belongs).2.2.2.2 groupId named)]
      · rfl

namespace GradebookService

theorem checkMarks_restrict {lessonId schoolId : Id} {marks : List MarkAttendanceDto}
    (tenanted : db.Tenanted) (home : db.home (.lesson lessonId) = some schoolId) :
    checkMarks lessonId marks (db.restrict schoolId) = checkMarks lessonId marks db := by
  simp only [checkMarks, LessonsService.studentIdsFor_restrict tenanted home]

theorem wasCharged_restrict {lessonId studentId schoolId : Id} (tenanted : db.Tenanted)
    (home : db.home (.lesson lessonId) = some schoolId) :
    wasCharged (db.restrict schoolId) lessonId studentId = wasCharged db lessonId studentId := by
  have same : (db.restrict schoolId).attendances.find (lessonId, studentId) =
      db.attendances.find (lessonId, studentId) :=
    Slot.attendances.find_part (Db.mark_belongs tenanted home)
  rw [wasCharged, wasCharged, same]

theorem writeMark_mirrors {lessonId schoolId : Id} {mark : MarkAttendanceDto}
    (tenanted : db.Tenanted) (lesson : db.home (.lesson lessonId) = some schoolId)
    (student : db.home (.student mark.studentId) = some schoolId) :
    Db.Mirrors schoolId (writeMark lessonId mark (db.restrict schoolId))
      (writeMark lessonId mark db) := by
  have settles : Db.Mirrors schoolId (settle lessonId mark (db.restrict schoolId))
      (settle lessonId mark db) := by
    unfold settle settleFrom
    rw [wasCharged_restrict tenanted lesson]
    split
    · exact Db.addLessons_mirrors tenanted student
    · exact Follows.ok db
  refine settles.bind fun settled done => ?_
  obtain ⟨confined, homes⟩ := settle_confined tenanted student done
  exact Db.upsertAttendance_mirrors (confined.sound tenanted) ((homes _).trans lesson)
    ((homes _).trans student)

/-- The loop over a register, mark by mark. -/
theorem writeMarks_mirrors {lessonId schoolId : Id} {marks : List MarkAttendanceDto}
    (tenanted : db.Tenanted) (lesson : db.home (.lesson lessonId) = some schoolId)
    (students : ∀ mark ∈ marks, db.home (.student mark.studentId) = some schoolId) :
    Db.Mirrors schoolId (writeMarks lessonId marks (db.restrict schoolId))
      (writeMarks lessonId marks db) := by
  induction marks generalizing db with
  | nil => exact Follows.ok db
  | cons mark rest ih =>
      have student := students mark List.mem_cons_self
      refine (writeMark_mirrors tenanted lesson student).bind fun marked written => ?_
      obtain ⟨confined, homes⟩ := writeMark_confined tenanted lesson student written
      exact ih (confined.sound tenanted) ((homes _).trans lesson) fun other member =>
        (homes _).trans (students other (List.mem_cons_of_mem _ member))

theorem writeJournal_answers {lessonId : Id} {dto : WriteJournalDto} (tenanted : db.Tenanted) :
    Db.Answers user.schoolId (writeJournal platform user lessonId dto (db.restrict user.schoolId))
      (writeJournal platform user lessonId dto db) := by
  refine Follows.read (LessonsService.findReachable_restrict tenanted) fun lesson found => ?_
  have home := LessonsService.findReachable_home found
  refine Follows.read (checkMarks_restrict tenanted home) fun _ checked => ?_
  obtain ⟨eligible, -⟩ := checkMarks_ok.mp checked
  have students : ∀ mark ∈ dto.attendance.getD [],
      db.home (.student mark.studentId) = some user.schoolId := fun mark member =>
    LessonsService.studentIdsFor_home tenanted home (eligible mark member)
  refine (writeMarks_mirrors tenanted home students).bind fun marked written => ?_
  obtain ⟨register, homes⟩ := writeMarks_confined tenanted home students written
  have marked_home := (homes (.lesson lesson.id)).trans home
  refine (Db.updateLesson_mirrors (register.sound tenanted) marked_home).bind fun next updated => ?_
  have sound := (Db.updateLesson_confined (register.sound tenanted) marked_home updated).sound
    (register.sound tenanted)
  obtain ⟨lookup, owned⟩ := (LessonsService.findReachable_ok user).mp found
  obtain ⟨students, attendances, rfl⟩ := writeMarks_frame written
  obtain ⟨lessons, changed, rfl⟩ := Db.updateLesson_ok.mp updated
  have same : lesson.id = lessonId := (Table.find_eq_some.mp lookup).2
  have member := mem_after_update changed (same.symm ▸ lookup)
  have own := User.owns_school owned
  refine answer_follows ?_
  rw [LessonsService.lessonView_after sound member own]
  congr 1
  refine register_restrict sound ?_
  exact LessonsService.home_after member rfl own

theorem assertValueInScale_restrict {dto : WriteGradeDto} (tenanted : db.Tenanted) :
    assertValueInScale user dto (db.restrict user.schoolId) = assertValueInScale user dto db := by
  unfold assertValueInScale
  rw [Db.find_school_restrict tenanted]

theorem storeGrade_answers {dto : WriteGradeDto} {studentId : Id} {lessonId : Option Id}
    (tenanted : db.Tenanted) (caller : db.Caller user)
    (student : db.home (.student studentId) = some user.schoolId)
    (lesson : ∀ id ∈ lessonId, db.home (.lesson id) = some user.schoolId)
    (id : db.Unclaimed user.schoolId (.id draw.id)) :
    Db.Answers user.schoolId
      (storeGrade user draw dto studentId lessonId (db.restrict user.schoolId))
      (storeGrade user draw dto studentId lessonId db) := by
  refine Follows.read (assertValueInScale_restrict tenanted) fun _ _ => ?_
  refine Follows.read rfl fun data _ => ?_
  have belongs : db.Belongs user.schoolId (.grade (gradeRow user draw data studentId lessonId)) :=
    Db.belongs_grade.mpr ⟨student, caller.home, lesson⟩
  refine (Db.createGrade_mirrors tenanted belongs id).bind fun next created => ?_
  have sound := (Db.createGrade_confined tenanted belongs created).sound tenanted
  obtain ⟨-, grades, inserted, rfl⟩ := Db.createGrade_ok.mp created
  exact answer_follows (Db.gradeView_restrict sound belongs)

theorem addForStudent_answers {studentId : Id} {dto : WriteGradeDto} (tenanted : db.Tenanted)
    (caller : db.Caller user) (id : db.Unclaimed user.schoolId (.id draw.id)) :
    Db.Answers user.schoolId (addForStudent user draw studentId dto (db.restrict user.schoolId))
      (addForStudent user draw studentId dto db) :=
  Follows.read (StudentsService.findOne_restrict tenanted) fun _ found =>
    storeGrade_answers tenanted caller (StudentsService.findOne_home found) (by simp) id

theorem resolveMarked_restrict {lesson : Lesson} {named : Js.Field Id} {schoolId : Id}
    (tenanted : db.Tenanted) (home : db.home (.lesson lesson.id) = some schoolId) :
    resolveMarked lesson named (db.restrict schoolId) = resolveMarked lesson named db := by
  unfold resolveMarked
  rw [LessonsService.studentIdsFor_restrict tenanted home]

theorem addForLesson_answers {lessonId : Id} {dto : WriteGradeDto} (tenanted : db.Tenanted)
    (caller : db.Caller user) (id : db.Unclaimed user.schoolId (.id draw.id)) :
    Db.Answers user.schoolId (addForLesson user draw lessonId dto (db.restrict user.schoolId))
      (addForLesson user draw lessonId dto db) := by
  refine Follows.read (LessonsService.findReachable_restrict tenanted) fun lesson found => ?_
  have home := LessonsService.findReachable_home found
  refine Follows.read (resolveMarked_restrict tenanted home) fun studentId marked => ?_
  obtain ⟨lookup, owned⟩ := (LessonsService.findReachable_ok user).mp found
  have belongs := Db.Tenanted.belongs_own tenanted (.lesson lesson)
    (Table.find_eq_some.mp lookup).1 List.mem_cons_self
  rw [User.owns_school owned] at belongs
  refine storeGrade_answers tenanted caller (resolveMarked_home tenanted belongs home marked) ?_ id
  rintro _ ⟨⟩
  exact home

theorem findWritable_restrict (tenanted : db.Tenanted)
    (named : db.Unclaimed user.schoolId (.id id)) :
    findWritable user id (db.restrict user.schoolId) = findWritable user id db := by
  have found : (db.restrict user.schoolId).grades.find id = db.grades.find id :=
    Slot.grades.find_part fun row found => by
      obtain ⟨present, same⟩ := Table.find_eq_some.mp found
      exact named (.grade row) present (by simp [Row.marks, show row.id = id from same])
  simp only [findWritable, found, StudentsService.findOne_restrict tenanted]

theorem update_answers {dto : WriteGradeDto} (tenanted : db.Tenanted)
    (named : db.Unclaimed user.schoolId (.id id)) :
    Db.Answers user.schoolId (update user id dto (db.restrict user.schoolId))
      (update user id dto db) := by
  refine Follows.read (findWritable_restrict tenanted named) fun grade found => ?_
  refine Follows.read (assertValueInScale_restrict tenanted) fun _ _ => ?_
  refine Follows.read rfl fun data _ => ?_
  have owned := findWritable_owned tenanted found
  have lookup := (findWritable_ok.mp found).1
  have itself : grade.id = id := (Table.find_eq_some.mp lookup).2
  have belongs : db.Belongs user.schoolId (.grade grade) := owned grade (itself.symm ▸ lookup)
  refine (Db.updateGrade_mirrors owned).bind fun next updated => ?_
  have sound := (Db.updateGrade_confined owned updated).sound tenanted
  obtain ⟨grades, changed, rfl⟩ := Db.updateGrade_ok.mp updated
  refine answer_follows (Db.gradeView_restrict sound ?_)
  exact Db.belongs_grade.mpr (Db.belongs_grade.mp belongs)

theorem remove_mirrors (tenanted : db.Tenanted) (named : db.Unclaimed user.schoolId (.id id)) :
    Db.Mirrors user.schoolId (remove user id (db.restrict user.schoolId)) (remove user id db) :=
  Follows.read (findWritable_restrict tenanted named) fun _ found =>
    Db.deleteGrade_mirrors (findWritable_owned tenanted found)

end GradebookService

namespace NotesService

theorem store_answers {row : Note} (tenanted : db.Tenanted)
    (belongs : db.Belongs user.schoolId (.note row))
    (id : db.Unclaimed user.schoolId (.id row.id)) :
    Db.Answers user.schoolId (do
        let db ← (db.restrict user.schoolId).createNote row
        return (db.noteView row, db)) (do
        let db ← db.createNote row
        return (db.noteView row, db)) := by
  refine (Db.createNote_mirrors tenanted belongs id).bind fun next created => ?_
  have sound := (Db.createNote_confined tenanted belongs created).sound tenanted
  obtain ⟨-, notes, inserted, rfl⟩ := Db.createNote_ok.mp created
  exact answer_follows (Db.noteView_restrict sound belongs)

theorem addForStudent_answers {studentId : Id} {text : String} (tenanted : db.Tenanted)
    (caller : db.Caller user) (id : db.Unclaimed user.schoolId (.id draw.id)) :
    Db.Answers user.schoolId (addForStudent user draw studentId text (db.restrict user.schoolId))
      (addForStudent user draw studentId text db) := by
  refine Follows.read (StudentsService.findOne_restrict tenanted) fun student found => ?_
  refine store_answers tenanted (Db.belongs_note.mpr ⟨caller.home, ?_, by simp, .inl rfl⟩) id
  rintro _ ⟨⟩
  exact StudentsService.findOne_home found

theorem addForLesson_answers {lessonId : Id} {text : String} (tenanted : db.Tenanted)
    (caller : db.Caller user) (id : db.Unclaimed user.schoolId (.id draw.id)) :
    Db.Answers user.schoolId (addForLesson user draw lessonId text (db.restrict user.schoolId))
      (addForLesson user draw lessonId text db) := by
  refine Follows.read (LessonsService.findReachable_restrict tenanted) fun lesson found => ?_
  refine store_answers tenanted (Db.belongs_note.mpr ⟨caller.home, by simp, ?_, .inr rfl⟩) id
  rintro _ ⟨⟩
  exact LessonsService.findReachable_home found

theorem reachesStudent_restrict {studentId : Option Id} (tenanted : db.Tenanted) :
    LessonsService.reachesStudent user studentId (db.restrict user.schoolId) =
      LessonsService.reachesStudent user studentId db := by
  cases studentId with
  | none => rfl
  | some id => simp only [LessonsService.reachesStudent, StudentsService.findOne_restrict tenanted]

theorem reachesLesson_restrict {lessonId : Option Id} (tenanted : db.Tenanted) :
    LessonsService.reachesLesson user lessonId (db.restrict user.schoolId) =
      LessonsService.reachesLesson user lessonId db := by
  cases lessonId with
  | none => rfl
  | some id =>
      simp only [LessonsService.reachesLesson, LessonsService.findReachable_restrict tenanted]

theorem remove_mirrors (tenanted : db.Tenanted) (named : db.Unclaimed user.schoolId (.id id)) :
    Db.Mirrors user.schoolId (remove user id (db.restrict user.schoolId)) (remove user id db) := by
  have mine : ∀ row ∈ db.notes.find id, db.Belongs user.schoolId (.note row) := by
    intro row found
    obtain ⟨present, same⟩ := Table.find_eq_some.mp found
    exact named (.note row) present (by simp [Row.marks, show row.id = id from same])
  refine Follows.read (congrArg (orNotFound · "Note not found") (Slot.notes.find_part mine))
    fun note found => ?_
  refine Follows.read (reachesStudent_restrict tenanted) fun _ _ => ?_
  refine Follows.read (reachesLesson_restrict tenanted) fun _ _ => ?_
  refine require_follows rfl fun _ => Db.deleteNote_mirrors ?_
  have lookup := orNotFound_ok.mp found
  rwa [show note.id = id from (Table.find_eq_some.mp lookup).2]

end NotesService

namespace FilesService

theorem assertWithinQuota_restrict {schoolId : Id} {incomingBytes : Nat} (tenanted : db.Tenanted) :
    assertWithinQuota platform schoolId incomingBytes (db.restrict schoolId) =
      assertWithinQuota platform schoolId incomingBytes db := by
  have same : (db.restrict schoolId).files.select (fun row => row.schoolId == schoolId) =
      db.files.select _ := Table.select_restrict fun row member selected => Db.belongsTo_iff.mpr
    (beq_iff_eq.mp selected ▸ Db.Tenanted.belongs_own tenanted (.file row) member
      List.mem_cons_self)
  have stored : storedBytes schoolId (db.restrict schoolId) = storedBytes schoolId db := by
    simp only [storedBytes, same]
  rw [assertWithinQuota, stored]
  rfl

theorem beginUpload_answers {findTarget : Db → Service UploadTarget} {incoming : IncomingFile}
    (tenanted : db.Tenanted) (caller : db.Caller user)
    (found : findTarget (db.restrict user.schoolId) = findTarget db)
    (inside : ∀ target, findTarget db = .ok target → target.Of db user.schoolId)
    (id : db.Unclaimed user.schoolId (.id draw.id))
    (pending : db.Unclaimed user.schoolId (.storageKey pendingKey)) :
    Db.Answers user.schoolId
      (beginUpload platform user draw findTarget incoming (db.restrict user.schoolId))
      (beginUpload platform user draw findTarget incoming db) := by
  refine Follows.read found fun target chosen => Follows.read rfl fun _ _ => ?_
  obtain ⟨school, student, lesson⟩ := inside target chosen
  refine Follows.read ?_ fun _ _ => ?_
  · rw [school, assertWithinQuota_restrict tenanted]
  · have belongs : db.Belongs user.schoolId (.file (pendingRow user draw target incoming)) :=
      Db.belongs_file.mpr ⟨school ▸ caller.school tenanted, caller.home, student, lesson⟩
    exact (Db.createFile_mirrors tenanted belongs id pending).bind fun next _ => answer_follows rfl

theorem beginUpload_rows {findTarget : Db → Service UploadTarget} {incoming : IncomingFile}
    {row : File} (began : beginUpload platform user draw findTarget incoming db = .ok (row, next)) :
    ∀ other ∈ next.files.rows, other ∈ db.files.rows ∨ other.storageKey = pendingKey := by
  obtain ⟨_, -, -, -, created, -⟩ := beginUpload_ok.mp began
  obtain ⟨-, -, -, files, inserted, rfl⟩ := Db.createFile_ok.mp created
  intro other member
  rcases (Table.mem_insert inserted).mp member with old | rfl
  · exact .inl old
  · exact .inr rfl

theorem finishUpload_rows {row file : File} (finished : finishUpload draw row db = .ok (file, next)) :
    ∀ other ∈ next.files.rows,
      other ∈ db.files.rows ∨ other.storageKey = keyFor row.schoolId row.id := by
  obtain ⟨finalised, -⟩ := finishUpload_ok.mp finished
  obtain ⟨-, files, updated, rfl⟩ := Db.finaliseFile_ok.mp finalised
  obtain ⟨-, rfl⟩ := updateRow_ok.mp updated
  intro other member
  rw [Table.rows_update] at member
  obtain ⟨old, present, rfl⟩ := List.mem_map.mp member
  split
  · exact .inr rfl
  · exact .inl present

/-- A row of the school gets its key on the part as on the whole. -/
theorem finishUpload_answers {row : File}
    (owned : ∀ other ∈ db.files.find row.id, db.Belongs user.schoolId (.file other))
    (final : db.Unclaimed user.schoolId (.storageKey (keyFor row.schoolId row.id))) :
    Db.Answers user.schoolId (finishUpload draw row (db.restrict user.schoolId))
      (finishUpload draw row db) :=
  (Db.finaliseFile_mirrors owned final).bind fun _ _ => answer_follows rfl

/-- An upload on the part is the upload on the whole, where the part's bytes are. -/
theorem upload_part {saves : Bool} {findTarget : Db → Service UploadTarget}
    {incoming : IncomingFile} {disk other : Disk} (tenanted : db.Tenanted) (caller : db.Caller user)
    (agrees : Disk.Agrees (db.restrict user.schoolId).files other disk)
    (found : findTarget (db.restrict user.schoolId) = findTarget db)
    (inside : ∀ target, findTarget db = .ok target → target.Of db user.schoolId)
    (id : db.Unclaimed user.schoolId (.id draw.id))
    (pending : db.Unclaimed user.schoolId (.storageKey pendingKey))
    (final : db.Unclaimed user.schoolId (.storageKey (keyFor user.schoolId draw.id))) :
    let onPart := upload platform user draw saves findTarget incoming
      ⟨db.restrict user.schoolId, other⟩
    let onWhole := upload platform user draw saves findTarget incoming ⟨db, disk⟩
    onPart.1 = onWhole.1 ∧ onPart.2.Shows user.schoolId onWhole.2 := by
  intro onPart onWhole
  have begun : Db.Answers user.schoolId
      (beginUpload platform user draw findTarget incoming (db.restrict user.schoolId))
      (beginUpload platform user draw findTarget incoming db) :=
    beginUpload_answers tenanted caller found inside id pending
  simp only [onPart, onWhole, upload]
  cases began : beginUpload platform user draw findTarget incoming db with
  | error reason =>
      rw [began] at begun
      rw [begun]
      exact ⟨rfl, rfl, agrees⟩
  | ok stored =>
      obtain ⟨row, next⟩ := stored
      rw [began] at begun
      have waiting : Disk.Agrees (next.restrict user.schoolId).files other disk := by
        refine agrees.grow fun added member => ?_
        rcases beginUpload_rows begun added member with old | unnamed
        · exact .inl old
        · exact .inr (unnamed ▸ agrees.pending)
      rw [begun]
      obtain ⟨inserted, belongs, present⟩ := beginUpload_confined tenanted caller inside began
      obtain ⟨target, chosen, -, -, -, rfl⟩ := beginUpload_ok.mp began
      have owned : ∀ other ∈ next.files.find draw.id,
          next.Belongs user.schoolId (.file other) := by
        intro other again
        obtain ⟨member, same⟩ := Table.find_eq_some.mp again
        rwa [Table.key_injective member present same]
      have unclaimed : next.Unclaimed user.schoolId
          (.storageKey (keyFor target.schoolId draw.id)) := by
        rw [(inside target chosen).1]
        exact final.confined inserted
      have finished : Db.Answers user.schoolId
          (finishUpload draw (pendingRow user draw target incoming)
            (next.restrict user.schoolId))
          (finishUpload draw (pendingRow user draw target incoming) next) :=
        finishUpload_answers owned unclaimed
      have saved := waiting.update (keyFor target.schoolId draw.id) (some incoming.buffer)
      simp only [Except.map, Prod.map, id_eq, storeBytes]
      split
      · exact ⟨rfl, rfl, waiting⟩
      · cases ended : finishUpload draw (pendingRow user draw target incoming) next with
        | error reason =>
            rw [ended] at finished
            rw [finished]
            exact ⟨rfl, rfl, saved⟩
        | ok stored =>
            rw [ended] at finished
            rw [finished]
            refine ⟨rfl, rfl, saved.grow fun renamed member => ?_⟩
            rcases finishUpload_rows finished renamed member with old | named
            · exact .inl old
            · have here : renamed.storageKey = keyFor target.schoolId draw.id := named
              refine .inr ?_
              rw [here, Function.update_self, Function.update_self]

theorem studentTarget_restrict (tenanted : db.Tenanted) :
    studentTarget user id (db.restrict user.schoolId) = studentTarget user id db := by
  simp only [studentTarget, StudentsService.findOne_restrict tenanted]

theorem lessonTarget_restrict (tenanted : db.Tenanted) :
    lessonTarget user id (db.restrict user.schoolId) = lessonTarget user id db := by
  simp only [lessonTarget, LessonsService.findReachable_restrict tenanted]

theorem findReachable_restrict (tenanted : db.Tenanted) :
    findReachable user id (db.restrict user.schoolId) = findReachable user id db := by
  have same := Slot.files.filter_restrict (fun _ => List.mem_cons_self) tenanted id
    (fun row => row.schoolId == user.schoolId) fun _ passes => beq_iff_eq.mp passes
  refine (Follows.read (congrArg (orNotFound · "File not found") same) fun file _ => ?_).eq
  refine Follows.read (NotesService.reachesStudent_restrict tenanted) fun _ _ => ?_
  exact Follows.read (NotesService.reachesLesson_restrict tenanted) fun _ _ => Follows.of_eq rfl

theorem removeRow_answers (tenanted : db.Tenanted) :
    Db.Answers user.schoolId (removeRow user id (db.restrict user.schoolId))
      (removeRow user id db) := by
  refine Follows.read (findReachable_restrict tenanted) fun file found => ?_
  refine require_follows rfl fun _ => ?_
  obtain ⟨lookup, school⟩ := findReachable_school found
  refine (Db.deleteFile_mirrors fun row again => ?_).bind fun next _ => answer_follows rfl
  obtain ⟨member, same⟩ := Table.find_eq_some.mp again
  obtain ⟨present, asked⟩ := Table.find_eq_some.mp lookup
  obtain rfl := Table.key_injective member present same
  exact school ▸ Db.Tenanted.belongs_own tenanted (.file row) present List.mem_cons_self

theorem removeRow_rows {file : File} (removed : removeRow user id db = .ok (file, next)) :
    ∀ row ∈ next.files.rows, row ∈ db.files.rows := by
  obtain ⟨-, -, deleted⟩ := removeRow_ok.mp removed
  obtain ⟨files, left, rfl⟩ := Db.deleteFile_ok.mp deleted
  obtain ⟨-, rfl⟩ := deleteRow_ok.mp left
  exact fun row member => (Table.mem_delete.mp member).1

theorem remove_part {disk other : Disk} (tenanted : db.Tenanted)
    (agrees : Disk.Agrees (db.restrict user.schoolId).files other disk) :
    let onPart := remove user id ⟨db.restrict user.schoolId, other⟩
    let onWhole := remove user id ⟨db, disk⟩
    onPart.1 = onWhole.1 ∧ onPart.2.Shows user.schoolId onWhole.2 := by
  intro onPart onWhole
  have removes : Db.Answers user.schoolId (removeRow user id (db.restrict user.schoolId))
      (removeRow user id db) := removeRow_answers tenanted
  simp only [onPart, onWhole, remove]
  cases removed : removeRow user id db with
  | error reason =>
      rw [removed] at removes
      rw [removes]
      exact ⟨rfl, rfl, agrees⟩
  | ok gone =>
      obtain ⟨file, next⟩ := gone
      rw [removed] at removes
      have left : removeRow user id (db.restrict user.schoolId) =
          .ok (file, next.restrict user.schoolId) := removes
      rw [left]
      exact ⟨rfl, rfl, (agrees.update file.storageKey none).grow fun row member =>
        .inl (removeRow_rows left row member)⟩

/-- A file is opened with the bytes that the part holds of it. -/
theorem open_part {disk other : Disk} (tenanted : db.Tenanted)
    (agrees : Disk.Agrees (db.restrict user.schoolId).files other disk) :
    open_ user id ⟨db.restrict user.schoolId, other⟩ = open_ user id ⟨db, disk⟩ := by
  have reaches : findReachable user id (db.restrict user.schoolId) = findReachable user id db :=
    findReachable_restrict tenanted
  unfold open_
  dsimp only
  cases found : findReachable user id db with
  | error reason =>
      rw [found] at reaches
      rw [reaches]
      rfl
  | ok file =>
      rw [found] at reaches
      have listed := (Table.find_eq_some.mp (findReachable_school reaches).1).1
      rw [reaches]
      simp only [ok_bind, agrees.named file listed]

end FilesService

theorem AddonsService.setFor_answers {userId : Id} {addons : List AddonKey}
    (tenanted : db.Tenanted) (caller : db.Caller user) :
    Db.Answers user.schoolId (setFor user userId addons (db.restrict user.schoolId))
      (setFor user userId addons db) := by
  have same := Slot.users.filter_restrict (fun _ => List.mem_cons_self) tenanted userId
    (fun row => row.schoolId == user.schoolId) fun _ passes => beq_iff_eq.mp passes
  refine Follows.read (congrArg (orNotFound · "Member not found") same) fun target found => ?_
  refine require_follows rfl fun _ => ?_
  obtain ⟨lookup, own⟩ := Option.filter_eq_some_iff.mp (orNotFound_ok.mp found)
  have home : db.home (.user userId) = some user.schoolId :=
    beq_iff_eq.mp own ▸ Db.home_of_find Slot.users (.user userId) rfl lookup
  have dropped : Db.Confined user.schoolId db (db.deleteAddons userId addons.eraseDups) :=
    Db.deleteAddons_confined tenanted home
  dsimp only
  rw [← Db.deleteAddons_part tenanted home]
  exact (Db.createAddons_mirrors (dropped.sound tenanted) home caller.home).bind
    fun next _ => answer_follows rfl

theorem SchoolsService.update_answers {dto : UpdateSchoolDto} (tenanted : db.Tenanted) :
    Db.Answers user.schoolId (update user dto (db.restrict user.schoolId)) (update user dto db) := by
  refine Follows.read rfl fun timezone _ => ?_
  refine (Db.updateSchool_mirrors tenanted).bind fun next updated => ?_
  have sound := (Db.updateSchool_confined tenanted updated).sound tenanted
  exact Follows.read (congrArg (orNotFound · "School not found") (Db.find_school_restrict sound))
    fun _ _ => answer_follows rfl

theorem Db.emailTaken_restrict {schoolId : Id} {email : String}
    (unclaimed : db.Unclaimed schoolId (.email email)) :
    (db.restrict schoolId).emailTaken email = db.emailTaken email :=
  Table.any_restrict fun row member same =>
    unclaimed.row (.user row) member (by simp [Row.marks, beq_iff_eq.mp same])

theorem SchoolsService.createTutor_answers {dto : CreateTutorDto} (tenanted : db.Tenanted)
    (id : db.Unclaimed user.schoolId (.id draw.id))
    (email : db.Unclaimed user.schoolId (.email (normalizeEmail platform dto.email))) :
    Db.Answers user.schoolId (createTutor platform user draw dto (db.restrict user.schoolId))
      (createTutor platform user draw dto db) := by
  refine require_follows (congrArg (!·) (Db.emailTaken_restrict email)) fun _ => ?_
  exact (Db.createUser_mirrors tenanted rfl id email).bind fun next _ => answer_follows rfl

theorem UsersService.updateConfig_answers {input : UserConfigInput} (tenanted : db.Tenanted)
    (caller : db.Caller user) :
    Db.Answers user.schoolId (updateConfig platform user input (db.restrict user.schoolId))
      (updateConfig platform user input db) := by
  unfold updateConfig
  cases userConfigPatchSchema platform input with
  | error message => exact Follows.error _
  | ok patch =>
      exact (Db.updateUserConfig_mirrors tenanted caller.home).bind fun next _ => answer_follows rfl

/-- A school and its admin, where nothing of theirs is another school's. -/
theorem SchoolsService.register_answers {dto : RegisterSchoolDto} (tenanted : db.Tenanted)
    (id : db.Unclaimed draw.id (.id draw.id)) (secondId : db.Unclaimed draw.id (.id draw.secondId))
    (email : db.Unclaimed draw.id (.email (normalizeEmail platform dto.adminEmail)))
    (slug : db.Unclaimed draw.id
      (.slug (dto.slug.getD (slugify platform draw dto.schoolName)))) :
    Db.Answers draw.id (register platform draw dto (db.restrict draw.id))
      (register platform draw dto db) := by
  refine require_follows (congrArg (!·) (Db.emailTaken_restrict email)) fun _ => ?_
  refine require_follows (Table.all_restrict fun row member clash => ?_) fun _ => ?_
  · exact slug.row (.school row) member
      (by simp [Row.marks, show row.slug = _ by simpa using clash])
  · refine (Db.createSchool_mirrors tenanted rfl id slug).bind fun founded created => ?_
    have confined := Db.createSchool_confined tenanted created
    exact (Db.createUser_mirrors (confined.sound tenanted) rfl (secondId.confined confined)
      (email.confined confined)).bind fun next _ => answer_follows rfl

namespace InvitationsService

theorem invite_answers {email : String} (tenanted : db.Tenanted) (caller : db.Caller user)
    (id : db.Unclaimed user.schoolId (.id draw.id))
    (token : db.Unclaimed user.schoolId (.token draw.random))
    (address : db.Unclaimed user.schoolId
      (.email (SchoolsService.normalizeEmail platform email))) :
    Db.Answers user.schoolId (invite platform user draw email (db.restrict user.schoolId))
      (invite platform user draw email db) := by
  refine require_follows (congrArg (!·) (Db.emailTaken_restrict address)) fun _ => ?_
  refine Follows.read rfl fun expiresAt _ => ?_
  refine (Db.upsertInvitation_mirrors tenanted rfl caller.home id token).bind fun next stored => ?_
  have confined := Db.upsertInvitation_confined tenanted caller.home stored
  have sound := confined.sound tenanted
  refine Follows.read (congrArg (orNotFound · "Not found") ?_) fun _ _ => answer_follows rfl
  refine Table.find?_restrict fun row found => ?_
  have own := List.find?_some found
  simp only [Bool.and_eq_true, beq_iff_eq] at own
  exact Db.invitation_belongs sound (List.mem_of_find?_eq_some found) own.1

theorem revoke_mirrors (tenanted : db.Tenanted) :
    Db.Mirrors user.schoolId (revoke user id (db.restrict user.schoolId)) (revoke user id db) := by
  unfold revoke
  rw [Db.deleteInvitations_part tenanted]
  generalize db.deleteInvitations id user.schoolId = removed
  obtain ⟨count, after⟩ := removed
  dsimp only
  split
  · exact Follows.error _
  · exact Follows.ok after

/-- The school of the invitation a link belongs to. -/
def linkSchool (token : String) (db : Db) : Option Id :=
  (db.invitations.rows.find? fun row => row.token == token).map Invitation.schoolId

theorem findUsable_restrict {now : Js.Instant} {token : String} {schoolId : Id}
    (tenanted : db.Tenanted) (link : linkSchool token db = some schoolId) :
    findUsable now token (db.restrict schoolId) = findUsable now token db := by
  have same : (db.restrict schoolId).invitations.rows.find? (fun row => row.token == token) =
      db.invitations.rows.find? fun row => row.token == token := by
    refine Table.find?_restrict fun row found => ?_
    rw [linkSchool, Option.mem_def.mp found, Option.map_some, Option.some.injEq] at link
    exact Db.invitation_belongs tenanted (List.mem_of_find?_eq_some found) link
  simp only [findUsable, same]

/-- A usable invitation is the one its link belongs to. -/
theorem findUsable_school {now : Js.Instant} {token : String} {schoolId : Id}
    {invitation : Invitation} (link : linkSchool token db = some schoolId)
    (usable : findUsable now token db = .ok invitation) :
    invitation.schoolId = schoolId ∧ invitation ∈ db.invitations.rows := by
  simp only [findUsable, orNotFound_ok, Option.filter_eq_some_iff] at usable
  rw [linkSchool, usable.1, Option.map_some, Option.some.injEq] at link
  exact ⟨link, List.mem_of_find?_eq_some usable.1⟩

theorem describe_restrict {token : String} {schoolId : Id} (tenanted : db.Tenanted)
    (link : linkSchool token db = some schoolId) :
    describe draw token (db.restrict schoolId) = describe draw token db := by
  refine (Follows.read (findUsable_restrict tenanted link) fun invitation usable => ?_).eq
  obtain ⟨rfl, member⟩ := findUsable_school link usable
  have belongs := Db.Tenanted.belongs_own tenanted (.invitation invitation) member
    List.mem_cons_self
  rw [Db.find_school_restrict tenanted,
    Db.find_user_restrict tenanted (Db.belongs_invitation.mp belongs).2]
  exact Follows.of_eq rfl

theorem tutorJoined_part {newcomer : User} (tenanted : db.Tenanted) :
    (NotificationsService.tutorJoined draw newcomer db).restrict newcomer.schoolId =
      NotificationsService.tutorJoined draw newcomer (db.restrict newcomer.schoolId) := by
  have told : (db.restrict newcomer.schoolId).users.select
      (fun row => row.schoolId == newcomer.schoolId && row.id != newcomer.id) =
      db.users.select _ := Db.users_restrict tenanted fun row selected => by
    simp only [Bool.and_eq_true, beq_iff_eq] at selected
    exact selected.1
  simp only [NotificationsService.tutorJoined, told]
  refine Db.createNotifications_part fun row member => ?_
  obtain ⟨recipient, listed, rfl⟩ := List.mem_map.mp member
  obtain ⟨present, selected⟩ := Table.mem_select.mp listed
  simp only [Bool.and_eq_true, beq_iff_eq] at selected
  exact selected.1 ▸ Db.home_of_find Slot.users (.user recipient.id) rfl (Table.find_key present)

/-- Everybody who joins a school joins the part of it. -/
theorem accept_answers {token name : String} {schoolId : Id} (tenanted : db.Tenanted)
    (link : linkSchool token db = some schoolId) (id : db.Unclaimed schoolId (.id draw.id))
    (email : ∀ invitation, findUsable draw.now token db = .ok invitation →
      db.Unclaimed schoolId (.email invitation.email)) :
    Db.Answers schoolId (accept draw token name (db.restrict schoolId))
      (accept draw token name db) := by
  refine Follows.read (findUsable_restrict tenanted link) fun invitation usable => ?_
  obtain ⟨own, -⟩ := findUsable_school link usable
  have claimed : Db.Confined schoolId db (db.claimInvitation invitation.id draw.now).2 :=
    own ▸ Db.claimInvitation_confined tenanted (findUsable_found usable)
  rw [Db.claimInvitation_part tenanted (findUsable_found usable) own]
  refine require_follows rfl fun _ => ?_
  refine (Db.createUser_mirrors (claimed.sound tenanted) own (id.confined claimed)
    ((email invitation usable).confined claimed)).bind fun stored joined => ?_
  have sound := (Db.createUser_confined (claimed.sound tenanted) joined).sound
    (claimed.sound tenanted)
  have told : (NotificationsService.tutorJoined draw (newcomer draw name invitation)
      stored).restrict schoolId = NotificationsService.tutorJoined draw
        (newcomer draw name invitation) (stored.restrict schoolId) :=
    own ▸ tutorJoined_part sound
  rw [← told]
  exact answer_follows rfl

end InvitationsService

end

end TutorApp
