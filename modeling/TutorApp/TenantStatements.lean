import TutorApp.Tenancy

set_option autoImplicit false

namespace TutorApp

open Relational
open TenantOwnership

namespace Db

variable {db next : Db} {schoolId : Id}

/-- A row found by its id is where a reference to it leads. -/
theorem home_of_find {ρ : Type} [Keyed ρ Id] (slot : Slot ρ) (ref : Ref) {row : ρ} {id : Id}
    (asked : slot.refKey ref = some id) (found : (slot.get db).find id = some row) :
    db.home ref = some (slot.column row) := by
  rw [slot.home_get db ref id asked, found, Option.map_some]

/-- The rows an update by id hits belong where a reference by that id leads. -/
theorem owned_of_home {ρ : Type} [Keyed ρ Id] (slot : Slot ρ) {row : ρ} {ref : Ref} {id : Id}
    (tenanted : db.Tenanted) (asked : slot.refKey ref = some id)
    (home : db.home ref = some schoolId)
    (self : Ref.school (slot.column row) ∈ (slot.row row).refs)
    (member : row ∈ (slot.get db).rows) (selected : decide (key row = id) = true) :
    db.Belongs schoolId (slot.row row) := by
  have found : (slot.get db).find id = some row :=
    Table.find_eq_some.mpr ⟨member, of_decide_eq_true selected⟩
  rw [home_of_find _ _ asked found, Option.some.injEq] at home
  exact home ▸ Tenanted.belongs_own tenanted _ ((slot.holds_get db row).mpr member) self

theorem createSchool_confined {row : School} (tenanted : db.Tenanted)
    (done : db.createSchool row = .ok next) : Confined row.id db next := by
  obtain ⟨-, schools, inserted, rfl⟩ := createSchool_ok.mp done
  refine Slot.schools.insert_confined tenanted inserted (belongs_school.mpr ?_)
  show (schools.find (key row)).map School.id = some row.id
  rw [Table.find_of_insert inserted, if_pos rfl]
  rfl

theorem updateSchool_confined {id : Id} {name timezone : Option String} (tenanted : db.Tenanted)
    (done : db.updateSchool id name timezone = .ok next) : Confined id db next := by
  obtain ⟨_, updated, rfl⟩ := updateSchool_ok.mp done
  obtain ⟨-, rfl⟩ := updateRow_ok.mp updated
  refine Slot.schools.update_confined (fun _ => rfl) fun row member selected => ?_
  have same : row.id = id := of_decide_eq_true selected
  have belongs := Tenanted.belongs_own tenanted (.school row) member List.mem_cons_self
  rw [same] at belongs
  exact ⟨belongs, belongs⟩

theorem createUser_confined {row : User} (tenanted : db.Tenanted)
    (done : db.createUser row = .ok next) : Confined row.schoolId db next := by
  obtain ⟨school, -, users, inserted, rfl⟩ := createUser_ok.mp done
  exact Slot.users.extend_confined tenanted inserted
    (belongs_user.mpr (home_school.mpr ⟨rfl, school⟩))

theorem updateUserConfig_confined {id : Id} {config : Js.Json} (tenanted : db.Tenanted)
    (home : db.home (.user id) = some schoolId)
    (done : db.updateUserConfig id config = .ok next) : Confined schoolId db next := by
  obtain ⟨_, updated, rfl⟩ := updateUserConfig_ok.mp done
  obtain ⟨-, rfl⟩ := updateRow_ok.mp updated
  refine Slot.users.update_confined (fun _ => rfl) fun row member selected => ?_
  have belongs := owned_of_home Slot.users tenanted rfl home List.mem_cons_self member
    selected
  exact ⟨belongs, belongs⟩

theorem createSubject_confined {row : Subject} (tenanted : db.Tenanted)
    (done : db.createSubject row = .ok next) : Confined row.schoolId db next := by
  obtain ⟨school, -, subjects, inserted, rfl⟩ := createSubject_ok.mp done
  exact Slot.subjects.extend_confined tenanted inserted
    (belongs_subject.mpr (home_school.mpr ⟨rfl, school⟩))

theorem renameSubject_confined {id : Id} {name : String} (tenanted : db.Tenanted)
    (home : db.home (.subject id) = some schoolId)
    (done : db.renameSubject id name = .ok next) : Confined schoolId db next := by
  obtain ⟨-, _, updated, rfl⟩ := renameSubject_ok.mp done
  obtain ⟨-, rfl⟩ := updateRow_ok.mp updated
  refine Slot.subjects.update_confined (fun _ => rfl) fun row member selected => ?_
  have belongs := owned_of_home Slot.subjects tenanted rfl home List.mem_cons_self member
    selected
  exact ⟨belongs, belongs⟩

theorem hideSubject_confined {id : Id} {hiddenAt : Option Js.Instant} (tenanted : db.Tenanted)
    (home : db.home (.subject id) = some schoolId)
    (done : db.hideSubject id hiddenAt = .ok next) : Confined schoolId db next := by
  obtain ⟨_, updated, rfl⟩ := hideSubject_ok.mp done
  obtain ⟨-, rfl⟩ := updateRow_ok.mp updated
  refine Slot.subjects.update_confined (fun _ => rfl) fun row member selected => ?_
  have belongs := owned_of_home Slot.subjects tenanted rfl home List.mem_cons_self member
    selected
  exact ⟨belongs, belongs⟩

theorem createStudent_confined {row : Student} (tenanted : db.Tenanted)
    (belongs : db.Belongs schoolId (.student row))
    (done : db.createStudent row = .ok next) : Confined schoolId db next := by
  obtain ⟨-, -, students, inserted, rfl⟩ := createStudent_ok.mp done
  exact Slot.students.extend_confined tenanted inserted belongs

theorem updateStudent_confined {id : Id} {patch : StudentPatch} (tenanted : db.Tenanted)
    (home : db.home (.student id) = some schoolId)
    (subjects : ∀ subject ∈ patch.subjectId, ∀ id ∈ subject, db.home (.subject id) = some schoolId)
    (done : db.updateStudent id patch = .ok next) : Confined schoolId db next := by
  obtain ⟨-, -, _, updated, rfl⟩ := updateStudent_ok.mp done
  obtain ⟨-, rfl⟩ := updateRow_ok.mp updated
  refine Slot.students.update_confined (fun _ => rfl) fun row member selected => ?_
  have belongs := owned_of_home Slot.students tenanted rfl home List.mem_cons_self member
    selected
  refine ⟨belongs, belongs_student.mpr ?_⟩
  obtain ⟨school, tutor, subject⟩ := belongs_student.mp belongs
  refine ⟨school, tutor, fun subjectId sets => ?_⟩
  cases changed : patch.subjectId with
  | none => exact subject subjectId (by simpa [StudentPatch.apply, changed] using sets)
  | some given =>
      exact subjects given changed subjectId (by simpa [StudentPatch.apply, changed] using sets)

theorem addLessons_confined {id : Id} {amount : Int} (tenanted : db.Tenanted)
    (home : db.home (.student id) = some schoolId)
    (done : db.addLessons id amount = .ok next) : Confined schoolId db next := by
  obtain ⟨-, -, rfl⟩ := addLessons_ok.mp done
  refine Slot.students.update_confined (fun _ => rfl) fun row member selected => ?_
  have belongs := owned_of_home Slot.students tenanted rfl home List.mem_cons_self member
    selected
  exact ⟨belongs, belongs_student.mpr (belongs_student.mp belongs)⟩

theorem addLessons_home {id : Id} {amount : Int} (done : db.addLessons id amount = .ok next)
    (ref : Ref) : next.home ref = db.home ref := by
  obtain ⟨-, -, rfl⟩ := addLessons_ok.mp done
  apply Slot.students.home_update
  exact fun _ => rfl

theorem createGroup_confined {row : Group} (tenanted : db.Tenanted)
    (belongs : db.Belongs schoolId (.group row))
    (done : db.createGroup row = .ok next) : Confined schoolId db next := by
  obtain ⟨-, groups, inserted, rfl⟩ := createGroup_ok.mp done
  exact Slot.groups.extend_confined tenanted inserted belongs

theorem updateGroup_confined {id : Id} {patch : GroupPatch} (tenanted : db.Tenanted)
    (home : db.home (.group id) = some schoolId)
    (subjects : ∀ subject ∈ patch.subjectId, ∀ id ∈ subject, db.home (.subject id) = some schoolId)
    (done : db.updateGroup id patch = .ok next) : Confined schoolId db next := by
  obtain ⟨-, _, updated, rfl⟩ := updateGroup_ok.mp done
  obtain ⟨-, rfl⟩ := updateRow_ok.mp updated
  refine Slot.groups.update_confined (fun _ => rfl) fun row member selected => ?_
  have belongs := owned_of_home Slot.groups tenanted rfl home List.mem_cons_self member
    selected
  refine ⟨belongs, belongs_group.mpr ?_⟩
  obtain ⟨school, tutor, subject⟩ := belongs_group.mp belongs
  refine ⟨school, tutor, fun subjectId sets => ?_⟩
  cases changed : patch.subjectId with
  | none => exact subject subjectId (by simpa [GroupPatch.apply, changed] using sets)
  | some given =>
      exact subjects given changed subjectId (by simpa [GroupPatch.apply, changed] using sets)

theorem upsertMember_confined {row : GroupMember} (tenanted : db.Tenanted)
    (belongs : db.Belongs schoolId (.member row))
    (done : db.upsertMember row = .ok next) : Confined schoolId db next := by
  obtain ⟨-, ⟨members, inserted, rfl⟩ | ⟨-, rfl⟩⟩ := upsertMember_ok.mp done
  · exact Slot.members.extend_confined tenanted inserted belongs
  · exact Ownership.Confined.refl _ _

theorem deleteMember_confined {groupId studentId : Id} (tenanted : db.Tenanted)
    (home : db.home (.group groupId) = some schoolId) :
    Confined schoolId db (db.deleteMember groupId studentId) := by
  refine Slot.members.drop_confined (fun _ => rfl) fun row member selected => ?_
  simp only [Bool.and_eq_true, beq_iff_eq] at selected
  exact Tenanted.belongs_via tenanted (.member row) member List.mem_cons_self
    (selected.1 ▸ home)

theorem createLesson_confined {row : Lesson} (tenanted : db.Tenanted)
    (belongs : db.Belongs schoolId (.lesson row))
    (done : db.createLesson row = .ok next) : Confined schoolId db next := by
  obtain ⟨-, lessons, inserted, rfl⟩ := createLesson_ok.mp done
  exact Slot.lessons.extend_confined tenanted inserted belongs

theorem updateLesson_confined {id : Id} {patch : LessonPatch} (tenanted : db.Tenanted)
    (home : db.home (.lesson id) = some schoolId)
    (done : db.updateLesson id patch = .ok next) : Confined schoolId db next := by
  obtain ⟨_, updated, rfl⟩ := updateLesson_ok.mp done
  obtain ⟨-, rfl⟩ := updateRow_ok.mp updated
  refine Slot.lessons.update_confined (fun _ => rfl) fun row member selected => ?_
  have belongs := owned_of_home Slot.lessons tenanted rfl home List.mem_cons_self member
    selected
  exact ⟨belongs, belongs_lesson.mpr (belongs_lesson.mp belongs)⟩

theorem upsertAttendance_confined {lessonId studentId : Id} {status : AttendanceStatus}
    {homeworkDone : Option (Option Bool)} (tenanted : db.Tenanted)
    (lesson : db.home (.lesson lessonId) = some schoolId)
    (student : db.home (.student studentId) = some schoolId)
    (done : db.upsertAttendance lessonId studentId status homeworkDone = .ok next) :
    Confined schoolId db next := by
  obtain ⟨-, rfl⟩ := upsertAttendance_ok.mp done
  unfold putAttendance Table.upsert
  split
  · rename_i attendances inserted
    exact Slot.attendances.extend_confined tenanted inserted
      (belongs_attendance.mpr ⟨lesson, student⟩)
  · refine Slot.attendances.update_confined (fun _ => rfl) fun row member selected => ?_
    have same : (row.lessonId, row.studentId) = (lessonId, studentId) := of_decide_eq_true selected
    rw [Prod.mk.injEq] at same
    have belongs : db.Belongs schoolId (.attendance row) :=
      belongs_attendance.mpr ⟨same.1 ▸ lesson, same.2 ▸ student⟩
    exact ⟨belongs, belongs_attendance.mpr (belongs_attendance.mp belongs)⟩

theorem upsertAttendance_home {lessonId studentId : Id} {status : AttendanceStatus}
    {homeworkDone : Option (Option Bool)}
    (done : db.upsertAttendance lessonId studentId status homeworkDone = .ok next)
    (ref : Ref) : next.home ref = db.home ref := by
  obtain ⟨-, rfl⟩ := upsertAttendance_ok.mp done
  exact Slot.attendances.home_other db _ ref rfl

theorem createNote_confined {row : Note} (tenanted : db.Tenanted)
    (belongs : db.Belongs schoolId (.note row))
    (done : db.createNote row = .ok next) : Confined schoolId db next := by
  obtain ⟨-, notes, inserted, rfl⟩ := createNote_ok.mp done
  exact Slot.notes.extend_confined tenanted inserted belongs

theorem deleteNote_confined {id : Id}
    (owned : ∀ row ∈ db.notes.find id, db.Belongs schoolId (.note row))
    (done : db.deleteNote id = .ok next) : Confined schoolId db next := by
  obtain ⟨_, deleted, rfl⟩ := deleteNote_ok.mp done
  obtain ⟨-, rfl⟩ := deleteRow_ok.mp deleted
  refine Slot.notes.drop_confined (fun _ => rfl) fun row member selected => ?_
  exact owned row (Table.find_eq_some.mpr ⟨member, of_decide_eq_true selected⟩)

theorem createGrade_confined {row : Grade} (tenanted : db.Tenanted)
    (belongs : db.Belongs schoolId (.grade row))
    (done : db.createGrade row = .ok next) : Confined schoolId db next := by
  obtain ⟨-, grades, inserted, rfl⟩ := createGrade_ok.mp done
  exact Slot.grades.extend_confined tenanted inserted belongs

theorem updateGrade_confined {id : Id} {data : GradeData}
    (owned : ∀ row ∈ db.grades.find id, db.Belongs schoolId (.grade row))
    (done : db.updateGrade id data = .ok next) : Confined schoolId db next := by
  obtain ⟨_, updated, rfl⟩ := updateGrade_ok.mp done
  obtain ⟨-, rfl⟩ := updateRow_ok.mp updated
  refine Slot.grades.update_confined (fun _ => rfl) fun row member selected => ?_
  have belongs := owned row (Table.find_eq_some.mpr ⟨member, of_decide_eq_true selected⟩)
  exact ⟨belongs, belongs_grade.mpr (belongs_grade.mp belongs)⟩

theorem deleteGrade_confined {id : Id}
    (owned : ∀ row ∈ db.grades.find id, db.Belongs schoolId (.grade row))
    (done : db.deleteGrade id = .ok next) : Confined schoolId db next := by
  obtain ⟨_, deleted, rfl⟩ := deleteGrade_ok.mp done
  obtain ⟨-, rfl⟩ := deleteRow_ok.mp deleted
  refine Slot.grades.drop_confined (fun _ => rfl) fun row member selected => ?_
  exact owned row (Table.find_eq_some.mpr ⟨member, of_decide_eq_true selected⟩)

theorem createFile_confined {row : File} (tenanted : db.Tenanted)
    (belongs : db.Belongs schoolId (.file row))
    (done : db.createFile row = .ok next) : Confined schoolId db next := by
  obtain ⟨-, -, -, files, inserted, rfl⟩ := createFile_ok.mp done
  exact Slot.files.extend_confined tenanted inserted belongs

theorem finaliseFile_confined {id : Id} {storageKey : String} {uploadedAt : Js.Instant}
    (owned : ∀ row ∈ db.files.find id, db.Belongs schoolId (.file row))
    (done : db.finaliseFile id storageKey uploadedAt = .ok next) : Confined schoolId db next := by
  obtain ⟨-, _, updated, rfl⟩ := finaliseFile_ok.mp done
  obtain ⟨-, rfl⟩ := updateRow_ok.mp updated
  refine Slot.files.update_confined (fun _ => rfl) fun row member selected => ?_
  have belongs := owned row (Table.find_eq_some.mpr ⟨member, of_decide_eq_true selected⟩)
  exact ⟨belongs, belongs_file.mpr (belongs_file.mp belongs)⟩

theorem deleteFile_confined {id : Id}
    (owned : ∀ row ∈ db.files.find id, db.Belongs schoolId (.file row))
    (done : db.deleteFile id = .ok next) : Confined schoolId db next := by
  obtain ⟨_, deleted, rfl⟩ := deleteFile_ok.mp done
  obtain ⟨-, rfl⟩ := deleteRow_ok.mp deleted
  refine Slot.files.drop_confined (fun _ => rfl) fun row member selected => ?_
  exact owned row (Table.find_eq_some.mpr ⟨member, of_decide_eq_true selected⟩)

theorem upsertInvitation_confined {row : Invitation} (tenanted : db.Tenanted)
    (inviter : db.home (.user row.invitedById) = some row.schoolId)
    (done : db.upsertInvitation row = .ok next) : Confined row.schoolId db next := by
  obtain ⟨refers, -, stored⟩ := upsertInvitation_ok.mp done
  obtain ⟨school, -⟩ := Bool.and_eq_true_iff.mp refers
  have home : db.home (.school row.schoolId) = some row.schoolId := home_school.mpr ⟨rfl, school⟩
  split at stored
  · cases stored
    refine Slot.invitations.update_confined (fun _ => rfl) fun old member selected => ?_
    simp only [Bool.and_eq_true, beq_iff_eq] at selected
    have belongs := Tenanted.belongs_own tenanted (.invitation old) member List.mem_cons_self
    rw [selected.1] at belongs
    exact ⟨belongs, belongs_invitation.mpr ⟨selected.1 ▸ home, inviter⟩⟩
  · obtain ⟨invitations, inserted, rfl⟩ := stored
    exact Slot.invitations.extend_confined tenanted inserted
      (belongs_invitation.mpr ⟨home, inviter⟩)

theorem claimInvitation_confined {id : Id} {now : Js.Instant} (tenanted : db.Tenanted)
    {row : Invitation} (found : db.invitations.find id = some row) :
    Confined row.schoolId db (db.claimInvitation id now).2 := by
  refine Slot.invitations.update_confined (fun _ => rfl) fun old member selected => ?_
  simp only [Bool.and_eq_true, beq_iff_eq] at selected
  obtain ⟨present, same⟩ := Table.find_eq_some.mp found
  obtain rfl := Table.key_injective member present (selected.1.trans same.symm)
  have belongs := Tenanted.belongs_own tenanted (.invitation old) member List.mem_cons_self
  exact ⟨belongs, belongs_invitation.mpr (belongs_invitation.mp belongs)⟩

theorem deleteInvitations_confined {id : Id} (tenanted : db.Tenanted) :
    Confined schoolId db (db.deleteInvitations id schoolId).2 := by
  refine Slot.invitations.drop_confined (fun _ => rfl) fun row member selected => ?_
  simp only [Bool.and_eq_true, beq_iff_eq] at selected
  have belongs := Tenanted.belongs_own tenanted (.invitation row) member List.mem_cons_self
  exact selected.2 ▸ belongs

theorem deleteAddons_confined {userId : Id} {kept : List AddonKey} (tenanted : db.Tenanted)
    (home : db.home (.user userId) = some schoolId) :
    Confined schoolId db (db.deleteAddons userId kept) := by
  refine Slot.addons.drop_confined (fun _ => rfl) fun row member selected => ?_
  simp only [Bool.and_eq_true, beq_iff_eq] at selected
  exact Tenanted.belongs_via tenanted (.addon row) member List.mem_cons_self (selected.1 ▸ home)

theorem createAddon_confined {row : UserAddon} (tenanted : db.Tenanted)
    (belongs : db.Belongs schoolId (.addon row)) :
    Confined schoolId db (db.createAddon row) := by
  unfold createAddon
  split
  · rename_i addons inserted
    exact Slot.addons.extend_confined tenanted inserted belongs
  · exact Ownership.Confined.refl _ _

theorem createAddons_confined {userId enabledById : Id} {addons : List AddonKey}
    (tenanted : db.Tenanted) (user : db.home (.user userId) = some schoolId)
    (granter : db.home (.user enabledById) = some schoolId)
    (done : db.createAddons userId enabledById addons = .ok next) :
    Confined schoolId db next := by
  obtain ⟨-, rfl⟩ := createAddons_ok.mp done
  clear done
  induction addons generalizing db with
  | nil => exact Ownership.Confined.refl _ _
  | cons addon rest ih =>
      have homes : ∀ id, (db.createAddon ⟨userId, addon, some enabledById⟩).home (.user id) =
          db.home (.user id) := by
        intro id
        unfold createAddon
        split <;> rfl
      have first : Confined schoolId db (db.createAddon ⟨userId, addon, some enabledById⟩) :=
        createAddon_confined tenanted (belongs_addon.mpr ⟨user, by rintro _ ⟨⟩; exact granter⟩)
      exact first.trans (ih (first.sound tenanted) ((homes userId).trans user)
        ((homes enabledById).trans granter))

theorem upsertMeetingAccount_confined {row : MeetingAccount} (tenanted : db.Tenanted)
    (home : db.home (.user row.userId) = some schoolId)
    (done : db.upsertMeetingAccount row = .ok next) : Confined schoolId db next := by
  obtain ⟨-, stored⟩ := upsertMeetingAccount_ok.mp done
  split at stored
  · cases stored
    refine Slot.meetingAccounts.update_confined (fun _ => rfl) fun old member selected => ?_
    simp only [Bool.and_eq_true, beq_iff_eq] at selected
    have belongs : db.Belongs schoolId (.meetingAccount old) :=
      belongs_meetingAccount.mpr (selected.1 ▸ home)
    exact ⟨belongs, belongs_meetingAccount.mpr (belongs_meetingAccount.mp belongs)⟩
  · obtain ⟨meetingAccounts, inserted, rfl⟩ := stored
    exact Slot.meetingAccounts.extend_confined tenanted inserted (belongs_meetingAccount.mpr home)

theorem updateMeetingAccount_confined {id : Id} {refreshToken accessToken : String}
    {expiresAt : Js.Instant}
    (owned : ∀ row ∈ db.meetingAccounts.find id, db.Belongs schoolId (.meetingAccount row))
    (done : db.updateMeetingAccount id refreshToken accessToken expiresAt = .ok next) :
    Confined schoolId db next := by
  obtain ⟨_, updated, rfl⟩ := updateMeetingAccount_ok.mp done
  obtain ⟨-, rfl⟩ := updateRow_ok.mp updated
  refine Slot.meetingAccounts.update_confined (fun _ => rfl) fun row member selected => ?_
  have belongs := owned row (Table.find_eq_some.mpr ⟨member, of_decide_eq_true selected⟩)
  exact ⟨belongs, belongs_meetingAccount.mpr (belongs_meetingAccount.mp belongs)⟩

theorem forgetMeetingAccount_confined {id : Id}
    (owned : ∀ row ∈ db.meetingAccounts.find id, db.Belongs schoolId (.meetingAccount row)) :
    Confined schoolId db (db.forgetMeetingAccount id) := by
  refine Slot.meetingAccounts.drop_confined (fun _ => rfl) fun row member selected => ?_
  exact owned row (Table.find_eq_some.mpr ⟨member, beq_iff_eq.mp selected⟩)

theorem deleteMeetingAccounts_confined {userId : Id} {provider : MeetingProvider}
    (home : db.home (.user userId) = some schoolId) :
    Confined schoolId db (db.deleteMeetingAccounts userId provider).2 := by
  refine Slot.meetingAccounts.drop_confined (fun _ => rfl) fun row member selected => ?_
  simp only [Bool.and_eq_true, beq_iff_eq] at selected
  exact belongs_meetingAccount.mpr (selected.1 ▸ home)

theorem createNotifications_confined {rows : List Notification} (tenanted : db.Tenanted)
    (owned : ∀ row ∈ rows, db.home (.user row.recipientId) = some schoolId) :
    Confined schoolId db (db.createNotifications rows) := by
  have homes : ∀ ref, (db.createNotifications rows).home ref = db.home ref := by
    rintro (_ | _ | _ | _ | _ | _ | _) <;> rfl
  have earlier : db.listing = db.listing ++ [] := (List.append_nil _).symm
  refine Ownership.Confined.insert (rows.map .notification) tenanted
    (fun ref _ leads => (homes ref).trans leads) earlier ?_ ?_
  · show (db.createNotifications rows).listing = _
    simp [listing, tables, createNotifications]
  · intro row added
    obtain ⟨notification, listed, rfl⟩ := List.mem_map.mp added
    exact belongs_notification.mpr ((homes _).trans (owned notification listed))

theorem lessonGone_home {gone : Lesson → Bool} {id : Id}
    (owned : ∀ row ∈ db.lessons.rows, gone row = true → db.Belongs schoolId (.lesson row))
    (selected : db.lessonGone gone id = true) : db.home (.lesson id) = some schoolId := by
  obtain ⟨row, found, removed⟩ := (Option.any_eq_true _ _).mp selected
  have member := (Table.find_eq_some.mp found).1
  have home := home_of_find Slot.lessons (.lesson id) rfl found
  have belongs := belongs_lesson.mp (owned row member removed)
  exact home.trans (congrArg some (home_school.mp belongs.1).1)

/-- Nothing that survives a delete of lessons refers to one of them. -/
theorem dropLessons_unreferred {gone : Lesson → Bool} {other : Row} {id : Id}
    (present : (db.dropLessons gone).Holds other) (member : .lesson id ∈ other.refs) :
    db.lessonGone gone id = false := by
  have survives : ∀ lessonId : Option Id, lessonId.any (db.lessonGone gone) = false →
      id ∈ lessonId → db.lessonGone gone id = false := by
    rintro _ kept ⟨⟩
    exact kept
  cases other
  case attendance row =>
    simp only [Row.refs, List.mem_cons, Ref.lesson.injEq, reduceCtorEq, List.not_mem_nil,
      or_false] at member
    exact member ▸ (Table.mem_delete.mp present).2
  case note row =>
    exact survives row.lessonId (Table.mem_delete.mp present).2 (note_lesson_ref.mp member)
  case file row =>
    exact survives row.lessonId (Table.mem_delete.mp present).2 (by simpa [Row.refs] using member)
  case grade row =>
    have names : id ∈ row.lessonId := by simpa [Row.refs] using member
    obtain ⟨old, -, became⟩ := List.mem_map.mp present
    split at became
    · subst became
      cases names
    · rename_i kept
      subst became
      exact survives old.lessonId (Bool.eq_false_of_not_eq_true kept) names
  all_goals simp [Row.refs] at member

/-- Lessons of one school go with rows of that school only. -/
theorem dropLessons_confined {gone : Lesson → Bool} (tenanted : db.Tenanted)
    (owned : ∀ row ∈ db.lessons.rows, gone row = true → db.Belongs schoolId (.lesson row)) :
    Confined schoolId db (db.dropLessons gone) := by
  let registers := Slot.attendances.set db (db.attendances.delete fun row =>
    db.lessonGone gone row.lessonId)
  let unnoted := Slot.notes.set registers (db.notes.delete fun row =>
    row.lessonId.any (db.lessonGone gone))
  let unfiled := Slot.files.set unnoted (db.files.delete fun row =>
    row.lessonId.any (db.lessonGone gone))
  let unmarked := Slot.grades.set unfiled (db.grades.update
    (fun row => row.lessonId.any (db.lessonGone gone)) (fun row => { row with lessonId := none })
    (fun _ => rfl))
  have attendances : Confined schoolId db registers := by
    refine Slot.attendances.drop_confined (fun _ => rfl) fun row member selected => ?_
    show db.Belongs schoolId (.attendance row)
    exact Tenanted.belongs_via tenanted _ member List.mem_cons_self
      (lessonGone_home owned selected)
  have notes : Confined schoolId registers unnoted := by
    refine Slot.notes.drop_confined (fun _ => rfl) fun row member selected => ?_
    obtain ⟨id, names, removed⟩ := (Option.any_eq_true _ _).mp selected
    show db.Belongs schoolId (.note row)
    exact Tenanted.belongs_via tenanted _ member (note_lesson_ref.mpr names)
      (lessonGone_home owned removed)
  have files : Confined schoolId unnoted unfiled := by
    refine Slot.files.drop_confined (fun _ => rfl) fun row member selected => ?_
    obtain ⟨id, names, removed⟩ := (Option.any_eq_true _ _).mp selected
    show db.Belongs schoolId (.file row)
    exact Tenanted.belongs_via tenanted _ member (by simp [Row.refs, names])
      (lessonGone_home owned removed)
  have grades : Confined schoolId unfiled unmarked := by
    refine Slot.grades.update_confined (fun _ => rfl) fun row member selected => ?_
    obtain ⟨id, names, removed⟩ := (Option.any_eq_true _ _).mp selected
    have belongs : db.Belongs schoolId (.grade row) :=
      Tenanted.belongs_via tenanted _ member (by simp [Row.refs, names])
        (lessonGone_home owned removed)
    refine ⟨belongs, belongs_grade.mpr ?_⟩
    obtain ⟨student, author, -⟩ := belongs_grade.mp belongs
    exact ⟨student, author, by rintro _ ⟨⟩⟩
  have lessons : Confined schoolId unmarked (db.dropLessons gone) := by
    refine Slot.lessons.delete_confined ?_ owned
    intro other present ref member id asked row found
    obtain rfl : ref = .lesson id := by
      cases ref <;> cases asked
      rfl
    have kept := dropLessons_unreferred (show (db.dropLessons gone).Holds other from present) member
    change db.lessons.find id = some row at found
    rwa [lessonGone, found, Option.any_some] at kept
  exact attendances.trans (notes.trans (files.trans (grades.trans lessons)))

/-- Nothing that survives the removal of a student refers to them, lessons apart. -/
theorem dropStudent_unreferred {other : Row} {id : Id}
    (untaught : ∀ row ∈ db.lessons.rows, row.studentId ≠ some id)
    (present : (db.dropStudent id).Holds other) : .student id ∉ other.refs := by
  intro member
  cases other
  case lesson row => exact untaught row present (by simpa [Row.refs] using member)
  case member row =>
    have kept := (Table.mem_delete.mp present).2
    simp_all [Row.refs]
  case attendance row =>
    have kept := (Table.mem_delete.mp present).2
    simp_all [Row.refs]
  case note row =>
    have kept := (Table.mem_delete.mp present).2
    simp_all [note_student_ref]
  case grade row =>
    have kept := (Table.mem_delete.mp present).2
    simp_all [Row.refs]
  case file row =>
    have kept := (Table.mem_delete.mp present).2
    simp_all [Row.refs]
  all_goals simp [Row.refs] at member

theorem dropStudent_confined {id : Id} (tenanted : db.Tenanted)
    (home : db.home (.student id) = some schoolId)
    (untaught : ∀ row ∈ db.lessons.rows, row.studentId ≠ some id) :
    Confined schoolId db (db.dropStudent id) := by
  let unlisted := Slot.members.set db (db.members.delete fun row => row.studentId == id)
  let registers := Slot.attendances.set unlisted
    (db.attendances.delete fun row => row.studentId == id)
  let unnoted := Slot.notes.set registers (db.notes.delete fun row => row.studentId == some id)
  let unmarked := Slot.grades.set unnoted (db.grades.delete fun row => row.studentId == id)
  let unfiled := Slot.files.set unmarked (db.files.delete fun row => row.studentId == some id)
  have members : Confined schoolId db unlisted := by
    refine Slot.members.drop_confined (fun _ => rfl) fun row member selected => ?_
    show db.Belongs schoolId (.member row)
    exact Tenanted.belongs_via tenanted _ member
      (List.mem_cons_of_mem _ List.mem_cons_self) (beq_iff_eq.mp selected ▸ home)
  have attendances : Confined schoolId unlisted registers := by
    refine Slot.attendances.drop_confined (fun _ => rfl) fun row member selected => ?_
    show db.Belongs schoolId (.attendance row)
    exact Tenanted.belongs_via tenanted _ member
      (List.mem_cons_of_mem _ List.mem_cons_self) (beq_iff_eq.mp selected ▸ home)
  have notes : Confined schoolId registers unnoted := by
    refine Slot.notes.drop_confined (fun _ => rfl) fun row member selected => ?_
    show db.Belongs schoolId (.note row)
    exact Tenanted.belongs_via tenanted _ member (note_student_ref.mpr (beq_iff_eq.mp selected)) home
  have grades : Confined schoolId unnoted unmarked := by
    refine Slot.grades.drop_confined (fun _ => rfl) fun row member selected => ?_
    show db.Belongs schoolId (.grade row)
    exact Tenanted.belongs_via tenanted _ member List.mem_cons_self
      (beq_iff_eq.mp selected ▸ home)
  have files : Confined schoolId unmarked unfiled := by
    refine Slot.files.drop_confined (fun _ => rfl) fun row member selected => ?_
    show db.Belongs schoolId (.file row)
    exact Tenanted.belongs_via tenanted _ member
      (by simp [Row.refs, beq_iff_eq.mp selected]) home
  have students : Confined schoolId unfiled (db.dropStudent id) := by
    refine Slot.students.delete_confined ?_ fun row member selected => ?_
    · intro other present ref member asked names row found
      obtain rfl : ref = .student asked := by
        cases ref <;> cases names
        rfl
      have unreferred := dropStudent_unreferred untaught
        (show (db.dropStudent id).Holds other from present)
      have same : row.id = asked := (Table.find_eq_some.mp found).2
      refine Bool.eq_false_of_not_eq_true fun selected => unreferred ?_
      rwa [← same, beq_iff_eq.mp selected] at member
    · show db.Belongs schoolId (.student row)
      exact owned_of_home Slot.students tenanted rfl home List.mem_cons_self member
        (decide_eq_true (beq_iff_eq.mp selected))
  exact members.trans (attendances.trans (notes.trans (grades.trans (files.trans students))))

theorem dropGroup_unreferred {other : Row} {id : Id}
    (untaught : ∀ row ∈ db.lessons.rows, row.groupId ≠ some id)
    (present : (db.dropGroup id).Holds other) : .group id ∉ other.refs := by
  intro member
  cases other
  case note row => exact note_group_ref member
  case lesson row => exact untaught row present (by simpa [Row.refs] using member)
  case member row =>
    have kept := (Table.mem_delete.mp present).2
    simp_all [Row.refs]
  all_goals simp [Row.refs] at member

theorem dropGroup_confined {id : Id} (tenanted : db.Tenanted)
    (home : db.home (.group id) = some schoolId)
    (untaught : ∀ row ∈ db.lessons.rows, row.groupId ≠ some id) :
    Confined schoolId db (db.dropGroup id) := by
  let unlisted := Slot.members.set db (db.members.delete fun row => row.groupId == id)
  have members : Confined schoolId db unlisted := by
    refine Slot.members.drop_confined (fun _ => rfl) fun row member selected => ?_
    show db.Belongs schoolId (.member row)
    exact Tenanted.belongs_via tenanted _ member List.mem_cons_self (beq_iff_eq.mp selected ▸ home)
  have groups : Confined schoolId unlisted (db.dropGroup id) := by
    refine Slot.groups.delete_confined ?_ fun row member selected => ?_
    · intro other present ref member asked names row found
      obtain rfl : ref = .group asked := by
        cases ref <;> cases names
        rfl
      have unreferred := dropGroup_unreferred untaught
        (show (db.dropGroup id).Holds other from present)
      have same : row.id = asked := (Table.find_eq_some.mp found).2
      refine Bool.eq_false_of_not_eq_true fun selected => unreferred ?_
      rwa [← same, beq_iff_eq.mp selected] at member
    · show db.Belongs schoolId (.group row)
      exact owned_of_home Slot.groups tenanted rfl home List.mem_cons_self member
        (decide_eq_true (beq_iff_eq.mp selected))
  exact members.trans groups

theorem deleteStudent_confined {id : Id} (tenanted : db.Tenanted)
    (home : db.home (.student id) = some schoolId) (done : db.deleteStudent id = .ok next) :
    Confined schoolId db next := by
  obtain ⟨-, rfl⟩ := deleteStudent_ok.mp done
  have lessons : Confined schoolId db (db.dropLessons fun row => row.studentId == some id) := by
    refine dropLessons_confined tenanted fun row member selected => ?_
    exact Tenanted.belongs_via tenanted _ member (by simp [Row.refs, beq_iff_eq.mp selected]) home
  refine lessons.trans (dropStudent_confined (lessons.sound tenanted) home fun row member => ?_)
  simpa using (Table.mem_delete.mp member).2

theorem deleteGroup_confined {id : Id} (tenanted : db.Tenanted)
    (home : db.home (.group id) = some schoolId) (done : db.deleteGroup id = .ok next) :
    Confined schoolId db next := by
  obtain ⟨-, rfl⟩ := deleteGroup_ok.mp done
  have lessons : Confined schoolId db (db.dropLessons fun row => row.groupId == some id) := by
    refine dropLessons_confined tenanted fun row member selected => ?_
    exact Tenanted.belongs_via tenanted _ member (by simp [Row.refs, beq_iff_eq.mp selected]) home
  refine lessons.trans (dropGroup_confined (lessons.sound tenanted) home fun row member => ?_)
  simpa using (Table.mem_delete.mp member).2

end Db

end TutorApp
