import TutorApp.Announcements
import TutorApp.Provenance
import TutorApp.Writes

set_option autoImplicit false

namespace TutorApp

open Relational

/-- The names and texts that have a minimum length. -/
inductive TextField where
  | schoolName
  | userName
  | subjectName
  | studentName
  | groupName
  | noteText
  | announcementText
  deriving Repr, DecidableEq

/-- The `MinLength` of the payloads that bring it. -/
def TextField.minimum : TextField → Nat
  | schoolName => 2
  | userName => 2
  | subjectName => 1
  | studentName => 1
  | groupName => 1
  | noteText => 1
  | announcementText => 4

/-- The text of an announcement; other notifications have none. -/
def Notification.announcement (row : Notification) : Option String :=
  if row.kind = .adminAnnouncement then row.text else none

namespace Db

/-- The texts in a column as persisted. -/
def texts (db : Db) : TextField → List String
  | .schoolName => db.schools.rows.map School.name
  | .userName => db.users.rows.map User.name
  | .subjectName => db.subjects.rows.map Subject.name
  | .studentName => db.students.rows.map Student.name
  | .groupName => db.groups.rows.map Group.name
  | .noteText => db.notes.rows.map Note.text
  | .announcementText => db.notifications.filterMap Notification.announcement

def Stores (db : Db) (field : TextField) (text : String) : Prop := text ∈ db.texts field

instance (db : Db) (field : TextField) (text : String) : Decidable (db.Stores field text) :=
  inferInstanceAs (Decidable (text ∈ db.texts field))

/-- Every text after was there before, or has been brought. -/
abbrev Traced (brings : TextField → String → Prop) (db next : Db) : Prop :=
  Provenance.Traced Stores brings db next

end Db

/-- What a payload stores is what it sends, trimmed. -/
def Brought (sent : List (TextField × String)) (field : TextField) (text : String) : Prop :=
  ∃ raw, (field, raw) ∈ sent ∧ text = Js.trim raw

/-- A name that an edit may leave out. -/
def edited (field : TextField) (name : Js.Field String) : List (TextField × String) :=
  name.toOption.toList.map fun name => (field, name)

def Command.sends : Command → List (TextField × String)
  | createSubject name => [(.subjectName, name)]
  | renameSubject _ name => [(.subjectName, name)]
  | createStudent dto => [(.studentName, dto.name)]
  | updateStudent _ dto => edited .studentName dto.name
  | createGroup dto => [(.groupName, dto.name)]
  | updateGroup _ dto => edited .groupName dto.name
  | addNoteForStudent _ text => [(.noteText, text)]
  | addNoteForLesson _ text => [(.noteText, text)]
  | updateSchool dto => edited .schoolName dto.name
  | createTutor dto => [(.userName, dto.name)]
  | _ => []

def PublicCall.sends : PublicCall → List (TextField × String)
  | registerSchool dto => [(.schoolName, dto.schoolName), (.userName, dto.adminName)]
  | acceptInvitation _ name => [(.userName, name)]
  | _ => []

def Request.sends : Request → List (TextField × String)
  | query _ _ => []
  | command _ asked => asked.sends
  | anonymous call => call.sends

section

variable {ρ κ : Type} [Keyed ρ κ] [DecidableEq κ] {table next : Table ρ} {column : ρ → String}
  {text : String} {brought : String → Prop}

theorem mem_column_insert {row : ρ} (inserted : table.insert? row = some next)
    (new : brought (column row)) (held : text ∈ next.rows.map column) :
    text ∈ table.rows.map column ∨ brought text := by
  obtain ⟨other, member, rfl⟩ := List.mem_map.mp held
  rcases (Table.mem_insert inserted).mp member with old | rfl
  · exact .inl (List.mem_map_of_mem old)
  · exact .inr new

theorem mem_column_update {k : κ} {change : ρ → ρ} {keeps : ∀ row, key (change row) = key row}
    (done : updateRow table k change keeps = .ok next)
    (new : ∀ old, column (change old) = column old ∨ brought (column (change old)))
    (held : text ∈ next.rows.map column) : text ∈ table.rows.map column ∨ brought text := by
  obtain ⟨row, member, rfl⟩ := List.mem_map.mp held
  rcases of_mem_updateRow done member with old | ⟨old, present, -, rfl⟩
  · exact .inl (List.mem_map_of_mem old)
  · rcases new old with same | given
    · rw [same]
      exact .inl (List.mem_map_of_mem present)
    · exact .inr given

omit [DecidableEq κ] in
theorem mem_column_delete {hit : ρ → Bool} (held : text ∈ (table.delete hit).rows.map column) :
    text ∈ table.rows.map column := by
  obtain ⟨row, member, rfl⟩ := List.mem_map.mp held
  exact List.mem_map_of_mem (Table.mem_delete.mp member).1

end

namespace Db

variable {brings : TextField → String → Prop} {db next : Db} {id : Id}

theorem traced_aside {members : Table GroupMember} {lessons : Table Lesson}
    {attendances : Table LessonAttendance} {grades : Table Grade} {files : Table File}
    {invitations : Table Invitation} {addons : Table UserAddon}
    {meetingAccounts : Table MeetingAccount} :
    db.Traced brings { db with
      members, lessons, attendances, grades, files, invitations, addons, meetingAccounts } := by
  intro field text held
  cases field <;> exact .inl held

theorem createSchool_traced {row : School} (named : brings .schoolName row.name)
    (done : db.createSchool row = .ok next) : db.Traced brings next := by
  obtain ⟨-, schools, inserted, rfl⟩ := createSchool_ok.mp done
  intro field text held
  cases field with
  | schoolName => exact mem_column_insert inserted named held
  | _ => exact .inl held

theorem updateSchool_traced {name timezone : Option String}
    (named : ∀ given ∈ name, brings .schoolName given)
    (done : db.updateSchool id name timezone = .ok next) : db.Traced brings next := by
  obtain ⟨schools, updated, rfl⟩ := updateSchool_ok.mp done
  intro field text held
  cases field with
  | schoolName =>
      refine mem_column_update updated (fun old => ?_) held
      cases name with
      | none => exact .inl rfl
      | some given => exact .inr (named given rfl)
  | _ => exact .inl held

theorem createUser_traced {row : User} (named : brings .userName row.name)
    (done : db.createUser row = .ok next) : db.Traced brings next := by
  obtain ⟨-, -, users, inserted, rfl⟩ := createUser_ok.mp done
  intro field text held
  cases field with
  | userName => exact mem_column_insert inserted named held
  | _ => exact .inl held

theorem updateUserConfig_traced {config : Js.Json}
    (done : db.updateUserConfig id config = .ok next) : db.Traced brings next := by
  obtain ⟨users, updated, rfl⟩ := updateUserConfig_ok.mp done
  intro field text held
  cases field with
  | userName => exact mem_column_update updated (fun _ => .inl rfl) held
  | _ => exact .inl held

theorem createSubject_traced {row : Subject} (named : brings .subjectName row.name)
    (done : db.createSubject row = .ok next) : db.Traced brings next := by
  obtain ⟨-, -, subjects, inserted, rfl⟩ := createSubject_ok.mp done
  intro field text held
  cases field with
  | subjectName => exact mem_column_insert inserted named held
  | _ => exact .inl held

theorem renameSubject_traced {name : String} (named : brings .subjectName name)
    (done : db.renameSubject id name = .ok next) : db.Traced brings next := by
  obtain ⟨-, subjects, updated, rfl⟩ := renameSubject_ok.mp done
  intro field text held
  cases field with
  | subjectName => exact mem_column_update updated (fun _ => .inr named) held
  | _ => exact .inl held

theorem hideSubject_traced {hiddenAt : Option Js.Instant}
    (done : db.hideSubject id hiddenAt = .ok next) : db.Traced brings next := by
  obtain ⟨subjects, updated, rfl⟩ := hideSubject_ok.mp done
  intro field text held
  cases field with
  | subjectName => exact mem_column_update updated (fun _ => .inl rfl) held
  | _ => exact .inl held

theorem createStudent_traced {row : Student} (named : brings .studentName row.name)
    (done : db.createStudent row = .ok next) : db.Traced brings next := by
  obtain ⟨-, -, students, inserted, rfl⟩ := createStudent_ok.mp done
  intro field text held
  cases field with
  | studentName => exact mem_column_insert inserted named held
  | _ => exact .inl held

theorem updateStudent_traced {patch : StudentPatch}
    (named : ∀ given ∈ patch.name, brings .studentName given)
    (done : db.updateStudent id patch = .ok next) : db.Traced brings next := by
  obtain ⟨-, -, students, updated, rfl⟩ := updateStudent_ok.mp done
  intro field text held
  cases field with
  | studentName =>
      refine mem_column_update updated (fun old => ?_) held
      rw [StudentPatch.apply]
      cases name : patch.name with
      | none => exact .inl rfl
      | some given => exact .inr (named given name)
  | _ => exact .inl held

theorem addLessons_traced {amount : Int} (done : db.addLessons id amount = .ok next) :
    db.Traced brings next := by
  obtain ⟨-, -, rfl⟩ := addLessons_ok.mp done
  intro field text held
  cases field with
  | studentName =>
      have credited : text ∈ (db.students.update (fun row => decide (key row = id))
          (fun row => { row with paidLessonsLeft := row.paidLessonsLeft + amount })
          (fun _ => rfl)).rows.map Student.name := held
      rw [Table.rows_update, List.map_map] at credited
      obtain ⟨row, member, rfl⟩ := List.mem_map.mp credited
      refine .inl (List.mem_map.mpr ⟨row, member, ?_⟩)
      rw [Function.comp_apply]
      split <;> rfl
  | _ => exact .inl held

theorem createGroup_traced {row : Group} (named : brings .groupName row.name)
    (done : db.createGroup row = .ok next) : db.Traced brings next := by
  obtain ⟨-, groups, inserted, rfl⟩ := createGroup_ok.mp done
  intro field text held
  cases field with
  | groupName => exact mem_column_insert inserted named held
  | _ => exact .inl held

theorem updateGroup_traced {patch : GroupPatch}
    (named : ∀ given ∈ patch.name, brings .groupName given)
    (done : db.updateGroup id patch = .ok next) : db.Traced brings next := by
  obtain ⟨-, groups, updated, rfl⟩ := updateGroup_ok.mp done
  intro field text held
  cases field with
  | groupName =>
      refine mem_column_update updated (fun old => ?_) held
      rw [GroupPatch.apply]
      cases name : patch.name with
      | none => exact .inl rfl
      | some given => exact .inr (named given name)
  | _ => exact .inl held

theorem createNote_traced {row : Note} (worded : brings .noteText row.text)
    (done : db.createNote row = .ok next) : db.Traced brings next := by
  obtain ⟨-, notes, inserted, rfl⟩ := createNote_ok.mp done
  intro field text held
  cases field with
  | noteText => exact mem_column_insert inserted worded held
  | _ => exact .inl held

theorem deleteNote_traced (done : db.deleteNote id = .ok next) : db.Traced brings next := by
  obtain ⟨_, deleted, rfl⟩ := deleteNote_ok.mp done
  obtain ⟨-, rfl⟩ := deleteRow_ok.mp deleted
  intro field text held
  cases field with
  | noteText => exact .inl (mem_column_delete held)
  | _ => exact .inl held

theorem deleteStudent_traced (done : db.deleteStudent id = .ok next) : db.Traced brings next := by
  obtain ⟨-, rfl⟩ := deleteStudent_ok.mp done
  intro field text held
  cases field with
  | studentName => exact .inl (mem_column_delete held)
  | noteText => exact .inl (mem_column_delete (mem_column_delete held))
  | _ => exact .inl held

theorem deleteGroup_traced (done : db.deleteGroup id = .ok next) : db.Traced brings next := by
  obtain ⟨-, rfl⟩ := deleteGroup_ok.mp done
  intro field text held
  cases field with
  | groupName => exact .inl (mem_column_delete held)
  | noteText => exact .inl (mem_column_delete held)
  | _ => exact .inl held

theorem upsertInvitation_traced {row : Invitation} (done : db.upsertInvitation row = .ok next) :
    db.Traced brings next := by
  obtain ⟨-, -, stored⟩ := upsertInvitation_ok.mp done
  split at stored
  · rw [← stored]
    exact traced_aside
  · obtain ⟨invitations, -, rfl⟩ := stored
    exact traced_aside

theorem createNotifications_traced {rows : List Notification}
    (worded : ∀ row ∈ rows, ∀ text ∈ row.announcement, brings .announcementText text) :
    db.Traced brings (db.createNotifications rows) := by
  intro field text held
  cases field with
  | announcementText =>
      obtain ⟨row, member, said⟩ := List.mem_filterMap.mp held
      rcases List.mem_append.mp member with old | new
      · exact .inl (List.mem_filterMap.mpr ⟨row, old, said⟩)
      · exact .inr (worded row new text said)
  | _ => exact .inl held

end Db

section

variable {platform : Platform} {user : User} {draw : Draw} {db next : Db} {id : Id}
  {sent : List (TextField × String)} {field : TextField} {text : String}

theorem brought_of_mem {raw : String} (member : (field, raw) ∈ sent) :
    Brought sent field (Js.trim raw) :=
  ⟨raw, member, rfl⟩

theorem brought_edited {name : Js.Field String} :
    ∀ given ∈ name.toOption.map Js.trim, Brought (edited field name) field given := by
  intro given trimmed
  obtain ⟨raw, told, rfl⟩ := Option.map_eq_some_iff.mp trimmed
  apply brought_of_mem
  rw [edited, told]
  exact List.mem_singleton.mpr rfl

namespace SubjectsService

theorem create_traced {name : String} {subject : Subject}
    (success : create platform user draw name db = .ok (subject, next)) :
    db.Traced (Brought [(.subjectName, name)]) next := by
  obtain ⟨-, created, -⟩ := create_ok.mp success
  refine Db.createSubject_traced ?_ created
  exact brought_of_mem List.mem_cons_self

theorem rename_traced {name : String} {subject : Subject}
    (success : rename platform user id name db = .ok (subject, next)) :
    db.Traced (Brought [(.subjectName, name)]) next := by
  obtain ⟨_, -, -, renamed, -⟩ := rename_ok.mp success
  exact Db.renameSubject_traced (brought_of_mem List.mem_cons_self) renamed

theorem hide_traced {subject : Subject}
    (success : hide platform user draw id db = .ok (subject, next)) :
    db.Traced (Brought sent) next := by
  obtain ⟨_, -, -, done⟩ := hide_ok.mp success
  split at done
  · exact done.2 ▸ .refl db
  · exact Db.hideSubject_traced done.1

theorem restore_traced {subject : Subject} (success : restore user id db = .ok (subject, next)) :
    db.Traced (Brought sent) next := by
  obtain ⟨_, -, restored, -⟩ := restore_ok.mp success
  exact Db.hideSubject_traced restored

end SubjectsService

namespace StudentsService

theorem create_traced {dto : CreateStudentDto} {view : StudentView}
    (success : create user draw dto db = .ok (view, next)) :
    db.Traced (Brought [(.studentName, dto.name)]) next := by
  obtain ⟨_, -, created, -⟩ := create_ok.mp success
  refine Db.createStudent_traced ?_ created
  exact brought_of_mem List.mem_cons_self

theorem update_traced {dto : UpdateStudentDto} {view : StudentView}
    (success : update user id dto db = .ok (view, next)) :
    db.Traced (Brought (edited .studentName dto.name)) next := by
  obtain ⟨_, -, _, -, _, -, updated, -⟩ := update_ok.mp success
  exact Db.updateStudent_traced brought_edited updated

theorem remove_traced (success : remove user id db = .ok next) : db.Traced (Brought sent) next := by
  obtain ⟨student, -, deleted⟩ := remove_ok.mp success
  exact Db.deleteStudent_traced deleted

end StudentsService

namespace GroupsService

theorem create_traced {dto : CreateGroupDto} {view : GroupView}
    (success : create platform user draw dto db = .ok (view, next)) :
    db.Traced (Brought [(.groupName, dto.name)]) next := by
  obtain ⟨_, -, created, -⟩ := create_ok.mp success
  refine Db.createGroup_traced ?_ created
  exact brought_of_mem List.mem_cons_self

theorem update_traced {dto : UpdateGroupDto} {view : GroupView}
    (success : update platform user id dto db = .ok (view, next)) :
    db.Traced (Brought (edited .groupName dto.name)) next := by
  obtain ⟨_, -, _, -, _, -, updated, -⟩ := update_ok.mp success
  exact Db.updateGroup_traced brought_edited updated

theorem remove_traced (success : remove user id db = .ok next) : db.Traced (Brought sent) next := by
  obtain ⟨group, -, deleted⟩ := remove_ok.mp success
  exact Db.deleteGroup_traced deleted

theorem addMember_traced {groupId studentId : Id} {view : GroupView}
    (success : addMember platform user groupId studentId db = .ok (view, next)) :
    db.Traced (Brought sent) next := by
  obtain ⟨_, -, _, -, added, -⟩ := addMember_ok.mp success
  obtain ⟨-, ⟨members, -, rfl⟩ | ⟨-, rfl⟩⟩ := Db.upsertMember_ok.mp added
  · exact Db.traced_aside
  · exact .refl db

theorem removeMember_traced {groupId studentId : Id} {view : GroupView}
    (success : removeMember platform user groupId studentId db = .ok (view, next)) :
    db.Traced (Brought sent) next := by
  obtain ⟨_, -, -, rfl⟩ := removeMember_ok.mp success
  exact Db.traced_aside

end GroupsService

namespace LessonsService

theorem meetingFor_traced {endpoints : Endpoints} {subjectId : Option Id}
    {startsAt : Option Js.Instant} {durationMinutes : Int} : db.Traced (Brought sent)
      (meetingFor platform user draw endpoints subjectId startsAt durationMinutes db).db := by
  obtain ⟨meetingAccounts, same⟩ :=
    meetingFor_db platform user draw endpoints subjectId startsAt durationMinutes db
  rw [same]
  exact Db.traced_aside

theorem create_traced {endpoints : Endpoints} {dto : CreateLessonDto} :
    db.Traced (Brought sent) (create platform user draw endpoints dto db).db := by
  unfold create
  dsimp only
  split
  · exact .refl db
  · split
    · exact meetingFor_traced
    · split
      · exact meetingFor_traced
      · rename_i stored
        obtain ⟨_, -, _, -, _, rfl, created, -⟩ := storeLesson_ok.mp stored
        obtain ⟨-, lessons, -, rfl⟩ := Db.createLesson_ok.mp created
        exact meetingFor_traced.trans Db.traced_aside

theorem updateStatus_traced {status : LessonStatus} {view : LessonView}
    (success : updateStatus platform user id status db = .ok (view, next)) :
    db.Traced (Brought sent) next := by
  obtain ⟨_, -, updated, -⟩ := updateStatus_ok.mp success
  obtain ⟨lessons, -, rfl⟩ := Db.updateLesson_ok.mp updated
  exact Db.traced_aside

end LessonsService

namespace GradebookService

theorem writeMark_traced {lessonId : Id} {mark : MarkAttendanceDto}
    (done : writeMark lessonId mark db = .ok next) : db.Traced (Brought sent) next := by
  obtain ⟨settled, settles, upserted⟩ := writeMark_ok.mp done
  obtain ⟨_, rfl⟩ := Db.upsertAttendance_frame upserted
  refine .trans ?_ Db.traced_aside
  unfold settle settleFrom at settles
  split at settles
  · exact Db.addLessons_traced settles
  · exact Except.ok.inj settles ▸ .refl db

theorem writeMarks_traced {lessonId : Id} {marks : List MarkAttendanceDto}
    (done : writeMarks lessonId marks db = .ok next) : db.Traced (Brought sent) next := by
  induction marks generalizing db with
  | nil => exact Except.ok.inj done ▸ .refl db
  | cons mark rest ih =>
      obtain ⟨marked, first, others⟩ := writeMarks_cons_ok.mp done
      exact (writeMark_traced first).trans (ih others)

theorem writeJournal_traced {lessonId : Id} {dto : WriteJournalDto} {view : JournalView}
    (success : writeJournal platform user lessonId dto db = .ok (view, next)) :
    db.Traced (Brought sent) next := by
  obtain ⟨lesson, written, -, -, -, -, marked, updated⟩ := writeJournal_accepted success
  obtain ⟨lessons, -, rfl⟩ := Db.updateLesson_ok.mp updated
  exact (writeMarks_traced marked).trans Db.traced_aside

theorem storeGrade_traced {dto : WriteGradeDto} {studentId : Id} {lessonId : Option Id}
    {view : GradeWithAuthor}
    (success : storeGrade user draw dto studentId lessonId db = .ok (view, next)) :
    db.Traced (Brought sent) next := by
  obtain ⟨-, _, -, created, -⟩ := storeGrade_ok.mp success
  obtain ⟨-, grades, -, rfl⟩ := Db.createGrade_ok.mp created
  exact Db.traced_aside

theorem addForStudent_traced {studentId : Id} {dto : WriteGradeDto} {view : GradeWithAuthor}
    (success : addForStudent user draw studentId dto db = .ok (view, next)) :
    db.Traced (Brought sent) next := by
  obtain ⟨_, -, stored⟩ := addForStudent_ok.mp success
  exact storeGrade_traced stored

theorem addForLesson_traced {lessonId : Id} {dto : WriteGradeDto} {view : GradeWithAuthor}
    (success : addForLesson user draw lessonId dto db = .ok (view, next)) :
    db.Traced (Brought sent) next := by
  obtain ⟨_, -, _, -, stored⟩ := addForLesson_ok.mp success
  exact storeGrade_traced stored

theorem update_traced {dto : WriteGradeDto} {view : GradeWithAuthor}
    (success : update user id dto db = .ok (view, next)) : db.Traced (Brought sent) next := by
  obtain ⟨_, -, -, _, -, updated, -⟩ := update_ok.mp success
  obtain ⟨grades, -, rfl⟩ := Db.updateGrade_ok.mp updated
  exact Db.traced_aside

theorem remove_traced (success : remove user id db = .ok next) : db.Traced (Brought sent) next := by
  obtain ⟨_, -, deleted⟩ := remove_ok.mp success
  obtain ⟨grades, -, rfl⟩ := Db.deleteGrade_ok.mp deleted
  exact Db.traced_aside

end GradebookService

namespace NotesService

theorem addForStudent_traced {studentId : Id} {view : NoteWithAuthor}
    (success : addForStudent user draw studentId text db = .ok (view, next)) :
    db.Traced (Brought [(.noteText, text)]) next := by
  obtain ⟨_, -, created, -⟩ := addForStudent_ok.mp success
  refine Db.createNote_traced ?_ created
  exact brought_of_mem List.mem_cons_self

theorem addForLesson_traced {lessonId : Id} {view : NoteWithAuthor}
    (success : addForLesson user draw lessonId text db = .ok (view, next)) :
    db.Traced (Brought [(.noteText, text)]) next := by
  obtain ⟨_, -, created, -⟩ := addForLesson_ok.mp success
  refine Db.createNote_traced ?_ created
  exact brought_of_mem List.mem_cons_self

theorem remove_traced (success : remove user id db = .ok next) : db.Traced (Brought sent) next := by
  obtain ⟨_, -, -, -, -, deleted⟩ := remove_ok.mp success
  exact Db.deleteNote_traced deleted

end NotesService

namespace FilesService

theorem upload_traced {saves : Bool} {findTarget : Db → Service UploadTarget}
    {incoming : IncomingFile} {world : World} : world.db.Traced (Brought sent)
      (upload platform user draw saves findTarget incoming world).2.db := by
  obtain ⟨files, same⟩ := upload_db platform user draw saves findTarget incoming world
  rw [same]
  exact Db.traced_aside

theorem remove_traced {world : World} :
    world.db.Traced (Brought sent) (remove user id world).2.db := by
  obtain ⟨files, same⟩ := remove_db user id world
  rw [same]
  exact Db.traced_aside

end FilesService

theorem AddonsService.setFor_traced {userId : Id} {addons unique : List AddonKey}
    (success : setFor user userId addons db = .ok (unique, next)) :
    db.Traced (Brought sent) next := by
  obtain ⟨_, -, -, created, -⟩ := setFor_ok.mp success
  obtain ⟨granted, rfl⟩ := Db.createAddons_frame created
  exact Db.traced_aside

namespace SchoolsService

theorem update_traced {dto : UpdateSchoolDto} {school : School}
    (success : update user dto db = .ok (school, next)) :
    db.Traced (Brought (edited .schoolName dto.name)) next := by
  obtain ⟨_, -, updated, -⟩ := update_ok.mp success
  exact Db.updateSchool_traced brought_edited updated

theorem createTutor_traced {dto : CreateTutorDto} {tutor : TutorFields}
    (success : createTutor platform user draw dto db = .ok (tutor, next)) :
    db.Traced (Brought [(.userName, dto.name)]) next := by
  obtain ⟨-, created, -⟩ := createTutor_ok.mp success
  refine Db.createUser_traced ?_ created
  exact brought_of_mem List.mem_cons_self

theorem register_traced {dto : RegisterSchoolDto} {admin : User}
    (success : register platform draw dto db = .ok (admin, next)) :
    db.Traced (Brought [(.schoolName, dto.schoolName), (.userName, dto.adminName)]) next := by
  obtain ⟨-, -, _, created, joined, -⟩ := register_ok.mp success
  refine (Db.createSchool_traced ?_ created).trans (Db.createUser_traced ?_ joined)
  · exact brought_of_mem List.mem_cons_self
  · exact brought_of_mem (List.mem_cons_of_mem _ List.mem_cons_self)

end SchoolsService

namespace InvitationsService

theorem invite_traced {email : String} {view : InvitationView}
    (success : invite platform user draw email db = .ok (view, next)) :
    db.Traced (Brought sent) next := by
  obtain ⟨-, _, -, stored, _, -, -⟩ := invite_ok.mp success
  exact Db.upsertInvitation_traced stored

theorem revoke_traced (success : revoke user id db = .ok next) : db.Traced (Brought sent) next := by
  obtain ⟨-, rfl⟩ := revoke_ok.mp success
  exact Db.traced_aside

theorem accept_traced {token name : String} {account : User}
    (success : accept draw token name db = .ok (account, next)) :
    db.Traced (Brought [(.userName, name)]) next := by
  obtain ⟨invitation, -, -, stored, created, -, rfl⟩ := accept_ok.mp success
  refine (Db.traced_aside.trans (Db.createUser_traced ?_ created)).trans
    (Db.createNotifications_traced fun row member text said => ?_)
  · exact brought_of_mem List.mem_cons_self
  · -- to say that somebody has joined is no announcement
    obtain ⟨_, -, rfl⟩ := List.mem_map.mp member
    cases said

end InvitationsService

theorem UsersService.updateConfig_traced {input : UserConfigInput} {config : UserConfig}
    (success : updateConfig platform user input db = .ok (config, next)) :
    db.Traced (Brought sent) next := by
  obtain ⟨_, -, updated, -⟩ := updateConfig_ok.mp success
  exact Db.updateUserConfig_traced updated

namespace MeetingAccountsService

theorem disconnect_traced {provider : MeetingProvider}
    (success : disconnect user provider db = .ok next) : db.Traced (Brought sent) next := by
  obtain ⟨-, rfl⟩ := disconnect_ok.mp success
  exact Db.traced_aside

theorem completeConnection_traced {endpoints : Endpoints} {provider : MeetingProvider}
    {code state : String} : db.Traced (Brought sent)
      (completeConnection platform draw endpoints provider code state db).db := by
  obtain ⟨meetingAccounts, same⟩ := completeConnection_db platform draw endpoints provider code state db
  rw [same]
  exact Db.traced_aside

end MeetingAccountsService

end

section

variable {platform : Platform} {user : User} {outside : Outside} {world : World}
  {sent : List (TextField × String)}

theorem World.commit_traced {α : Type} {answer : α → Response} {result : Service (α × Db)}
    (traced : ∀ value db, result = .ok (value, db) → world.db.Traced (Brought sent) db) :
    world.db.Traced (Brought sent) (world.commit answer result).world.db :=
  commit_keeps (world.db.Traced (Brought sent)) (.refl _) traced

theorem World.commitUnit_traced {result : Service Db}
    (traced : ∀ db, result = .ok db → world.db.Traced (Brought sent) db) :
    world.db.Traced (Brought sent) (world.commitUnit result).world.db :=
  commitUnit_keeps (world.db.Traced (Brought sent)) (.refl _) traced

theorem Command.run_traced (command : Command) : world.db.Traced (Brought command.sends)
    (command.run platform user outside world).world.db := by
  cases command with
  | createSubject name =>
      exact World.commit_traced fun _ _ success => SubjectsService.create_traced success
  | renameSubject id name =>
      exact World.commit_traced fun _ _ success => SubjectsService.rename_traced success
  | hideSubject id =>
      exact World.commit_traced fun _ _ success => SubjectsService.hide_traced success
  | restoreSubject id =>
      exact World.commit_traced fun _ _ success => SubjectsService.restore_traced success
  | createStudent dto =>
      exact World.commit_traced fun _ _ success => StudentsService.create_traced success
  | updateStudent id dto =>
      exact World.commit_traced fun _ _ success => StudentsService.update_traced success
  | removeStudent id =>
      exact World.commitUnit_traced fun _ success => StudentsService.remove_traced success
  | createGroup dto =>
      exact World.commit_traced fun _ _ success => GroupsService.create_traced success
  | updateGroup id dto =>
      exact World.commit_traced fun _ _ success => GroupsService.update_traced success
  | removeGroup id =>
      exact World.commitUnit_traced fun _ success => GroupsService.remove_traced success
  | addMember groupId studentId =>
      exact World.commit_traced fun _ _ success => GroupsService.addMember_traced success
  | removeMember groupId studentId =>
      exact World.commit_traced fun _ _ success => GroupsService.removeMember_traced success
  | createLesson dto => exact LessonsService.create_traced
  | updateLessonStatus id status =>
      exact World.commit_traced fun _ _ success => LessonsService.updateStatus_traced success
  | writeJournal lessonId dto =>
      exact World.commit_traced fun _ _ success => GradebookService.writeJournal_traced success
  | addGradeForStudent studentId dto =>
      exact World.commit_traced fun _ _ success => GradebookService.addForStudent_traced success
  | addGradeForLesson lessonId dto =>
      exact World.commit_traced fun _ _ success => GradebookService.addForLesson_traced success
  | updateGrade id dto =>
      exact World.commit_traced fun _ _ success => GradebookService.update_traced success
  | removeGrade id =>
      exact World.commitUnit_traced fun _ success => GradebookService.remove_traced success
  | addNoteForStudent studentId text =>
      exact World.commit_traced fun _ _ success => NotesService.addForStudent_traced success
  | addNoteForLesson lessonId text =>
      exact World.commit_traced fun _ _ success => NotesService.addForLesson_traced success
  | removeNote id =>
      exact World.commitUnit_traced fun _ success => NotesService.remove_traced success
  | uploadForStudent studentId incoming => exact FilesService.upload_traced
  | uploadToLibrary incoming => exact FilesService.upload_traced
  | uploadForLesson lessonId incoming => exact FilesService.upload_traced
  | openFile id => exact .refl _
  | removeFile id => exact FilesService.remove_traced
  | setAddons userId addons =>
      exact World.commit_traced fun _ _ success => AddonsService.setFor_traced success
  | updateSchool dto =>
      exact World.commit_traced fun _ _ success => SchoolsService.update_traced success
  | createTutor dto =>
      exact World.commit_traced fun _ _ success => SchoolsService.createTutor_traced success
  | invite email =>
      exact World.commit_traced fun _ _ success => InvitationsService.invite_traced success
  | revokeInvitation id =>
      exact World.commitUnit_traced fun _ success => InvitationsService.revoke_traced success
  | updateConfig input =>
      exact World.commit_traced fun _ _ success => UsersService.updateConfig_traced success
  | disconnect provider =>
      refine World.commitUnit_traced fun _ success => ?_
      obtain ⟨_, -, disconnected⟩ := bind_ok.mp success
      exact MeetingAccountsService.disconnect_traced disconnected

theorem Request.serve_traced (request : Request) : world.db.Traced (Brought request.sends)
    (request.serve platform outside world).world.db := by
  cases request with
  | query userId asked =>
      simp only [serve]
      split <;> exact .refl _
  | command userId asked =>
      simp only [serve]
      split
      · exact .refl _
      · exact asked.run_traced
  | anonymous call =>
      cases call with
      | registerSchool dto =>
          exact World.commit_traced fun _ _ success => SchoolsService.register_traced success
      | describeInvitation token => exact .refl _
      | acceptInvitation token name =>
          exact World.commit_traced fun _ _ success => InvitationsService.accept_traced success
      | completeConnection provider code state =>
          simp only [serve, PublicCall.run]
          split
          · exact .refl _
          · exact MeetingAccountsService.completeConnection_traced

end

/-- A call of a run: a request, a device that comes or goes, or an announcement. -/
inductive ServiceCall where
  | request (outside : Outside) (request : Request)
  | registerDevice (userId : Id) (token : String) (device : DevicePlatform) (now : Js.Instant)
  | unregisterDevice (userId : Id) (token : String)
  | announce (senderId : Id) (text : String) (now : Js.Instant) (outside : PushOutside)

namespace ServiceCall

/-- The names and texts a payload brings. -/
def sends : ServiceCall → List (TextField × String)
  | .request _ asked => asked.sends
  | .registerDevice _ _ _ _ => []
  | .unregisterDevice _ _ => []
  | .announce _ text _ _ => [(.announcementText, text)]

variable (platform : Platform)

/-- A caller nobody knows changes nothing. -/
def serve (before : PushWorld) : ServiceCall → PushWorld
  | .request outside asked =>
      { before with world := (asked.serve platform outside before.world).world }
  | .registerDevice userId token device now =>
      match before.world.db.users.find userId with
      | none => before
      | some user =>
          { before with tokens := DevicesService.register user token device now before.tokens }
  | .unregisterDevice userId token =>
      match before.world.db.users.find userId with
      | none => before
      | some user =>
          { before with tokens := DevicesService.unregister user token before.tokens }
  | .announce senderId text now outside =>
      match before.world.db.users.find senderId with
      | none => before
      | some sender => (NotificationsService.announce sender text now outside before).after

def run (calls : List ServiceCall) (start : PushWorld) : PushWorld :=
  calls.foldl (serve platform) start

variable {platform} {before : PushWorld}

/-- A served call is a step of the runs over devices, or nothing. -/
theorem serve_step (call : ServiceCall) :
    serve platform before call = before ∨ ∃ event, DeviceStep platform before event
      (serve platform before call) := by
  cases call with
  | request outside asked => exact .inr ⟨_, .request outside asked⟩
  | registerDevice userId token device now =>
      rw [serve]
      split
      · exact .inl rfl
      · rename_i user found
        exact .inr ⟨_, .register token device now found⟩
  | unregisterDevice userId token =>
      rw [serve]
      split
      · exact .inl rfl
      · rename_i user found
        exact .inr ⟨_, .unregister token found⟩
  | announce senderId text now outside =>
      rw [serve]
      split
      · exact .inl rfl
      · rename_i sender found
        exact .inr ⟨_, .announce text now outside found⟩

theorem serve_traced (call : ServiceCall) : before.world.db.Traced (Brought call.sends)
    (serve platform before call).world.db := by
  cases call with
  | request outside asked => exact asked.serve_traced
  | registerDevice userId token device now =>
      rw [serve]
      split <;> exact .refl _
  | unregisterDevice userId token =>
      rw [serve]
      split <;> exact .refl _
  | announce senderId text now outside =>
      rw [serve]
      split
      · exact .refl _
      · refine Db.createNotifications_traced fun row member said written => ?_
        obtain ⟨_, -, rfl⟩ := List.mem_map.mp member
        cases written
        exact brought_of_mem List.mem_cons_self

end ServiceCall

end TutorApp
