import TutorApp.StoredTexts
import TutorApp.Texts

set_option autoImplicit false

namespace TutorApp

open Relational

section

variable {ρ κ : Type} [Keyed ρ κ] [DecidableEq κ] {table next : Table ρ} (column : ρ → String)

theorem mem_column_of_insert {row : ρ} (inserted : table.insert? row = some next) :
    column row ∈ next.rows.map column :=
  List.mem_map_of_mem ((Table.mem_insert inserted).mpr (.inr rfl))

/-- An update finds its row, so what it sets is there afterwards. -/
theorem mem_column_of_update {k : κ} {change : ρ → ρ} {keeps : ∀ row, key (change row) = key row}
    {text : String} (done : updateRow table k change keeps = .ok next)
    (sets : ∀ old, column (change old) = text) : text ∈ next.rows.map column := by
  obtain ⟨present, rfl⟩ := updateRow_ok.mp done
  obtain ⟨old, found⟩ := Option.isSome_iff_exists.mp present
  obtain ⟨member, hit⟩ := Table.find_eq_some.mp found
  refine List.mem_map.mpr ⟨change old, ?_, sets old⟩
  rw [Table.rows_update]
  exact List.mem_map.mpr ⟨old, member, if_pos (decide_eq_true hit)⟩

end

namespace Db

variable {db next : Db} {id : Id}

theorem createSchool_stores {row : School} (done : db.createSchool row = .ok next) :
    next.Stores .schoolName row.name := by
  obtain ⟨-, schools, inserted, rfl⟩ := createSchool_ok.mp done
  exact mem_column_of_insert School.name inserted

theorem updateSchool_stores {renamed timezone : Option String} {name : String}
    (named : renamed = some name) (done : db.updateSchool id renamed timezone = .ok next) :
    next.Stores .schoolName name := by
  subst named
  obtain ⟨schools, updated, rfl⟩ := updateSchool_ok.mp done
  exact mem_column_of_update School.name updated fun _ => rfl

theorem createUser_stores {row : User} (done : db.createUser row = .ok next) :
    next.Stores .userName row.name := by
  obtain ⟨-, -, users, inserted, rfl⟩ := createUser_ok.mp done
  exact mem_column_of_insert User.name inserted

theorem createUser_schools {row : User} (done : db.createUser row = .ok next) :
    next.schools = db.schools := by
  obtain ⟨-, -, users, -, rfl⟩ := createUser_ok.mp done
  rfl

theorem createSubject_stores {row : Subject} (done : db.createSubject row = .ok next) :
    next.Stores .subjectName row.name := by
  obtain ⟨-, -, subjects, inserted, rfl⟩ := createSubject_ok.mp done
  exact mem_column_of_insert Subject.name inserted

theorem renameSubject_stores {name : String} (done : db.renameSubject id name = .ok next) :
    next.Stores .subjectName name := by
  obtain ⟨-, subjects, updated, rfl⟩ := renameSubject_ok.mp done
  exact mem_column_of_update Subject.name updated fun _ => rfl

theorem createStudent_stores {row : Student} (done : db.createStudent row = .ok next) :
    next.Stores .studentName row.name := by
  obtain ⟨-, -, students, inserted, rfl⟩ := createStudent_ok.mp done
  exact mem_column_of_insert Student.name inserted

theorem updateStudent_stores {patch : StudentPatch} {name : String} (named : patch.name = some name)
    (done : db.updateStudent id patch = .ok next) : next.Stores .studentName name := by
  obtain ⟨-, -, students, updated, rfl⟩ := updateStudent_ok.mp done
  refine mem_column_of_update Student.name updated fun old => ?_
  rw [StudentPatch.apply, named]
  rfl

theorem createGroup_stores {row : Group} (done : db.createGroup row = .ok next) :
    next.Stores .groupName row.name := by
  obtain ⟨-, groups, inserted, rfl⟩ := createGroup_ok.mp done
  exact mem_column_of_insert Group.name inserted

theorem updateGroup_stores {patch : GroupPatch} {name : String} (named : patch.name = some name)
    (done : db.updateGroup id patch = .ok next) : next.Stores .groupName name := by
  obtain ⟨-, groups, updated, rfl⟩ := updateGroup_ok.mp done
  refine mem_column_of_update Group.name updated fun old => ?_
  rw [GroupPatch.apply, named]
  rfl

theorem createNote_stores {row : Note} (done : db.createNote row = .ok next) :
    next.Stores .noteText row.text := by
  obtain ⟨-, notes, inserted, rfl⟩ := createNote_ok.mp done
  exact mem_column_of_insert Note.text inserted

/-- All that a payload sends is in its column, trimmed. -/
def StoresAll (db : Db) (sent : List (TextField × String)) : Prop :=
  ∀ field raw, (field, raw) ∈ sent → db.Stores field (Js.trim raw)

variable {field : TextField}

theorem storesAll_nil : db.StoresAll [] := nofun

theorem storesAll_cons {raw : String} {rest : List (TextField × String)}
    (first : db.Stores field (Js.trim raw)) (others : db.StoresAll rest) :
    db.StoresAll ((field, raw) :: rest) := by
  intro other text member
  rcases List.mem_cons.mp member with same | later
  · cases same
    exact first
  · exact others other text later

theorem storesAll_edited {name : Js.Field String}
    (held : ∀ given, name.toOption.map Js.trim = some given → db.Stores field given) :
    db.StoresAll (edited field name) := by
  intro other text member
  obtain ⟨raw, told, same⟩ := List.mem_map.mp member
  cases same
  exact held _ (Option.map_eq_some_iff.mpr ⟨_, Option.mem_toList.mp told, rfl⟩)

end Db

section

variable {platform : Platform} {user : User} {draw : Draw} {db next : Db} {id : Id}
  {text : String}

namespace SubjectsService

theorem create_stores {name : String} {subject : Subject}
    (success : create platform user draw name db = .ok (subject, next)) :
    next.StoresAll [(.subjectName, name)] := by
  obtain ⟨-, created, -⟩ := create_ok.mp success
  have stored := Db.createSubject_stores created
  exact Db.storesAll_cons stored Db.storesAll_nil

theorem rename_stores {name : String} {subject : Subject}
    (success : rename platform user id name db = .ok (subject, next)) :
    next.StoresAll [(.subjectName, name)] := by
  obtain ⟨_, -, -, renamed, -⟩ := rename_ok.mp success
  exact Db.storesAll_cons (Db.renameSubject_stores renamed) Db.storesAll_nil

end SubjectsService

namespace StudentsService

theorem create_stores {dto : CreateStudentDto} {view : StudentView}
    (success : create user draw dto db = .ok (view, next)) :
    next.StoresAll [(.studentName, dto.name)] := by
  obtain ⟨_, -, created, -⟩ := create_ok.mp success
  have stored := Db.createStudent_stores created
  exact Db.storesAll_cons stored Db.storesAll_nil

theorem update_stores {dto : UpdateStudentDto} {view : StudentView}
    (success : update user id dto db = .ok (view, next)) :
    next.StoresAll (edited .studentName dto.name) := by
  obtain ⟨_, -, _, -, _, -, updated, -⟩ := update_ok.mp success
  exact Db.storesAll_edited fun _ named => Db.updateStudent_stores named updated

end StudentsService

namespace GroupsService

theorem create_stores {dto : CreateGroupDto} {view : GroupView}
    (success : create platform user draw dto db = .ok (view, next)) :
    next.StoresAll [(.groupName, dto.name)] := by
  obtain ⟨_, -, created, -⟩ := create_ok.mp success
  have stored := Db.createGroup_stores created
  exact Db.storesAll_cons stored Db.storesAll_nil

theorem update_stores {dto : UpdateGroupDto} {view : GroupView}
    (success : update platform user id dto db = .ok (view, next)) :
    next.StoresAll (edited .groupName dto.name) := by
  obtain ⟨_, -, _, -, _, -, updated, -⟩ := update_ok.mp success
  exact Db.storesAll_edited fun _ named => Db.updateGroup_stores named updated

end GroupsService

namespace NotesService

theorem addForStudent_stores {studentId : Id} {view : NoteWithAuthor}
    (success : addForStudent user draw studentId text db = .ok (view, next)) :
    next.StoresAll [(.noteText, text)] := by
  obtain ⟨_, -, created, -⟩ := addForStudent_ok.mp success
  have stored := Db.createNote_stores created
  exact Db.storesAll_cons stored Db.storesAll_nil

theorem addForLesson_stores {lessonId : Id} {view : NoteWithAuthor}
    (success : addForLesson user draw lessonId text db = .ok (view, next)) :
    next.StoresAll [(.noteText, text)] := by
  obtain ⟨_, -, created, -⟩ := addForLesson_ok.mp success
  have stored := Db.createNote_stores created
  exact Db.storesAll_cons stored Db.storesAll_nil

end NotesService

namespace SchoolsService

theorem update_stores {dto : UpdateSchoolDto} {school : School}
    (success : update user dto db = .ok (school, next)) :
    next.StoresAll (edited .schoolName dto.name) := by
  obtain ⟨_, -, updated, -⟩ := update_ok.mp success
  exact Db.storesAll_edited fun _ named => Db.updateSchool_stores named updated

theorem createTutor_stores {dto : CreateTutorDto} {tutor : TutorFields}
    (success : createTutor platform user draw dto db = .ok (tutor, next)) :
    next.StoresAll [(.userName, dto.name)] := by
  obtain ⟨-, created, -⟩ := createTutor_ok.mp success
  have stored := Db.createUser_stores created
  exact Db.storesAll_cons stored Db.storesAll_nil

/-- The administrator that comes second leaves the school as it has been created. -/
theorem register_stores {dto : RegisterSchoolDto} {admin : User}
    (success : register platform draw dto db = .ok (admin, next)) :
    next.StoresAll [(.schoolName, dto.schoolName), (.userName, dto.adminName)] := by
  obtain ⟨-, -, founded, created, joined, -⟩ := register_ok.mp success
  have admin := Db.createUser_stores joined
  have school := Db.createSchool_stores created
  simp only [Db.Stores, Db.texts] at school
  rw [← Db.createUser_schools joined] at school
  exact Db.storesAll_cons school (Db.storesAll_cons admin Db.storesAll_nil)

end SchoolsService

theorem InvitationsService.accept_stores {token name : String} {account : User}
    (success : accept draw token name db = .ok (account, next)) :
    next.StoresAll [(.userName, name)] := by
  obtain ⟨_, -, -, _, created, -, rfl⟩ := accept_ok.mp success
  have stored := Db.createUser_stores created
  exact Db.storesAll_cons stored Db.storesAll_nil

end

section

variable {platform : Platform} {user : User} {outside : Outside} {world : World}
  {response : Response}

theorem World.commit_stores {α : Type} {answer : α → Response} {result : Service (α × Db)}
    {sent : List (TextField × String)}
    (stores : ∀ value db, result = .ok (value, db) → db.StoresAll sent)
    (served : (world.commit answer result).result = .ok response) :
    (world.commit answer result).world.db.StoresAll sent := by
  obtain ⟨value, db, success, after⟩ := World.commit_ok served
  rw [after]
  exact stores value db success

theorem Command.run_stores {command : Command}
    (served : (command.run platform user outside world).result = .ok response) :
    (command.run platform user outside world).world.db.StoresAll command.sends := by
  cases command with
  | createSubject name =>
      exact World.commit_stores (fun _ _ success => SubjectsService.create_stores success) served
  | renameSubject id name =>
      exact World.commit_stores (fun _ _ success => SubjectsService.rename_stores success) served
  | createStudent dto =>
      exact World.commit_stores (fun _ _ success => StudentsService.create_stores success) served
  | updateStudent id dto =>
      exact World.commit_stores (fun _ _ success => StudentsService.update_stores success) served
  | createGroup dto =>
      exact World.commit_stores (fun _ _ success => GroupsService.create_stores success) served
  | updateGroup id dto =>
      exact World.commit_stores (fun _ _ success => GroupsService.update_stores success) served
  | addNoteForStudent studentId text =>
      exact World.commit_stores (fun _ _ success => NotesService.addForStudent_stores success) served
  | addNoteForLesson lessonId text =>
      exact World.commit_stores (fun _ _ success => NotesService.addForLesson_stores success) served
  | updateSchool dto =>
      exact World.commit_stores (fun _ _ success => SchoolsService.update_stores success) served
  | createTutor dto =>
      exact World.commit_stores (fun _ _ success => SchoolsService.createTutor_stores success) served
  | _ => exact Db.storesAll_nil

/-- A request that goes through stores whatever it sends. -/
theorem Request.serve_stores {request : Request}
    (served : (request.serve platform outside world).result = .ok response) :
    (request.serve platform outside world).world.db.StoresAll request.sends := by
  cases request with
  | query userId asked => exact Db.storesAll_nil
  | command userId asked =>
      simp only [serve] at served ⊢
      split at served
      · cases served
      · exact Command.run_stores served
  | anonymous call =>
      cases call with
      | registerSchool dto =>
          exact World.commit_stores (fun _ _ success => SchoolsService.register_stores success) served
      | acceptInvitation token name =>
          exact World.commit_stores (fun _ _ success => InvitationsService.accept_stores success)
            served
      | _ => exact Db.storesAll_nil

end

/-- A text of its minimum length, counted the way the validators count, that is not all white. -/
def TextField.Honoured (characters : String → Nat) (field : TextField) (text : String) : Prop :=
  field.minimum ≤ characters text ∧ ∃ c ∈ text.toList, Js.isSpace c = false

/-- The texts of the payload pass `MinLength` as they are sent. -/
def ServiceCall.Admitted (characters : String → Nat) (call : ServiceCall) : Prop :=
  ∀ sent ∈ call.sends, sent.1.minimum ≤ characters sent.2

/-- The texts of the payload have their minimum length once trimmed. -/
def ServiceCall.WellWorded (characters : String → Nat) (call : ServiceCall) : Prop :=
  ∀ sent ∈ call.sends, sent.1.minimum ≤ characters (Js.trim sent.2)

instance (characters : String → Nat) (call : ServiceCall) : Decidable (call.Admitted characters) :=
  inferInstanceAs (Decidable (∀ _ ∈ _, _))

instance (characters : String → Nat) (call : ServiceCall) :
    Decidable (call.WellWorded characters) :=
  inferInstanceAs (Decidable (∀ _ ∈ _, _))

theorem TextField.minimum_pos (field : TextField) : 0 < field.minimum := by
  cases field <;> decide

section

variable {characters : String → Nat}

theorem honoured_trim (nothing : characters "" = 0) {field : TextField} {raw : String}
    (long : field.minimum ≤ characters (Js.trim raw)) :
    field.Honoured characters (Js.trim raw) := by
  refine ⟨long, Js.exists_not_space fun blank => ?_⟩
  rw [blank, nothing] at long
  exact absurd field.minimum_pos (Nat.not_lt.mpr long)

theorem ServiceCall.wellWorded_iff (nothing : characters "" = 0) {call : ServiceCall} :
    call.WellWorded characters ↔
      ∀ field text, Brought call.sends field text → field.Honoured characters text := by
  constructor
  · rintro worded field text ⟨raw, member, rfl⟩
    exact honoured_trim nothing (worded _ member)
  · intro honoured sent member
    exact (honoured sent.1 (Js.trim sent.2) ⟨sent.2, member, rfl⟩).1

/-- From a database whose texts are as they should be, a request that goes through leads to another
such database exactly when its own texts keep their minimum lengths once trimmed. -/
theorem Request.serve_honoured_iff {platform : Platform} {outside : Outside} {world : World}
    {request : Request} {response : Response} (nothing : characters "" = 0)
    (served : (request.serve platform outside world).result = .ok response)
    (before : ∀ field text, world.db.Stores field text → field.Honoured characters text) :
    (∀ field text, (request.serve platform outside world).world.db.Stores field text →
        field.Honoured characters text) ↔
      (ServiceCall.request outside request).WellWorded characters := by
  rw [ServiceCall.wellWorded_iff nothing]
  refine Provenance.Traced.preserves_iff request.serve_traced ?_ before
  rintro field text ⟨raw, member, rfl⟩
  exact Request.serve_stores served field raw member

/-- In a run whose payloads have their minimum lengths once trimmed, every text persisted has its
own, and none is blank. -/
theorem stored_texts_honoured (platform : Platform) (nothing : characters "" = 0)
    (calls : List ServiceCall) (worded : ∀ call ∈ calls, call.WellWorded characters)
    (field : TextField) (text : String)
    (stored : (ServiceCall.run platform calls ⟨World.empty, .empty⟩).world.db.Stores field text) :
    field.Honoured characters text := by
  have traced (before : PushWorld) (call : ServiceCall) :
      Provenance.Traced (fun state : PushWorld => state.world.db.Stores) (Brought call.sends) before
        (ServiceCall.serve platform before call) := call.serve_traced
  have fresh : ∀ field text, (World.empty.db).Stores field text →
      field.Honoured characters text := by
    intro field text held
    cases field <;> cases held
  have brought (call : ServiceCall) (member : call ∈ calls) :=
    (ServiceCall.wellWorded_iff nothing).mp (worded call member)
  exact Provenance.foldl_preserves traced brought fresh field text stored

end

/-- A school registers, and takes on a student of the given name. -/
def enrolAs (name : String) : List ServiceCall :=
  [.request foxSchool.1 foxSchool.2, .request (enrol "a1" "k1" name).1 (enrol "a1" "k1" name).2]

theorem kim_honoured :
    (ServiceCall.run .plain (enrolAs "Kim ") ⟨World.empty, .empty⟩).world.db.Stores
        .studentName "Kim" ∧
      TextField.Honoured Js.utf16Length .studentName "Kim" := by
  have stored : (ServiceCall.run .plain (enrolAs "Kim ") ⟨World.empty, .empty⟩).world.db.Stores
      .studentName "Kim" := by decide
  exact ⟨stored, stored_texts_honoured .plain (by decide) (enrolAs "Kim ") (by decide)
    .studentName "Kim" stored⟩

/-- A name of one space is long enough for the validators, and is stored as no name at all. -/
theorem blank_name_stored :
    (∀ call ∈ enrolAs " ", call.Admitted Js.utf16Length) ∧
      (ServiceCall.run .plain (enrolAs " ") ⟨World.empty, .empty⟩).world.db.Stores
        .studentName "" ∧
      ¬ TextField.Honoured Js.utf16Length .studentName "" := by
  refine ⟨by decide, by decide, ?_⟩
  rintro ⟨long, -⟩
  exact absurd long (by decide)

end TutorApp
