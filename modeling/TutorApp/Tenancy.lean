import TutorApp.TenantOwnership
import TutorApp.System

set_option autoImplicit false

namespace TutorApp

open Relational
open TenantOwnership

/-- A reference from one row to another. -/
inductive Ref where
  | school (id : Id)
  | user (id : Id)
  | subject (id : Id)
  | student (id : Id)
  | group (id : Id)
  | lesson (id : Id)
  /-- An owner that is not set. -/
  | nowhere
  deriving Repr, DecidableEq

/-- A row of any table. -/
inductive Row where
  | school (row : School)
  | user (row : User)
  | subject (row : Subject)
  | student (row : Student)
  | group (row : Group)
  | member (row : GroupMember)
  | lesson (row : Lesson)
  | attendance (row : LessonAttendance)
  | note (row : Note)
  | grade (row : Grade)
  | file (row : File)
  | invitation (row : Invitation)
  | addon (row : UserAddon)
  | meetingAccount (row : MeetingAccount)
  | notification (row : Notification)

/-- The student or the lesson a note hangs off. -/
def Note.parents (row : Note) : List Ref :=
  match row.studentId, row.lessonId with
  | none, none => [.nowhere]
  | student, lesson => (student.map .student).toList ++ (lesson.map .lesson).toList

/-- The foreign keys of a row; a school refers to itself. -/
def Row.refs : Row → List Ref
  | school row => [.school row.id]
  | user row => [.school row.schoolId]
  | subject row => [.school row.schoolId]
  | student row => .school row.schoolId :: .user row.tutorId :: (row.subjectId.map .subject).toList
  | group row => .school row.schoolId :: .user row.tutorId :: (row.subjectId.map .subject).toList
  | member row => [.group row.groupId, .student row.studentId]
  | lesson row => .school row.schoolId :: .user row.tutorId :: ((row.subjectId.map .subject).toList ++
      (row.studentId.map .student).toList ++ (row.groupId.map .group).toList)
  | attendance row => [.lesson row.lessonId, .student row.studentId]
  | note row => .user row.authorId :: row.parents
  | grade row => .student row.studentId :: .user row.authorId :: (row.lessonId.map .lesson).toList
  | file row => .school row.schoolId :: .user row.uploadedById ::
      ((row.studentId.map .student).toList ++ (row.lessonId.map .lesson).toList)
  | invitation row => [.school row.schoolId, .user row.invitedById]
  | addon row => .user row.userId :: (row.enabledById.map .user).toList
  | meetingAccount row => [.user row.userId]
  | notification row => [.user row.recipientId]

namespace Db

def Holds (db : Db) : Row → Prop
  | .school row => row ∈ db.schools.rows
  | .user row => row ∈ db.users.rows
  | .subject row => row ∈ db.subjects.rows
  | .student row => row ∈ db.students.rows
  | .group row => row ∈ db.groups.rows
  | .member row => row ∈ db.members.rows
  | .lesson row => row ∈ db.lessons.rows
  | .attendance row => row ∈ db.attendances.rows
  | .note row => row ∈ db.notes.rows
  | .grade row => row ∈ db.grades.rows
  | .file row => row ∈ db.files.rows
  | .invitation row => row ∈ db.invitations.rows
  | .addon row => row ∈ db.addons.rows
  | .meetingAccount row => row ∈ db.meetingAccounts.rows
  | .notification row => row ∈ db.notifications

/-- The rows of each table. -/
def tables (db : Db) : List (List Row) :=
  [db.schools.rows.map .school, db.users.rows.map .user, db.subjects.rows.map .subject,
    db.students.rows.map .student, db.groups.rows.map .group, db.members.rows.map .member,
    db.lessons.rows.map .lesson, db.attendances.rows.map .attendance, db.notes.rows.map .note,
    db.grades.rows.map .grade, db.files.rows.map .file, db.invitations.rows.map .invitation,
    db.addons.rows.map .addon, db.meetingAccounts.rows.map .meetingAccount,
    db.notifications.map .notification]

def listing (db : Db) : List Row := db.tables.flatten

theorem mem_listing (db : Db) (row : Row) : row ∈ db.listing ↔ db.Holds row := by
  cases row <;> simp [listing, tables, Holds]

/-- The rows a predicate keeps. -/
def filter (keep : Row → Bool) (db : Db) : Db where
  schools := db.schools.restrict fun row => keep (.school row)
  users := db.users.restrict fun row => keep (.user row)
  subjects := db.subjects.restrict fun row => keep (.subject row)
  students := db.students.restrict fun row => keep (.student row)
  groups := db.groups.restrict fun row => keep (.group row)
  members := db.members.restrict fun row => keep (.member row)
  lessons := db.lessons.restrict fun row => keep (.lesson row)
  attendances := db.attendances.restrict fun row => keep (.attendance row)
  notes := db.notes.restrict fun row => keep (.note row)
  grades := db.grades.restrict fun row => keep (.grade row)
  files := db.files.restrict fun row => keep (.file row)
  invitations := db.invitations.restrict fun row => keep (.invitation row)
  addons := db.addons.restrict fun row => keep (.addon row)
  meetingAccounts := db.meetingAccounts.restrict fun row => keep (.meetingAccount row)
  notifications := db.notifications.filter fun row => keep (.notification row)

/-- The school of the row a reference names. -/
def home (db : Db) : Ref → Option Id
  | .school id => (db.schools.find id).map School.id
  | .user id => db.schoolOfUser id
  | .subject id => db.schoolOfSubject id
  | .student id => db.schoolOfStudent id
  | .group id => db.schoolOfGroup id
  | .lesson id => db.schoolOfLesson id
  | .nowhere => none

end Db

/-- Schools as the tenants of the database. -/
def tenants : Ownership Db Row Ref Id where
  listing := Db.listing
  holds := Db.Holds
  mem_listing := Db.mem_listing
  refs := Row.refs
  home := Db.home
  refs_ne_nil row := by cases row <;> simp [Row.refs]

namespace Db

abbrev Belongs (db : Db) (schoolId : Id) (row : Row) : Prop := tenants.Belongs db schoolId row

abbrev Tenanted (db : Db) : Prop := tenants.Sound db

abbrev Confined (schoolId : Id) (before after : Db) : Prop :=
  tenants.Confined schoolId before after

end Db

/-- Where the rows of one kind live: their table, and the references that are answered
from it by way of one column. -/
structure Slot (ρ : Type) {κ : Type} [Keyed ρ κ] [DecidableEq κ] where
  get : Db → Table ρ
  set : Db → Table ρ → Db
  row : ρ → Row
  ofRow : Row → Option ρ
  /-- Which of `Db.tables` it is. -/
  position : Nat
  refKey : Ref → Option κ
  column : ρ → Id
  ofRow_row : ∀ mine, ofRow (row mine) = some mine := by
    intro mine
    rfl
  row_ofRow : ∀ other mine, ofRow other = some mine → other = row mine := by
    intro other mine kind
    cases other <;> cases kind
    rfl
  holds_get : ∀ db mine, db.Holds (row mine) ↔ mine ∈ (get db).rows := by
    intro db mine
    exact Iff.rfl
  holds_set : ∀ db table mine, (set db table).Holds (row mine) ↔ mine ∈ table.rows := by
    intro db table mine
    exact Iff.rfl
  holds_other : ∀ db table other, ofRow other = none →
      ((set db table).Holds other ↔ db.Holds other) := by
    intro db table other kind
    cases other <;> first | exact Iff.rfl | cases kind
  tables_get : ∀ db, db.tables[position]? = some ((get db).rows.map row) := by
    intro db
    rfl
  tables_set : ∀ db table, (set db table).tables = db.tables.set position (table.rows.map row) := by
    intro db table
    rfl
  get_set : ∀ db table, get (set db table) = table := by
    intro db table
    rfl
  set_set : ∀ db table other, set (set db table) other = set db other := by
    intro db table other
    rfl
  get_filter : ∀ keep db, get (db.filter keep) = (get db).restrict fun mine => keep (row mine) := by
    intro keep db
    rfl
  filter_set : ∀ keep db table, (set db table).filter keep =
      set (db.filter keep) (table.restrict fun mine => keep (row mine)) := by
    intro keep db table
    rfl
  home_get : ∀ db ref k, refKey ref = some k → db.home ref = ((get db).find k).map column := by
    intro db ref k asked
    cases ref <;> cases asked <;> rfl
  home_set : ∀ db table ref k, refKey ref = some k →
      (set db table).home ref = (table.find k).map column := by
    intro db table ref k asked
    cases ref <;> cases asked <;> rfl
  home_other : ∀ db table ref, refKey ref = none → (set db table).home ref = db.home ref := by
    intro db table ref asked
    cases ref <;> first | rfl | cases asked

namespace Slot

variable {ρ κ : Type} [Keyed ρ κ] [DecidableEq κ] (slot : Slot ρ)
variable {db : Db} {schoolId : Id} {table : Table ρ}

/-- The listing before and after a change of one table: nothing around it moves. -/
theorem listing_split (db : Db) : ∃ left right,
    db.listing = left ++ (slot.get db).rows.map slot.row ++ right ∧
      (∀ table, (slot.set db table).listing = left ++ table.rows.map slot.row ++ right) ∧
        ∀ other ∈ left ++ right, slot.ofRow other = none := by
  obtain ⟨bound, found⟩ := List.getElem?_eq_some_iff.mp (slot.tables_get db)
  have after : ∀ table, (slot.set db table).listing =
      (db.tables.take slot.position).flatten ++ table.rows.map slot.row ++
        (db.tables.drop (slot.position + 1)).flatten := by
    intro table
    rw [Db.listing, slot.tables_set, List.set_eq_take_append_cons_drop, if_pos bound]
    simp
  refine ⟨_, _, ?_, after, ?_⟩
  · have same : db.tables.set slot.position ((slot.get db).rows.map slot.row) = db.tables := by
      rw [← found]
      exact List.set_getElem_self bound
    rw [Db.listing]
    nth_rewrite 1 [← same]
    rw [List.set_eq_take_append_cons_drop, if_pos bound]
    simp
  · intro other listed
    have empty := after .empty
    rw [Table.rows_empty, List.map_nil, List.append_nil] at empty
    rw [← empty, Db.mem_listing] at listed
    cases kind : slot.ofRow other with
    | none => rfl
    | some mine =>
        obtain rfl := slot.row_ofRow other mine kind
        cases (slot.holds_set db .empty mine).mp listed

theorem home_after_insert {row : ρ} (done : (slot.get db).insert? row = some table) (ref : Ref)
    (home : Id) (leads : db.home ref = some home) : (slot.set db table).home ref = some home := by
  cases asked : slot.refKey ref with
  | none => rw [slot.home_other db table ref asked, leads]
  | some k =>
      rw [slot.home_get db ref k asked] at leads
      rw [slot.home_set db table ref k asked]
      exact Table.map_find_after_insert done leads

/-- A new row of the school. -/
theorem insert_confined {row : ρ} (tenanted : db.Tenanted)
    (done : (slot.get db).insert? row = some table)
    (belongs : (slot.set db table).Belongs schoolId (slot.row row)) :
    Db.Confined schoolId db (slot.set db table) := by
  obtain ⟨left, right, earlier, later, -⟩ := slot.listing_split db
  refine Ownership.Confined.insert [slot.row row] tenanted (slot.home_after_insert done) earlier
    ?_ ?_
  · show (slot.set db table).listing = _
    rw [later, (Table.insert?_eq_some.mp done).2, List.map_append, List.map_singleton,
      ← List.append_assoc]
  · intro other listed
    rw [List.mem_singleton.mp listed]
    exact belongs

/-- A new row that refers to nothing of its own table. -/
theorem extend_confined {row : ρ} (tenanted : db.Tenanted)
    (done : (slot.get db).insert? row = some table)
    (belongs : db.Belongs schoolId (slot.row row)) :
    Db.Confined schoolId db (slot.set db table) :=
  slot.insert_confined tenanted done fun ref member =>
    slot.home_after_insert done ref schoolId (belongs ref member)

theorem home_update {hit : ρ → Bool} {change : ρ → ρ} {keeps : ∀ row, key (change row) = key row}
    (untouched : ∀ row, slot.column (change row) = slot.column row) (ref : Ref) :
    (slot.set db ((slot.get db).update hit change keeps)).home ref = db.home ref := by
  cases asked : slot.refKey ref with
  | none => exact slot.home_other db _ ref asked
  | some k =>
      rw [slot.home_set db _ ref k asked, slot.home_get db ref k asked,
        Table.map_find_update untouched]

/-- Rewriting rows of the school, in columns no reference is answered by. -/
theorem update_confined {hit : ρ → Bool} {change : ρ → ρ} {keeps : ∀ row, key (change row) = key row}
    (untouched : ∀ row, slot.column (change row) = slot.column row)
    (owned : ∀ row ∈ (slot.get db).rows, hit row = true →
      db.Belongs schoolId (slot.row row) ∧ db.Belongs schoolId (slot.row (change row))) :
    Db.Confined schoolId db (slot.set db ((slot.get db).update hit change keeps)) := by
  let rewritten : Row → Row := fun other =>
    (slot.ofRow other).elim other fun mine => slot.row (if hit mine then change mine else mine)
  obtain ⟨left, right, earlier, later, others⟩ := slot.listing_split db
  have around : ∀ rows : List Row, (∀ other ∈ rows, slot.ofRow other = none) →
      rows.map rewritten = rows := by
    intro rows foreign
    conv_rhs => rw [← List.map_id rows]
    apply List.map_congr_left
    intro other listed
    simp only [rewritten, foreign other listed, Option.elim_none, id_eq]
  refine Ownership.Confined.rewrite rewritten (slot.home_update untouched) ?_ ?_
  · show (slot.set db _).listing = db.listing.map rewritten
    rw [later, earlier, List.map_append, List.map_append,
      around left fun other listed => others other (List.mem_append_left _ listed),
      around right fun other listed => others other (List.mem_append_right _ listed),
      Table.rows_update, List.map_map, List.map_map]
    congr 2
    apply List.map_congr_left
    intro mine _
    simp only [Function.comp_apply, rewritten, slot.ofRow_row, Option.elim_some]
  · intro other present
    cases kind : slot.ofRow other with
    | none =>
        left
        simp only [rewritten, kind, Option.elim_none]
    | some mine =>
        obtain rfl := slot.row_ofRow other mine kind
        simp only [rewritten, slot.ofRow_row, Option.elim_some]
        by_cases selected : hit mine = true
        · rw [if_pos selected]
          exact .inr (owned mine ((slot.holds_get db mine).mp present) selected)
        · rw [if_neg selected]
          exact .inl rfl

/-- Removing rows of the school that nothing left refers to. -/
theorem delete_confined {hit : ρ → Bool}
    (unreferred : ∀ other, (slot.set db ((slot.get db).delete hit)).Holds other →
      ∀ ref ∈ other.refs, ∀ k ∈ slot.refKey ref, ∀ row ∈ (slot.get db).find k, hit row = false)
    (owned : ∀ row ∈ (slot.get db).rows, hit row = true → db.Belongs schoolId (slot.row row)) :
    Db.Confined schoolId db (slot.set db ((slot.get db).delete hit)) := by
  let stays : Row → Bool := fun other => !(slot.ofRow other).any hit
  obtain ⟨left, right, earlier, later, others⟩ := slot.listing_split db
  have around : ∀ rows : List Row, (∀ other ∈ rows, slot.ofRow other = none) →
      rows.filter stays = rows := by
    intro rows foreign
    rw [List.filter_eq_self]
    intro other listed
    simp only [stays, foreign other listed, Option.any_none, Bool.not_false]
  refine Ownership.Confined.remove stays ?_ ?_ ?_
  · intro other ref later member
    show (slot.set db _).home ref = db.home ref
    cases asked : slot.refKey ref with
    | none => exact slot.home_other db _ ref asked
    | some k =>
        rw [slot.home_set db _ ref k asked, slot.home_get db ref k asked, Table.find_delete]
        cases found : (slot.get db).find k with
        | none => rfl
        | some row =>
            rw [Option.filter_some_pos]
            rw [unreferred other later ref member k asked row found]
            rfl
  · show (slot.set db _).listing = db.listing.filter stays
    rw [later, earlier, List.filter_append, List.filter_append,
      around left fun other listed => others other (List.mem_append_left _ listed),
      around right fun other listed => others other (List.mem_append_right _ listed),
      List.filter_map]
    congr 3
    apply List.filter_congr
    intro mine _
    simp only [Function.comp_apply, stays, slot.ofRow_row, Option.any_some]
  · intro other earlier gone
    cases kind : slot.ofRow other with
    | none => simp only [stays, kind, Option.any_none, Bool.not_false, reduceCtorEq] at gone
    | some mine =>
        obtain rfl := slot.row_ofRow other mine kind
        simp only [stays, kind, Option.any_some, Bool.not_eq_false'] at gone
        exact owned mine ((slot.holds_get db mine).mp earlier) gone

/-- Rows no reference leads to can go without further ado. -/
theorem drop_confined (leaf : ∀ ref, slot.refKey ref = none) {hit : ρ → Bool}
    (owned : ∀ row ∈ (slot.get db).rows, hit row = true → db.Belongs schoolId (slot.row row)) :
    Db.Confined schoolId db (slot.set db ((slot.get db).delete hit)) :=
  slot.delete_confined (fun _ _ ref _ k asked => by rw [leaf ref] at asked; cases asked) owned

def schools : Slot School where
  get := Db.schools
  set db table := { db with schools := table }
  row := .school
  ofRow | .school row => some row | _ => none
  position := 0
  refKey | .school id => some id | _ => none
  column := School.id

def users : Slot User where
  get := Db.users
  set db table := { db with users := table }
  row := .user
  ofRow | .user row => some row | _ => none
  position := 1
  refKey | .user id => some id | _ => none
  column := User.schoolId

def subjects : Slot Subject where
  get := Db.subjects
  set db table := { db with subjects := table }
  row := .subject
  ofRow | .subject row => some row | _ => none
  position := 2
  refKey | .subject id => some id | _ => none
  column := Subject.schoolId

def students : Slot Student where
  get := Db.students
  set db table := { db with students := table }
  row := .student
  ofRow | .student row => some row | _ => none
  position := 3
  refKey | .student id => some id | _ => none
  column := Student.schoolId

def groups : Slot Group where
  get := Db.groups
  set db table := { db with groups := table }
  row := .group
  ofRow | .group row => some row | _ => none
  position := 4
  refKey | .group id => some id | _ => none
  column := Group.schoolId

def members : Slot GroupMember where
  get := Db.members
  set db table := { db with members := table }
  row := .member
  ofRow | .member row => some row | _ => none
  position := 5
  refKey _ := none
  column := GroupMember.groupId

def lessons : Slot Lesson where
  get := Db.lessons
  set db table := { db with lessons := table }
  row := .lesson
  ofRow | .lesson row => some row | _ => none
  position := 6
  refKey | .lesson id => some id | _ => none
  column := Lesson.schoolId

def attendances : Slot LessonAttendance where
  get := Db.attendances
  set db table := { db with attendances := table }
  row := .attendance
  ofRow | .attendance row => some row | _ => none
  position := 7
  refKey _ := none
  column := LessonAttendance.lessonId

def notes : Slot Note where
  get := Db.notes
  set db table := { db with notes := table }
  row := .note
  ofRow | .note row => some row | _ => none
  position := 8
  refKey _ := none
  column := Note.authorId

def grades : Slot Grade where
  get := Db.grades
  set db table := { db with grades := table }
  row := .grade
  ofRow | .grade row => some row | _ => none
  position := 9
  refKey _ := none
  column := Grade.studentId

def files : Slot File where
  get := Db.files
  set db table := { db with files := table }
  row := .file
  ofRow | .file row => some row | _ => none
  position := 10
  refKey _ := none
  column := File.schoolId

def invitations : Slot Invitation where
  get := Db.invitations
  set db table := { db with invitations := table }
  row := .invitation
  ofRow | .invitation row => some row | _ => none
  position := 11
  refKey _ := none
  column := Invitation.schoolId

def addons : Slot UserAddon where
  get := Db.addons
  set db table := { db with addons := table }
  row := .addon
  ofRow | .addon row => some row | _ => none
  position := 12
  refKey _ := none
  column := UserAddon.userId

def meetingAccounts : Slot MeetingAccount where
  get := Db.meetingAccounts
  set db table := { db with meetingAccounts := table }
  row := .meetingAccount
  ofRow | .meetingAccount row => some row | _ => none
  position := 13
  refKey _ := none
  column := MeetingAccount.userId

end Slot

namespace Db

variable {db next : Db} {schoolId : Id}

theorem belongs_school {row : School} :
    db.Belongs schoolId (.school row) ↔ db.home (.school row.id) = some schoolId := by
  simp [Ownership.Belongs, tenants, Row.refs]

theorem belongs_user {row : User} :
    db.Belongs schoolId (.user row) ↔ db.home (.school row.schoolId) = some schoolId := by
  simp [Ownership.Belongs, tenants, Row.refs]

theorem belongs_subject {row : Subject} :
    db.Belongs schoolId (.subject row) ↔ db.home (.school row.schoolId) = some schoolId := by
  simp [Ownership.Belongs, tenants, Row.refs]

theorem belongs_student {row : Student} :
    db.Belongs schoolId (.student row) ↔ db.home (.school row.schoolId) = some schoolId ∧
      db.home (.user row.tutorId) = some schoolId ∧
      ∀ id ∈ row.subjectId, db.home (.subject id) = some schoolId := by
  simp [Ownership.Belongs, tenants, Row.refs]

theorem belongs_group {row : Group} :
    db.Belongs schoolId (.group row) ↔ db.home (.school row.schoolId) = some schoolId ∧
      db.home (.user row.tutorId) = some schoolId ∧
      ∀ id ∈ row.subjectId, db.home (.subject id) = some schoolId := by
  simp [Ownership.Belongs, tenants, Row.refs]

theorem belongs_member {row : GroupMember} :
    db.Belongs schoolId (.member row) ↔ db.home (.group row.groupId) = some schoolId ∧
      db.home (.student row.studentId) = some schoolId := by
  simp [Ownership.Belongs, tenants, Row.refs]

theorem belongs_lesson {row : Lesson} :
    db.Belongs schoolId (.lesson row) ↔ db.home (.school row.schoolId) = some schoolId ∧
      db.home (.user row.tutorId) = some schoolId ∧
      (∀ id ∈ row.subjectId, db.home (.subject id) = some schoolId) ∧
      (∀ id ∈ row.studentId, db.home (.student id) = some schoolId) ∧
      ∀ id ∈ row.groupId, db.home (.group id) = some schoolId := by
  simp [Ownership.Belongs, tenants, Row.refs, or_imp, forall_and]

theorem belongs_attendance {row : LessonAttendance} :
    db.Belongs schoolId (.attendance row) ↔ db.home (.lesson row.lessonId) = some schoolId ∧
      db.home (.student row.studentId) = some schoolId := by
  simp [Ownership.Belongs, tenants, Row.refs]

theorem note_student_ref {row : Note} {id : Id} :
    .student id ∈ (Row.note row).refs ↔ row.studentId = some id := by
  obtain ⟨_, _, _, _, student, lesson⟩ := row
  cases student <;> cases lesson <;> simp [Row.refs, Note.parents, eq_comm]

theorem note_lesson_ref {row : Note} {id : Id} :
    .lesson id ∈ (Row.note row).refs ↔ row.lessonId = some id := by
  obtain ⟨_, _, _, _, student, lesson⟩ := row
  cases student <;> cases lesson <;> simp [Row.refs, Note.parents, eq_comm]

theorem note_group_ref {row : Note} {id : Id} : .group id ∉ (Row.note row).refs := by
  obtain ⟨_, _, _, _, student, lesson⟩ := row
  cases student <;> cases lesson <;> simp [Row.refs, Note.parents]

theorem belongs_note {row : Note} :
    db.Belongs schoolId (.note row) ↔ db.home (.user row.authorId) = some schoolId ∧
      (∀ id ∈ row.studentId, db.home (.student id) = some schoolId) ∧
      (∀ id ∈ row.lessonId, db.home (.lesson id) = some schoolId) ∧
      (row.studentId.isSome ∨ row.lessonId.isSome) := by
  obtain ⟨_, _, _, _, student, lesson⟩ := row
  cases student <;> cases lesson <;>
    simp [Ownership.Belongs, tenants, Row.refs, Note.parents, home]

theorem belongs_grade {row : Grade} :
    db.Belongs schoolId (.grade row) ↔ db.home (.student row.studentId) = some schoolId ∧
      db.home (.user row.authorId) = some schoolId ∧
      ∀ id ∈ row.lessonId, db.home (.lesson id) = some schoolId := by
  simp [Ownership.Belongs, tenants, Row.refs]

theorem belongs_file {row : File} :
    db.Belongs schoolId (.file row) ↔ db.home (.school row.schoolId) = some schoolId ∧
      db.home (.user row.uploadedById) = some schoolId ∧
      (∀ id ∈ row.studentId, db.home (.student id) = some schoolId) ∧
      ∀ id ∈ row.lessonId, db.home (.lesson id) = some schoolId := by
  simp [Ownership.Belongs, tenants, Row.refs, or_imp, forall_and]

theorem belongs_invitation {row : Invitation} :
    db.Belongs schoolId (.invitation row) ↔ db.home (.school row.schoolId) = some schoolId ∧
      db.home (.user row.invitedById) = some schoolId := by
  simp [Ownership.Belongs, tenants, Row.refs]

theorem belongs_addon {row : UserAddon} :
    db.Belongs schoolId (.addon row) ↔ db.home (.user row.userId) = some schoolId ∧
      ∀ id ∈ row.enabledById, db.home (.user id) = some schoolId := by
  simp [Ownership.Belongs, tenants, Row.refs]

theorem belongs_meetingAccount {row : MeetingAccount} :
    db.Belongs schoolId (.meetingAccount row) ↔ db.home (.user row.userId) = some schoolId := by
  simp [Ownership.Belongs, tenants, Row.refs]

theorem belongs_notification {row : Notification} :
    db.Belongs schoolId (.notification row) ↔ db.home (.user row.recipientId) = some schoolId := by
  simp [Ownership.Belongs, tenants, Row.refs]

theorem home_school {id : Id} :
    db.home (.school id) = some schoolId ↔ id = schoolId ∧ db.hasSchool id = true := by
  simp only [home, hasSchool, Option.map_eq_some_iff, Option.isSome_iff_exists]
  constructor
  · rintro ⟨row, found, rfl⟩
    exact ⟨(Table.find_eq_some.mp found).2.symm, row, found⟩
  · rintro ⟨rfl, row, found⟩
    exact ⟨row, found, (Table.find_eq_some.mp found).2⟩

/-- One reference is enough to tell whose a row is. -/
theorem Tenanted.belongs_via {ref : Ref} (tenanted : db.Tenanted) (row : Row)
    (present : db.Holds row) (member : ref ∈ row.refs) (leads : db.home ref = some schoolId) :
    db.Belongs schoolId row :=
  Ownership.Sound.belongs_via tenanted present member leads

/-- A row with a school column belongs to that school. -/
theorem Tenanted.belongs_own {id : Id} (tenanted : db.Tenanted) (row : Row) (present : db.Holds row)
    (member : .school id ∈ row.refs) : db.Belongs id row := by
  obtain ⟨schoolId, belongs⟩ := tenanted row present
  have home := belongs _ member
  rw [(home_school.mp home).1]
  exact belongs

end Db

end TutorApp
