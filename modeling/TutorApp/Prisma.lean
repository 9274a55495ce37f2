import TutorApp.Schema

set_option autoImplicit false

namespace TutorApp

open Relational

structure NamedRef where
  id : Id
  name : String
  deriving Repr, DecidableEq

/-- What still points at a subject. -/
structure SubjectUsage where
  subject : Subject
  students : List NamedRef
  groups : List NamedRef
  upcomingLessons : Nat
  pastLessons : Nat
  canHide : Bool
  deriving Repr, DecidableEq

/-- What a conflict carries besides its message. -/
inductive ConflictBody where
  | none
  | subject (code : String) (subject : Subject)
  | usage (code : String) (usage : SubjectUsage)
  deriving Repr, DecidableEq

/-- The exceptions a request can end in, by HTTP status. -/
inductive HttpError where
  | badRequest (message : String)
  | unauthorized
  | forbidden (message : String)
  | notFound (message : String)
  | conflict (message : String) (body : ConflictBody)
  | payloadTooLarge (message : String)
  | unsupportedMediaType (message : String)
  | internal
  deriving Repr, DecidableEq

abbrev Service (α : Type) := Except HttpError α

/-- P2002. -/
def uniqueViolation : HttpError := .conflict "That value is already taken" .none

/-- P2025. -/
def recordNotFound : HttpError := .notFound "Not found"

def require (condition : Bool) (error : HttpError) : Service Unit :=
  if condition then .ok () else .error error

/-- Ends the request when a check found a reason to. -/
def refuse : Option HttpError → Service Unit
  | some reason => .error reason
  | none => .ok ()

theorem bind_ok {α β : Type} {first : Service α} {next : α → Service β} {result : β} :
    (first >>= next) = .ok result ↔ ∃ value, first = .ok value ∧ next value = .ok result := by
  cases first with
  | error reason => simp only [bind, Except.bind, reduceCtorEq, false_and, exists_false]
  | ok value => simp only [bind, Except.bind, Except.ok.injEq, exists_eq_left']

theorem map_ok {α β : Type} {first : Service α} {f : α → β} {result : β} :
    first.map f = .ok result ↔ ∃ value, first = .ok value ∧ f value = result := by
  cases first with
  | error reason => simp only [Except.map, reduceCtorEq, false_and, exists_false]
  | ok value => simp only [Except.map, Except.ok.injEq, exists_eq_left']

@[simp] theorem error_bind {α β : Type} {reason : HttpError} {next : α → Service β} :
    ((.error reason : Service α) >>= next) = .error reason := rfl

@[simp] theorem ok_bind {α β : Type} {value : α} {next : α → Service β} :
    ((.ok value : Service α) >>= next) = next value := rfl

theorem isOk_bind_pure {α β : Type} {first : Service α} {f : α → β} :
    (first >>= fun value => pure (f value)).isOk = first.isOk := by cases first <;> rfl

theorem exists_of_isOk {α : Type} {result : Service α} (accepted : result.isOk = true) :
    ∃ value, result = .ok value := by
  cases result with
  | error reason => cases accepted
  | ok value => exact ⟨value, rfl⟩

/-- Two continuations that agree on what the first step can return. -/
theorem bind_congr_ok {α β : Type} {first : Service α} {next other : α → Service β}
    (same : ∀ value, first = .ok value → next value = other value) :
    (first >>= next) = first >>= other := by
  cases first with
  | error reason => rfl
  | ok value => exact same value rfl

theorem pure_ok {α : Type} {value result : α} :
    (pure value : Service α) = .ok result ↔ value = result := by
  simp only [pure, Except.pure, Except.ok.injEq]

theorem mapM_congr_mem {α β : Type} {f g : α → Service β} {elements : List α}
    (same : ∀ element ∈ elements, f element = g element) : elements.mapM f = elements.mapM g := by
  induction elements with
  | nil => rfl
  | cons element rest ih =>
      rw [List.mapM_cons, List.mapM_cons, same element List.mem_cons_self,
        ih fun other member => same other (List.mem_cons_of_mem element member)]

/-- Elements worked on in turn, each of which gives a value when its check passes. -/
theorem mapM_checked {α β : Type} {f : α → Service β} {check : α → Bool} {g : α → β}
    (each : ∀ element, f element = (require (check element) .internal).map fun _ => g element)
    (elements : List α) :
    elements.mapM f = (require (elements.all check) .internal).map fun _ => elements.map g := by
  induction elements with
  | nil => rfl
  | cons element rest ih =>
      rw [List.mapM_cons, each, ih, List.all_cons]
      cases check element <;> cases rest.all check <;> rfl

@[simp] theorem require_ok {condition : Bool} {error : HttpError} {result : Unit} :
    require condition error = .ok result ↔ condition = true := by
  unfold require
  split <;> simp_all

@[simp] theorem refuse_ok {reason : Option HttpError} {result : Unit} :
    refuse reason = .ok result ↔ reason = none := by
  cases reason <;> simp [refuse]

/-- A step that only checks has nothing to say. -/
theorem exists_unit_ok {check : Service Unit} {rest : Unit → Prop} :
    (∃ value, check = .ok value ∧ rest value) ↔ check = .ok () ∧ rest () := by
  constructor
  · rintro ⟨⟨⟩, passed, done⟩
    exact ⟨passed, done⟩
  · rintro ⟨passed, done⟩
    exact ⟨(), passed, done⟩

section Generic

variable {ρ κ : Type} [Keyed ρ κ] [DecidableEq κ]

/-- `create`: a taken primary key is a unique violation. -/
def createRow (table : Table ρ) (row : ρ) : Service (Table ρ) :=
  match table.insert? row with
  | some next => .ok next
  | none => .error uniqueViolation

/-- `update({ where: { id } })`: the row has to be there. -/
def updateRow (table : Table ρ) (k : κ) (change : ρ → ρ)
    (keeps : ∀ row, key (change row) = key row) : Service (Table ρ) := do
  require (table.find k).isSome recordNotFound
  return table.update (fun row => decide (key row = k)) change keeps

/-- `delete({ where: { id } })`. -/
def deleteRow (table : Table ρ) (k : κ) : Service (Table ρ) := do
  require (table.find k).isSome recordNotFound
  return table.delete fun row => decide (key row = k)

theorem createRow_ok {table next : Table ρ} {row : ρ} :
    createRow table row = .ok next ↔ table.insert? row = some next := by
  unfold createRow
  split <;> simp_all

theorem updateRow_ok {table next : Table ρ} {k : κ} {change : ρ → ρ}
    {keeps : ∀ row, key (change row) = key row} :
    updateRow table k change keeps = .ok next ↔
      (table.find k).isSome ∧ table.update (fun row => decide (key row = k)) change keeps = next := by
  simp only [updateRow, bind_ok, pure_ok, require_ok, exists_const]

/-- The rows after an update are the rows before it, the one under its key changed. -/
theorem of_mem_updateRow {table next : Table ρ} {k : κ} {change : ρ → ρ}
    {keeps : ∀ row, key (change row) = key row} (done : updateRow table k change keeps = .ok next)
    {row : ρ} (member : row ∈ next.rows) :
    row ∈ table.rows ∨ ∃ old ∈ table.rows, key old = k ∧ row = change old := by
  obtain ⟨-, rfl⟩ := updateRow_ok.mp done
  rcases Table.of_mem_update member with old | ⟨old, present, hit, rfl⟩
  · exact .inl old
  · exact .inr ⟨old, present, of_decide_eq_true hit, rfl⟩

theorem deleteRow_ok {table next : Table ρ} {k : κ} :
    deleteRow table k = .ok next ↔
      (table.find k).isSome ∧ table.delete (fun row => decide (key row = k)) = next := by
  simp only [deleteRow, bind_ok, pure_ok, require_ok, exists_const]

end Generic

/-- The range of a Postgres `integer` column. -/
def int4 (value : Int) : Bool := -2147483648 ≤ value && value ≤ 2147483647

/-- What a text column takes: any text without U+0000. -/
def textColumn (text : String) : Bool := text.toList.all fun c => c.toNat != 0

namespace Db

def hasSchool (db : Db) (id : Id) : Bool := (db.schools.find id).isSome
def hasUser (db : Db) (id : Id) : Bool := (db.users.find id).isSome
def hasSubject (db : Db) (id : Id) : Bool := (db.subjects.find id).isSome
def hasStudent (db : Db) (id : Id) : Bool := (db.students.find id).isSome
def hasGroup (db : Db) (id : Id) : Bool := (db.groups.find id).isSome
def hasLesson (db : Db) (id : Id) : Bool := (db.lessons.find id).isSome

def refersStudent (db : Db) (row : Student) : Bool :=
  db.hasSchool row.schoolId && db.hasUser row.tutorId && row.subjectId.all db.hasSubject

def refersGroup (db : Db) (row : Group) : Bool :=
  db.hasSchool row.schoolId && db.hasUser row.tutorId && row.subjectId.all db.hasSubject

def refersLesson (db : Db) (row : Lesson) : Bool :=
  db.hasSchool row.schoolId && db.hasUser row.tutorId && row.subjectId.all db.hasSubject &&
    row.studentId.all db.hasStudent && row.groupId.all db.hasGroup

def refersNote (db : Db) (row : Note) : Bool :=
  db.hasUser row.authorId && row.studentId.all db.hasStudent && row.lessonId.all db.hasLesson

def refersGrade (db : Db) (row : Grade) : Bool :=
  db.hasStudent row.studentId && row.lessonId.all db.hasLesson && db.hasUser row.authorId

def refersFile (db : Db) (row : File) : Bool :=
  db.hasSchool row.schoolId && db.hasUser row.uploadedById && row.studentId.all db.hasStudent &&
    row.lessonId.all db.hasLesson

def createSchool (row : School) (db : Db) : Service Db := do
  require (db.schools.rows.all fun other => other.slug != row.slug) uniqueViolation
  let schools ← createRow db.schools row
  return { db with schools }

def updateSchool (id : Id) (name timezone : Option String) (db : Db) : Service Db := do
  let schools ← updateRow db.schools id (fun row => { row with
    name := name.getD row.name, timezone := timezone.getD row.timezone }) (fun _ => rfl)
  return { db with schools }

def createUser (row : User) (db : Db) : Service Db := do
  require (db.hasSchool row.schoolId) .internal
  require (db.users.rows.all fun other => other.email != row.email) uniqueViolation
  let users ← createRow db.users row
  return { db with users }

def updateUserConfig (id : Id) (config : Js.Json) (db : Db) : Service Db := do
  let users ← updateRow db.users id (fun row => { row with config }) (fun _ => rfl)
  return { db with users }

def createSubject (row : Subject) (db : Db) : Service Db := do
  require (db.hasSchool row.schoolId) .internal
  require (db.subjects.rows.all fun other =>
    !(other.schoolId == row.schoolId && other.name == row.name)) uniqueViolation
  let subjects ← createRow db.subjects row
  return { db with subjects }

/-- The unique index on (school, name) is case-sensitive. -/
def renameSubject (id : Id) (name : String) (db : Db) : Service Db := do
  let clashes := match db.subjects.find id with
    | some row => db.subjects.rows.any fun other =>
        other.id != id && other.schoolId == row.schoolId && other.name == name
    | none => false
  require (!clashes) uniqueViolation
  let subjects ← updateRow db.subjects id (fun row => { row with name }) (fun _ => rfl)
  return { db with subjects }

def hideSubject (id : Id) (hiddenAt : Option Js.Instant) (db : Db) : Service Db := do
  let subjects ← updateRow db.subjects id (fun row => { row with hiddenAt }) (fun _ => rfl)
  return { db with subjects }

def createStudent (row : Student) (db : Db) : Service Db := do
  require (db.refersStudent row) .internal
  require (int4 row.paidLessonsLeft) .internal
  let students ← createRow db.students row
  return { db with students }

/-- What an edit sets: `none` leaves the column alone. -/
structure StudentPatch where
  name : Option String
  subjectId : Option (Option Id)
  paidLessonsLeft : Option Int

def StudentPatch.apply (patch : StudentPatch) (row : Student) : Student :=
  { row with
    name := patch.name.getD row.name
    subjectId := patch.subjectId.getD row.subjectId
    paidLessonsLeft := patch.paidLessonsLeft.getD row.paidLessonsLeft }

theorem StudentPatch.key_apply (patch : StudentPatch) (row : Student) : key (patch.apply row) = key row := rfl

def updateStudent (id : Id) (patch : StudentPatch) (db : Db) : Service Db := do
  require (patch.paidLessonsLeft.all int4) .internal
  require (patch.subjectId.all fun subject => subject.all db.hasSubject) .internal
  let students ← updateRow db.students id patch.apply patch.key_apply
  return { db with students }

/-- `paidLessonsLeft: { increment }`, computed from the row as it stands. -/
def creditStudent (id : Id) (amount : Int) (db : Db) : Db :=
  { db with
    students := db.students.update (fun row => decide (key row = id))
      (fun row => { row with paidLessonsLeft := row.paidLessonsLeft + amount }) (fun _ => rfl) }

def addLessons (id : Id) (amount : Int) (db : Db) : Service Db := do
  require ((db.students.find id).all fun row => int4 (row.paidLessonsLeft + amount)) .internal
  require (db.hasStudent id) recordNotFound
  return db.creditStudent id amount

/-- Whether the lesson under this id is among those a delete removes. -/
def lessonGone (db : Db) (gone : Lesson → Bool) (id : Id) : Bool :=
  (db.lessons.find id).any gone

/-- Lessons go with their register, notes and files; marks only lose the reference. -/
def dropLessons (gone : Lesson → Bool) (db : Db) : Db :=
  { db with
    lessons := db.lessons.delete gone
    attendances := db.attendances.delete fun row => db.lessonGone gone row.lessonId
    notes := db.notes.delete fun row => row.lessonId.any (db.lessonGone gone)
    files := db.files.delete fun row => row.lessonId.any (db.lessonGone gone)
    grades := db.grades.update (fun row => row.lessonId.any (db.lessonGone gone))
      (fun row => { row with lessonId := none }) (fun _ => rfl) }

def dropStudent (id : Id) (db : Db) : Db :=
  { db with
    students := db.students.delete fun row => row.id == id
    members := db.members.delete fun row => row.studentId == id
    attendances := db.attendances.delete fun row => row.studentId == id
    notes := db.notes.delete fun row => row.studentId == some id
    grades := db.grades.delete fun row => row.studentId == id
    files := db.files.delete fun row => row.studentId == some id }

def deleteStudent (id : Id) (db : Db) : Service Db := do
  require (db.hasStudent id) recordNotFound
  return (db.dropLessons fun row => row.studentId == some id).dropStudent id

def createGroup (row : Group) (db : Db) : Service Db := do
  require (db.refersGroup row) .internal
  let groups ← createRow db.groups row
  return { db with groups }

structure GroupPatch where
  name : Option String
  subjectId : Option (Option Id)
  level : Option (Option String)

def GroupPatch.apply (patch : GroupPatch) (row : Group) : Group :=
  { row with
    name := patch.name.getD row.name
    subjectId := patch.subjectId.getD row.subjectId
    level := patch.level.getD row.level }

theorem GroupPatch.key_apply (patch : GroupPatch) (row : Group) : key (patch.apply row) = key row := rfl

def updateGroup (id : Id) (patch : GroupPatch) (db : Db) : Service Db := do
  require (patch.subjectId.all fun subject => subject.all db.hasSubject) .internal
  let groups ← updateRow db.groups id patch.apply patch.key_apply
  return { db with groups }

def dropGroup (id : Id) (db : Db) : Db :=
  { db with
    groups := db.groups.delete fun row => row.id == id
    members := db.members.delete fun row => row.groupId == id }

def deleteGroup (id : Id) (db : Db) : Service Db := do
  require (db.hasGroup id) recordNotFound
  return (db.dropLessons fun row => row.groupId == some id).dropGroup id

/-- The upsert with an empty update. -/
def upsertMember (row : GroupMember) (db : Db) : Service Db := do
  require (db.hasGroup row.groupId && db.hasStudent row.studentId) .internal
  match db.members.insert? row with
  | some members => return { db with members }
  | none => return db

def deleteMember (groupId studentId : Id) (db : Db) : Db :=
  { db with members := db.members.delete fun row =>
      row.groupId == groupId && row.studentId == studentId }

def createLesson (row : Lesson) (db : Db) : Service Db := do
  require (db.refersLesson row && row.meetingUrl.all textColumn) .internal
  let lessons ← createRow db.lessons row
  return { db with lessons }

/-- The columns a write-up may set; `none` leaves one alone. -/
structure LessonPatch where
  topic : Option (Option String)
  homework : Option (Option String)
  status : Option LessonStatus
  deriving Repr, DecidableEq

def LessonPatch.apply (patch : LessonPatch) (row : Lesson) : Lesson :=
  { row with
    topic := patch.topic.getD row.topic
    homework := patch.homework.getD row.homework
    status := patch.status.getD row.status }

theorem LessonPatch.key_apply (patch : LessonPatch) (row : Lesson) : key (patch.apply row) = key row := rfl

def updateLesson (id : Id) (patch : LessonPatch) (db : Db) : Service Db := do
  let lessons ← updateRow db.lessons id patch.apply patch.key_apply
  return { db with lessons }

/-- The register after an upsert. `homeworkDone` is `none` when the update leaves it alone; a
new row then has null. -/
def putAttendance (lessonId studentId : Id) (status : AttendanceStatus)
    (homeworkDone : Option (Option Bool)) (db : Db) : Db :=
  { db with
    attendances := db.attendances.upsert ⟨lessonId, studentId, status, homeworkDone.getD none⟩
      (fun row => { row with status, homeworkDone := homeworkDone.getD row.homeworkDone })
      (fun _ => rfl) }

def upsertAttendance (lessonId studentId : Id) (status : AttendanceStatus)
    (homeworkDone : Option (Option Bool)) (db : Db) : Service Db := do
  require (db.hasLesson lessonId && db.hasStudent studentId) .internal
  return db.putAttendance lessonId studentId status homeworkDone

def createNote (row : Note) (db : Db) : Service Db := do
  require (db.refersNote row) .internal
  let notes ← createRow db.notes row
  return { db with notes }

def deleteNote (id : Id) (db : Db) : Service Db := do
  let notes ← deleteRow db.notes id
  return { db with notes }

def createGrade (row : Grade) (db : Db) : Service Db := do
  require (db.refersGrade row) .internal
  let grades ← createRow db.grades row
  return { db with grades }

/-- The columns a mark's payload becomes. -/
structure GradeData where
  kind : GradeKind
  value : Option ℚ
  category : Option String
  comment : Option String
  weight : Int
  deriving Repr, DecidableEq

def GradeData.apply (data : GradeData) (row : Grade) : Grade :=
  { row with
    kind := data.kind, value := data.value, category := data.category,
    comment := data.comment, weight := data.weight }

theorem GradeData.key_apply (data : GradeData) (row : Grade) : key (data.apply row) = key row := rfl

def updateGrade (id : Id) (data : GradeData) (db : Db) : Service Db := do
  let grades ← updateRow db.grades id data.apply data.key_apply
  return { db with grades }

def deleteGrade (id : Id) (db : Db) : Service Db := do
  let grades ← deleteRow db.grades id
  return { db with grades }

def createFile (row : File) (db : Db) : Service Db := do
  require (db.refersFile row) .internal
  require (int4 row.sizeBytes) .internal
  require (db.files.rows.all fun other => other.storageKey != row.storageKey) uniqueViolation
  let files ← createRow db.files row
  return { db with files }

/-- The finalising update of an upload; the key must not belong to another row. -/
def finaliseFile (id : Id) (storageKey : String) (uploadedAt : Js.Instant) (db : Db) :
    Service Db := do
  require (db.files.rows.all fun other => other.id == id || other.storageKey != storageKey)
    uniqueViolation
  let files ← updateRow db.files id (fun row => { row with
    storageKey, uploadedAt := some uploadedAt }) (fun _ => rfl)
  return { db with files }

def deleteFile (id : Id) (db : Db) : Service Db := do
  let files ← deleteRow db.files id
  return { db with files }

/-- The upsert on (school, email); a resend keeps the id, the role and the creation time. -/
def upsertInvitation (row : Invitation) (db : Db) : Service Db := do
  require (db.hasSchool row.schoolId && db.hasUser row.invitedById) .internal
  let sameAddress := fun other : Invitation =>
    other.schoolId == row.schoolId && other.email == row.email
  require (db.invitations.rows.all fun other => sameAddress other || other.token != row.token)
    uniqueViolation
  if db.invitations.rows.any sameAddress then
    let invitations := db.invitations.update sameAddress (fun other => { other with
      token := row.token, expiresAt := row.expiresAt, acceptedAt := none,
      invitedById := row.invitedById }) (fun _ => rfl)
    return { db with invitations }
  else
    let invitations ← createRow db.invitations row
    return { db with invitations }

/-- The conditional `updateMany` that claims an invitation, with the number of rows it hit. -/
def claimInvitation (id : Id) (now : Js.Instant) (db : Db) : Nat × Db :=
  let open_ := fun row : Invitation => row.id == id && row.acceptedAt.isNone
  let invitations := db.invitations.update open_ (fun row => { row with acceptedAt := some now })
    (fun _ => rfl)
  ((db.invitations.select open_).length, { db with invitations })

def deleteInvitations (id schoolId : Id) (db : Db) : Nat × Db :=
  let hit := fun row : Invitation => row.id == id && row.schoolId == schoolId
  ((db.invitations.select hit).length, { db with invitations := db.invitations.delete hit })

/-- `deleteMany({ userId, addon: { notIn } })`. -/
def deleteAddons (userId : Id) (kept : List AddonKey) (db : Db) : Db :=
  { db with addons := db.addons.delete fun row => row.userId == userId && !kept.contains row.addon }

/-- One row of `createMany` with `skipDuplicates`. -/
def createAddon (row : UserAddon) (db : Db) : Db :=
  match db.addons.insert? row with
  | some addons => { db with addons }
  | none => db

/-- `createMany`; the user and the granter are checked once for all rows. -/
def createAddons (userId enabledById : Id) (addons : List AddonKey) (db : Db) : Service Db := do
  require (addons.isEmpty || (db.hasUser userId && db.hasUser enabledById)) .internal
  return addons.foldl (fun db addon => db.createAddon ⟨userId, addon, some enabledById⟩) db

/-- The upsert on (user, provider). -/
def upsertMeetingAccount (row : MeetingAccount) (db : Db) : Service Db := do
  require (db.hasUser row.userId) .internal
  let same := fun other : MeetingAccount => other.userId == row.userId && other.provider == row.provider
  if db.meetingAccounts.rows.any same then
    let meetingAccounts := db.meetingAccounts.update same (fun other => { other with
      refreshToken := row.refreshToken, accessToken := row.accessToken,
      accessTokenExpiresAt := row.accessTokenExpiresAt, accountLabel := row.accountLabel })
      (fun _ => rfl)
    return { db with meetingAccounts }
  else
    let meetingAccounts ← createRow db.meetingAccounts row
    return { db with meetingAccounts }

/-- Writing back what a refresh produced. -/
def updateMeetingAccount (id : Id) (refreshToken accessToken : String) (expiresAt : Js.Instant)
    (db : Db) : Service Db := do
  let meetingAccounts ← updateRow db.meetingAccounts id (fun row => { row with
    refreshToken, accessToken := some accessToken, accessTokenExpiresAt := some expiresAt })
    (fun _ => rfl)
  return { db with meetingAccounts }

/-- `delete(...).catch(() => null)`: a missing row is no error. -/
def forgetMeetingAccount (id : Id) (db : Db) : Db :=
  { db with meetingAccounts := db.meetingAccounts.delete fun row => row.id == id }

def deleteMeetingAccounts (userId : Id) (provider : MeetingProvider) (db : Db) : Nat × Db :=
  let hit := fun row : MeetingAccount => row.userId == userId && row.provider == provider
  ((db.meetingAccounts.select hit).length,
    { db with meetingAccounts := db.meetingAccounts.delete hit })

def createNotifications (rows : List Notification) (db : Db) : Db :=
  { db with notifications := db.notifications ++ rows }

variable {db next : Db} {id : Id}

theorem createSchool_ok {row : School} : db.createSchool row = .ok next ↔
    (∀ other ∈ db.schools.rows, other.slug ≠ row.slug) ∧
      ∃ schools, db.schools.insert? row = some schools ∧ { db with schools } = next := by
  simp only [createSchool, bind_ok, require_ok, createRow_ok, pure_ok, exists_const,
    List.all_eq_true, bne_iff_ne]

theorem updateSchool_ok {name timezone : Option String} :
    db.updateSchool id name timezone = .ok next ↔
      ∃ schools, updateRow db.schools id (fun row => { row with
          name := name.getD row.name, timezone := timezone.getD row.timezone }) (fun _ => rfl) =
        .ok schools ∧ { db with schools } = next := by
  simp only [updateSchool, bind_ok, pure_ok]

theorem createUser_ok {row : User} : db.createUser row = .ok next ↔
    db.hasSchool row.schoolId = true ∧
      (∀ other ∈ db.users.rows, other.email ≠ row.email) ∧
        ∃ users, db.users.insert? row = some users ∧ { db with users } = next := by
  simp only [createUser, bind_ok, require_ok, createRow_ok, pure_ok, exists_const,
    List.all_eq_true, bne_iff_ne]

theorem updateUserConfig_ok {config : Js.Json} : db.updateUserConfig id config = .ok next ↔
    ∃ users, updateRow db.users id (fun row => { row with config }) (fun _ => rfl) = .ok users ∧
      { db with users } = next := by
  simp only [updateUserConfig, bind_ok, pure_ok]

theorem createSubject_ok {row : Subject} : db.createSubject row = .ok next ↔
    db.hasSchool row.schoolId = true ∧
      (db.subjects.rows.all fun other =>
          !(other.schoolId == row.schoolId && other.name == row.name)) = true ∧
        ∃ subjects, db.subjects.insert? row = some subjects ∧ { db with subjects } = next := by
  simp only [createSubject, bind_ok, require_ok, createRow_ok, pure_ok, exists_const]

/-- No other subject of the school has the new name, letter for letter. -/
theorem renameSubject_ok {name : String} : db.renameSubject id name = .ok next ↔
    (∀ row ∈ db.subjects.find id, (db.subjects.rows.any fun other =>
        other.id != id && other.schoolId == row.schoolId && other.name == name) = false) ∧
      ∃ subjects, updateRow db.subjects id (fun row => { row with name }) (fun _ => rfl) =
        .ok subjects ∧ { db with subjects } = next := by
  simp only [renameSubject, bind_ok, require_ok, pure_ok, exists_const, Bool.not_eq_true']
  cases db.subjects.find id <;> simp

theorem hideSubject_ok {hiddenAt : Option Js.Instant} : db.hideSubject id hiddenAt = .ok next ↔
    ∃ subjects, updateRow db.subjects id (fun row => { row with hiddenAt }) (fun _ => rfl) =
      .ok subjects ∧ { db with subjects } = next := by
  simp only [hideSubject, bind_ok, pure_ok]

theorem createStudent_ok {row : Student} : db.createStudent row = .ok next ↔
    db.refersStudent row = true ∧ int4 row.paidLessonsLeft = true ∧
      ∃ students, db.students.insert? row = some students ∧ { db with students } = next := by
  simp only [createStudent, bind_ok, require_ok, createRow_ok, pure_ok, exists_const]

theorem updateStudent_ok {patch : StudentPatch} : db.updateStudent id patch = .ok next ↔
    patch.paidLessonsLeft.all int4 = true ∧
      (patch.subjectId.all fun subject => subject.all db.hasSubject) = true ∧
        ∃ students, updateRow db.students id patch.apply patch.key_apply = .ok students ∧
          { db with students } = next := by
  simp only [updateStudent, bind_ok, require_ok, pure_ok, exists_const]

theorem addLessons_ok {amount : Int} : db.addLessons id amount = .ok next ↔
    ((db.students.find id).all fun row => int4 (row.paidLessonsLeft + amount)) = true ∧
      db.hasStudent id = true ∧ db.creditStudent id amount = next := by
  simp only [addLessons, bind_ok, require_ok, pure_ok, exists_const]

theorem deleteStudent_ok : db.deleteStudent id = .ok next ↔
    db.hasStudent id = true ∧
      (db.dropLessons fun row => row.studentId == some id).dropStudent id = next := by
  simp only [deleteStudent, bind_ok, require_ok, pure_ok, exists_const]

theorem createGroup_ok {row : Group} : db.createGroup row = .ok next ↔
    db.refersGroup row = true ∧
      ∃ groups, db.groups.insert? row = some groups ∧ { db with groups } = next := by
  simp only [createGroup, bind_ok, require_ok, createRow_ok, pure_ok, exists_const]

theorem updateGroup_ok {patch : GroupPatch} : db.updateGroup id patch = .ok next ↔
    (patch.subjectId.all fun subject => subject.all db.hasSubject) = true ∧
      ∃ groups, updateRow db.groups id patch.apply patch.key_apply = .ok groups ∧
        { db with groups } = next := by
  simp only [updateGroup, bind_ok, require_ok, pure_ok, exists_const]

theorem deleteGroup_ok : db.deleteGroup id = .ok next ↔
    db.hasGroup id = true ∧
      (db.dropLessons fun row => row.groupId == some id).dropGroup id = next := by
  simp only [deleteGroup, bind_ok, require_ok, pure_ok, exists_const]

theorem upsertMember_ok {row : GroupMember} : db.upsertMember row = .ok next ↔
    (db.hasGroup row.groupId && db.hasStudent row.studentId) = true ∧
      ((∃ members, db.members.insert? row = some members ∧ { db with members } = next) ∨
        db.members.insert? row = none ∧ db = next) := by
  simp only [upsertMember, bind_ok, require_ok, exists_const]
  cases db.members.insert? row <;> simp [pure_ok]

theorem createLesson_ok {row : Lesson} : db.createLesson row = .ok next ↔
    (db.refersLesson row && row.meetingUrl.all textColumn) = true ∧
      ∃ lessons, db.lessons.insert? row = some lessons ∧ { db with lessons } = next := by
  simp only [createLesson, bind_ok, require_ok, createRow_ok, pure_ok, exists_const]

theorem createLesson_isOk {row : Lesson} : (db.createLesson row).isOk = true ↔
    db.refersLesson row = true ∧ row.meetingUrl.all textColumn = true ∧
      db.lessons.find row.id = none := by
  constructor
  · intro accepted
    obtain ⟨next, done⟩ := exists_of_isOk accepted
    obtain ⟨checked, lessons, inserted, -⟩ := createLesson_ok.mp done
    rw [Bool.and_eq_true] at checked
    exact ⟨checked.1, checked.2, (Table.insert?_eq_some.mp inserted).1⟩
  · rintro ⟨refers, plain, free⟩
    cases inserted : db.lessons.insert? row with
    | some lessons =>
        rw [createLesson_ok.mpr ⟨by rw [refers, plain, Bool.and_self], lessons, inserted, rfl⟩]
        rfl
    | none =>
        have taken := Table.insert?_eq_none.mp inserted
        rw [show db.lessons.find (key row) = none from free] at taken
        cases taken

theorem updateLesson_ok {patch : LessonPatch} : db.updateLesson id patch = .ok next ↔
    ∃ lessons, updateRow db.lessons id patch.apply patch.key_apply = .ok lessons ∧
      { db with lessons } = next := by
  simp only [updateLesson, bind_ok, pure_ok]

theorem upsertAttendance_ok {lessonId studentId : Id} {status : AttendanceStatus}
    {homeworkDone : Option (Option Bool)} :
    db.upsertAttendance lessonId studentId status homeworkDone = .ok next ↔
      (db.hasLesson lessonId && db.hasStudent studentId) = true ∧
        db.putAttendance lessonId studentId status homeworkDone = next := by
  simp only [upsertAttendance, bind_ok, require_ok, pure_ok, exists_const]

theorem createNote_ok {row : Note} : db.createNote row = .ok next ↔
    db.refersNote row = true ∧
      ∃ notes, db.notes.insert? row = some notes ∧ { db with notes } = next := by
  simp only [createNote, bind_ok, require_ok, createRow_ok, pure_ok, exists_const]

theorem deleteNote_ok : db.deleteNote id = .ok next ↔
    ∃ notes, deleteRow db.notes id = .ok notes ∧ { db with notes } = next := by
  simp only [deleteNote, bind_ok, pure_ok]

theorem createGrade_ok {row : Grade} : db.createGrade row = .ok next ↔
    db.refersGrade row = true ∧
      ∃ grades, db.grades.insert? row = some grades ∧ { db with grades } = next := by
  simp only [createGrade, bind_ok, require_ok, createRow_ok, pure_ok, exists_const]

theorem updateGrade_ok {data : GradeData} : db.updateGrade id data = .ok next ↔
    ∃ grades, updateRow db.grades id data.apply data.key_apply = .ok grades ∧
      { db with grades } = next := by
  simp only [updateGrade, bind_ok, pure_ok]

theorem deleteGrade_ok : db.deleteGrade id = .ok next ↔
    ∃ grades, deleteRow db.grades id = .ok grades ∧ { db with grades } = next := by
  simp only [deleteGrade, bind_ok, pure_ok]

theorem createFile_ok {row : File} : db.createFile row = .ok next ↔
    db.refersFile row = true ∧ int4 row.sizeBytes = true ∧
      (∀ other ∈ db.files.rows, other.storageKey ≠ row.storageKey) ∧
        ∃ files, db.files.insert? row = some files ∧ { db with files } = next := by
  simp only [createFile, bind_ok, require_ok, createRow_ok, pure_ok, exists_const,
    List.all_eq_true, bne_iff_ne]

theorem finaliseFile_ok {storageKey : String} {uploadedAt : Js.Instant} :
    db.finaliseFile id storageKey uploadedAt = .ok next ↔
      (db.files.rows.all fun other => other.id == id || other.storageKey != storageKey) = true ∧
        ∃ files, updateRow db.files id (fun row => { row with
            storageKey, uploadedAt := some uploadedAt }) (fun _ => rfl) = .ok files ∧
          { db with files } = next := by
  simp only [finaliseFile, bind_ok, require_ok, pure_ok, exists_const]

theorem deleteFile_ok : db.deleteFile id = .ok next ↔
    ∃ files, deleteRow db.files id = .ok files ∧ { db with files } = next := by
  simp only [deleteFile, bind_ok, pure_ok]

theorem createAddons_ok {userId enabledById : Id} {addons : List AddonKey} :
    db.createAddons userId enabledById addons = .ok next ↔
      (addons.isEmpty || (db.hasUser userId && db.hasUser enabledById)) = true ∧
        addons.foldl (fun db addon => db.createAddon ⟨userId, addon, some enabledById⟩) db = next := by
  simp only [createAddons, bind_ok, require_ok, pure_ok, exists_const]

theorem updateMeetingAccount_ok {refreshToken accessToken : String} {expiresAt : Js.Instant} :
    db.updateMeetingAccount id refreshToken accessToken expiresAt = .ok next ↔
      ∃ meetingAccounts, updateRow db.meetingAccounts id (fun row => { row with
          refreshToken, accessToken := some accessToken, accessTokenExpiresAt := some expiresAt })
          (fun _ => rfl) = .ok meetingAccounts ∧ { db with meetingAccounts } = next := by
  simp only [updateMeetingAccount, bind_ok, pure_ok]

/-- An invitation for the same address is renewed, and a new row inserted where there is none. -/
theorem upsertInvitation_ok {row : Invitation} : db.upsertInvitation row = .ok next ↔
    (db.hasSchool row.schoolId && db.hasUser row.invitedById) = true ∧
      (db.invitations.rows.all fun other =>
        (other.schoolId == row.schoolId && other.email == row.email) ||
          other.token != row.token) = true ∧
        if db.invitations.rows.any fun other =>
            other.schoolId == row.schoolId && other.email == row.email then
          { db with
            invitations := db.invitations.update
              (fun other => other.schoolId == row.schoolId && other.email == row.email)
              (fun other => { other with
                token := row.token, expiresAt := row.expiresAt, acceptedAt := none,
                invitedById := row.invitedById }) (fun _ => rfl) } = next
        else ∃ invitations, db.invitations.insert? row = some invitations ∧
          { db with invitations } = next := by
  simp only [upsertInvitation, bind_ok, require_ok, exists_const]
  refine and_congr_right fun _ => and_congr_right fun _ => ?_
  split
  · rw [pure_ok]
  · simp only [bind_ok, createRow_ok, pure_ok]

/-- The row for the same user and provider is renewed, and a new one inserted where there is none. -/
theorem upsertMeetingAccount_ok {row : MeetingAccount} : db.upsertMeetingAccount row = .ok next ↔
    db.hasUser row.userId = true ∧
      if db.meetingAccounts.rows.any fun other =>
          other.userId == row.userId && other.provider == row.provider then
        { db with
          meetingAccounts := db.meetingAccounts.update
            (fun other => other.userId == row.userId && other.provider == row.provider)
            (fun other => { other with
              refreshToken := row.refreshToken, accessToken := row.accessToken,
              accessTokenExpiresAt := row.accessTokenExpiresAt, accountLabel := row.accountLabel })
            (fun _ => rfl) } = next
      else ∃ meetingAccounts, db.meetingAccounts.insert? row = some meetingAccounts ∧
        { db with meetingAccounts } = next := by
  simp only [upsertMeetingAccount, bind_ok, require_ok, exists_const]
  refine and_congr_right fun _ => ?_
  split
  · rw [pure_ok]
  · simp only [bind_ok, createRow_ok, pure_ok]

theorem upsertMeetingAccount_frame {row : MeetingAccount}
    (done : db.upsertMeetingAccount row = .ok next) :
    ∃ meetingAccounts, next = { db with meetingAccounts } := by
  obtain ⟨-, stored⟩ := upsertMeetingAccount_ok.mp done
  split at stored
  · exact ⟨_, stored.symm⟩
  · obtain ⟨meetingAccounts, -, rfl⟩ := stored
    exact ⟨meetingAccounts, rfl⟩

end Db

end TutorApp
