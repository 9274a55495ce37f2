import TutorApp.Students

set_option autoImplicit false

namespace TutorApp

open Relational

structure MemberView where
  id : Id
  name : String
  subject : Option SubjectRef
  paidLessonsLeft : Int
  deriving Repr, DecidableEq

/-- A group with its subject and who is in it. -/
structure GroupView where
  group : Group
  subject : Option SubjectRef
  members : List MemberView
  deriving Repr, DecidableEq

/-- The students of a group's memberships, by name. -/
def Db.membersOf (db : Db) (platform : Platform) (groupId : Id) : List Student :=
  sortByText platform Student.name
    ((db.members.select fun row => row.groupId == groupId).filterMap fun row =>
      db.students.find row.studentId)

def Db.groupView (db : Db) (platform : Platform) (group : Group) : GroupView where
  group := group
  subject := db.subjectRef group.subjectId
  members := (db.membersOf platform group.id).map fun row =>
    ⟨row.id, row.name, db.subjectRef row.subjectId, row.paidLessonsLeft⟩

structure CreateGroupDto where
  name : String
  subjectId : Id
  level : Js.Field String
  deriving Repr, DecidableEq

structure UpdateGroupDto where
  name : Js.Field String
  subjectId : Js.Field Id
  level : Js.Field String
  deriving Repr, DecidableEq

namespace GroupsService

variable (platform : Platform) (user : User)

def findVisible (db : Db) : List GroupView :=
  (sortByText platform Group.name (db.groups.select fun row =>
    user.owns row.schoolId row.tutorId)).map (db.groupView platform)

/-- Not-found for a colleague's group too. -/
def findOne (id : Id) (db : Db) : Service Group :=
  orNotFound ((db.groups.find id).filter fun row => user.owns row.schoolId row.tutorId)
    "Group not found"

theorem findOne_ok {id : Id} {db : Db} {group : Group} :
    findOne user id db = .ok group ↔
      db.groups.find id = some group ∧ user.owns group.schoolId group.tutorId = true := by
  rw [findOne, orNotFound_ok, Option.filter_eq_some_iff]

def detail (id : Id) (db : Db) : Service GroupView := do
  let group ← findOne user id db
  return db.groupView platform group

def create (draw : Draw) (dto : CreateGroupDto) (db : Db) : Service (GroupView × Db) := do
  let subjectId ← SubjectsService.resolve user (some dto.subjectId) none db
  let row : Group :=
    ⟨draw.id, Js.trim dto.name, Js.blankToNull dto.level.toOption, user.schoolId, user.id, subjectId⟩
  let db ← db.createGroup row
  return (db.groupView platform row, db)

/-- A null level is read as a text and throws. -/
def levelPatch : Js.Field String → Service (Option (Option String))
  | .absent => .ok none
  | .null => .error .internal
  | .given level => .ok (some (Js.blankToNull (some level)))

def update (id : Id) (dto : UpdateGroupDto) (db : Db) : Service (GroupView × Db) := do
  let group ← findOne user id db
  let name := dto.name.toOption.map Js.trim
  let subjectId ← StudentsService.subjectPatch user dto.subjectId group.subjectId db
  let level ← levelPatch dto.level
  let patch : Db.GroupPatch := ⟨name, subjectId, level⟩
  let db ← db.updateGroup group.id patch
  return (db.groupView platform (patch.apply group), db)

def remove (id : Id) (db : Db) : Service Db := do
  let group ← findOne user id db
  db.deleteGroup group.id

/-- Adding somebody who is already in is no error. -/
def addMember (groupId studentId : Id) (db : Db) : Service (GroupView × Db) := do
  let group ← findOne user groupId db
  let student ← StudentsService.findOne user studentId db
  let db ← db.upsertMember ⟨group.id, student.id⟩
  let view ← detail platform user group.id db
  return (view, db)

def removeMember (groupId studentId : Id) (db : Db) : Service (GroupView × Db) := do
  let group ← findOne user groupId db
  let db := db.deleteMember group.id studentId
  let view ← detail platform user group.id db
  return (view, db)

section

variable {platform user} {draw : Draw} {id groupId studentId : Id} {db next : Db}
  {view : GroupView}

theorem create_ok {dto : CreateGroupDto} : create platform user draw dto db = .ok (view, next) ↔
    ∃ subjectId, SubjectsService.resolve user (some dto.subjectId) none db = .ok subjectId ∧
      db.createGroup ⟨draw.id, Js.trim dto.name, Js.blankToNull dto.level.toOption,
        user.schoolId, user.id, subjectId⟩ = .ok next ∧
      next.groupView platform ⟨draw.id, Js.trim dto.name, Js.blankToNull dto.level.toOption,
        user.schoolId, user.id, subjectId⟩ = view := by
  simp only [create, bind_ok, pure_ok, Prod.mk.injEq, exists_eq_right_right]

theorem update_ok {dto : UpdateGroupDto} :
    update platform user id dto db = .ok (view, next) ↔
      ∃ group, findOne user id db = .ok group ∧
        ∃ subjectId, StudentsService.subjectPatch user dto.subjectId group.subjectId db =
            .ok subjectId ∧
          ∃ level, levelPatch dto.level = .ok level ∧
            db.updateGroup group.id ⟨dto.name.toOption.map Js.trim, subjectId, level⟩ =
              .ok next ∧
            next.groupView platform (Db.GroupPatch.apply
              ⟨dto.name.toOption.map Js.trim, subjectId, level⟩ group) = view := by
  simp only [update, bind_ok, pure_ok, Prod.mk.injEq, exists_eq_right_right]

theorem remove_ok : remove user id db = .ok next ↔
    ∃ group, findOne user id db = .ok group ∧ db.deleteGroup group.id = .ok next := by
  simp only [remove, bind_ok]

theorem addMember_ok : addMember platform user groupId studentId db = .ok (view, next) ↔
    ∃ group, findOne user groupId db = .ok group ∧
      ∃ student, StudentsService.findOne user studentId db = .ok student ∧
        db.upsertMember ⟨group.id, student.id⟩ = .ok next ∧
          detail platform user group.id next = .ok view := by
  simp only [addMember, bind_ok, pure_ok, Prod.mk.injEq]
  refine exists_congr fun group => and_congr_right fun _ => exists_congr fun student =>
    and_congr_right fun _ => ?_
  constructor
  · rintro ⟨_, added, _, shown, rfl, rfl⟩
    exact ⟨added, shown⟩
  · rintro ⟨added, shown⟩
    exact ⟨next, added, view, shown, rfl, rfl⟩

theorem removeMember_ok : removeMember platform user groupId studentId db = .ok (view, next) ↔
    ∃ group, findOne user groupId db = .ok group ∧
      detail platform user group.id (db.deleteMember group.id studentId) = .ok view ∧
        db.deleteMember group.id studentId = next := by
  simp only [removeMember, bind_ok, pure_ok, Prod.mk.injEq]
  refine exists_congr fun group => and_congr_right fun _ => ?_
  constructor
  · rintro ⟨_, shown, rfl, rfl⟩
    exact ⟨shown, rfl⟩
  · rintro ⟨shown, rfl⟩
    exact ⟨view, shown, rfl, rfl⟩

end

end GroupsService

end TutorApp
