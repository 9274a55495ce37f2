import TutorApp.Subjects

set_option autoImplicit false

namespace TutorApp

open Relational

namespace AddonsService

/-- An admin holds every capability without any grant. -/
def resolveFor (user : User) (db : Db) : List AddonKey :=
  if user.isAdmin then AddonKey.values
  else (db.addons.select fun row => row.userId == user.id).map UserAddon.addon

/-- A member's grants become exactly `addons`. -/
def setFor (admin : User) (userId : Id) (addons : List AddonKey) (db : Db) :
    Service (List AddonKey × Db) := do
  let target ← orNotFound ((db.users.find userId).filter fun row => row.schoolId == admin.schoolId)
    "Member not found"
  require (!target.isAdmin) (.forbidden "Admins already hold every capability")
  let unique := addons.eraseDups
  let db ← (db.deleteAddons userId unique).createAddons userId admin.id unique
  return (unique, db)

/-- Capabilities of every member of a school, by user id. -/
def mapForSchool (schoolId : Id) (db : Db) : List (Id × List AddonKey) :=
  let members := db.users.select fun row => row.schoolId == schoolId
  let rows := db.addons.select fun row => db.schoolOfUser row.userId == some schoolId
  members.map fun member =>
    (member.id, if member.isAdmin then AddonKey.values
      else (rows.filter fun row => row.userId == member.id).map UserAddon.addon)

/-- The grants that are left out go, and those that are not there yet come. -/
theorem setFor_ok {admin : User} {userId : Id} {addons unique : List AddonKey} {db next : Db} :
    setFor admin userId addons db = .ok (unique, next) ↔
      ∃ target, (db.users.find userId = some target ∧ target.schoolId = admin.schoolId) ∧
        target.isAdmin = false ∧
          (db.deleteAddons userId addons.eraseDups).createAddons userId admin.id
            addons.eraseDups = .ok next ∧ addons.eraseDups = unique := by
  simp only [setFor, bind_ok, exists_const, orNotFound_ok, Option.filter_eq_some_iff, beq_iff_eq,
    require_ok, Bool.not_eq_true', pure_ok, Prod.mk.injEq, exists_eq_right_right]

end AddonsService

end TutorApp
