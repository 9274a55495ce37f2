import TutorApp.Addons

set_option autoImplicit false

namespace TutorApp

open Relational

structure RegisterSchoolDto where
  schoolName : String
  slug : Js.Field String
  timezone : Js.Field String
  adminName : String
  adminEmail : String
  deriving Repr, DecidableEq

structure UpdateSchoolDto where
  name : Js.Field String
  timezone : Js.Field String
  deriving Repr, DecidableEq

structure CreateTutorDto where
  name : String
  email : String
  deriving Repr, DecidableEq

/-- `TUTOR_FIELDS`: what is safe to return of a colleague. -/
structure TutorFields where
  id : Id
  name : String
  email : String
  role : UserRole
  deriving Repr, DecidableEq

def User.tutorFields (user : User) : TutorFields := ⟨user.id, user.name, user.email, user.role⟩

structure TutorView where
  tutor : TutorFields
  addons : List AddonKey
  deriving Repr, DecidableEq

def Db.emailTaken (db : Db) (email : String) : Bool :=
  db.users.rows.any fun row => row.email == email

namespace SchoolsService

/-- The scale a school grades out of until it is changed. -/
def defaultGradeScaleMax : Int := 12

def isSlugChar (c : Char) : Bool := c.isDigit || ('a' ≤ c && c ≤ 'z')

/-- Every run of other characters as one hyphen. -/
def hyphenate : List Char → List Char
  | [] => []
  | c :: rest =>
      if isSlugChar c then c :: hyphenate rest
      else match hyphenate rest with
        | '-' :: others => '-' :: others
        | others => '-' :: others

def trimHyphens (text : List Char) : List Char :=
  ((text.dropWhile (· == '-')).reverse.dropWhile (· == '-')).reverse

section

variable (platform : Platform)

def slugify (draw : Draw) (value : String) : String :=
  let base := (trimHyphens (hyphenate
    (platform.normalize (platform.toLowerCase value)).toList)).take 60
  if base.isEmpty then "school-" ++ draw.random else String.ofList base

def normalizeEmail (email : String) : String := platform.toLowerCase (Js.trim email)

/-- A school and its first admin, together or not at all. -/
def register (draw : Draw) (dto : RegisterSchoolDto) (db : Db) : Service (User × Db) := do
  let email := normalizeEmail platform dto.adminEmail
  let slug := dto.slug.getD (slugify platform draw dto.schoolName)
  require (!db.emailTaken email) (.conflict "That email is already registered" .none)
  require (db.schools.rows.all fun row => row.slug != slug)
    (.conflict "That school address is taken" .none)
  let db ← db.createSchool
    ⟨draw.id, Js.trim dto.schoolName, slug, dto.timezone.getD "UTC", defaultGradeScaleMax⟩
  let admin : User :=
    ⟨draw.secondId, email, draw.passwordHash, Js.trim dto.adminName, .admin, draw.id, .obj []⟩
  let db ← db.createUser admin
  return (admin, db)

/-- Admin-only; enforced on the controller. -/
def createTutor (user : User) (draw : Draw) (dto : CreateTutorDto) (db : Db) :
    Service (TutorFields × Db) := do
  let email := normalizeEmail platform dto.email
  require (!db.emailTaken email) (.conflict "That email is already registered" .none)
  let tutor : User :=
    ⟨draw.id, email, draw.passwordHash, Js.trim dto.name, .tutor, user.schoolId, .obj []⟩
  let db ← db.createUser tutor
  return (tutor.tutorFields, db)

/-- The caller first, then colleagues by name. -/
def listTutors (user : User) (db : Db) : List TutorView :=
  let tutors := sortByText platform User.name
    (db.users.select fun row => row.schoolId == user.schoolId && row.role == .tutor)
  let addons := AddonsService.mapForSchool user.schoolId db
  let views := tutors.map fun row =>
    (⟨row.tutorFields, (addons.lookup row.id).getD []⟩ : TutorView)
  views.filter (fun view => view.tutor.id == user.id) ++
    views.filter fun view => view.tutor.id != user.id

end

def findCurrent (user : User) (db : Db) : Service School :=
  orNotFound (db.schools.find user.schoolId) "School not found"

/-- The client takes no null for a time zone. -/
def timezonePatch : Js.Field String → Service (Option String)
  | .absent => .ok none
  | .null => .error .internal
  | .given timezone => .ok (some timezone)

def update (user : User) (dto : UpdateSchoolDto) (db : Db) : Service (School × Db) := do
  let timezone ← timezonePatch dto.timezone
  let db ← db.updateSchool user.schoolId (dto.name.toOption.map Js.trim) timezone
  let school ← findCurrent user db
  return (school, db)

section

variable {platform : Platform} {user admin : User} {draw : Draw} {db next : Db}

theorem register_ok {dto : RegisterSchoolDto} :
    register platform draw dto db = .ok (admin, next) ↔
      db.emailTaken (normalizeEmail platform dto.adminEmail) = false ∧
        (db.schools.rows.all fun row =>
          row.slug != dto.slug.getD (slugify platform draw dto.schoolName)) = true ∧
        ∃ founded, db.createSchool ⟨draw.id, Js.trim dto.schoolName,
            dto.slug.getD (slugify platform draw dto.schoolName), dto.timezone.getD "UTC",
            defaultGradeScaleMax⟩ = .ok founded ∧
          founded.createUser ⟨draw.secondId, normalizeEmail platform dto.adminEmail,
            draw.passwordHash, Js.trim dto.adminName, .admin, draw.id, .obj []⟩ = .ok next ∧
          ⟨draw.secondId, normalizeEmail platform dto.adminEmail, draw.passwordHash,
            Js.trim dto.adminName, .admin, draw.id, .obj []⟩ = admin := by
  simp only [register, bind_ok, exists_const, require_ok, Bool.not_eq_true', pure_ok,
    Prod.mk.injEq, exists_eq_right_right]

theorem createTutor_ok {dto : CreateTutorDto} {tutor : TutorFields} :
    createTutor platform user draw dto db = .ok (tutor, next) ↔
      db.emailTaken (normalizeEmail platform dto.email) = false ∧
        db.createUser ⟨draw.id, normalizeEmail platform dto.email, draw.passwordHash,
          Js.trim dto.name, .tutor, user.schoolId, .obj []⟩ = .ok next ∧
        User.tutorFields ⟨draw.id, normalizeEmail platform dto.email, draw.passwordHash,
          Js.trim dto.name, .tutor, user.schoolId, .obj []⟩ = tutor := by
  simp only [createTutor, bind_ok, exists_const, require_ok, Bool.not_eq_true', pure_ok,
    Prod.mk.injEq, exists_eq_right_right]

theorem update_ok {dto : UpdateSchoolDto} {school : School} :
    update user dto db = .ok (school, next) ↔
      ∃ timezone, timezonePatch dto.timezone = .ok timezone ∧
        db.updateSchool user.schoolId (dto.name.toOption.map Js.trim) timezone = .ok next ∧
          findCurrent user next = .ok school := by
  simp only [update, bind_ok, pure_ok, Prod.mk.injEq]
  refine exists_congr fun timezone => and_congr_right fun _ => ?_
  constructor
  · rintro ⟨_, updated, _, found, rfl, rfl⟩
    exact ⟨updated, found⟩
  · rintro ⟨updated, found⟩
    exact ⟨next, updated, school, found, rfl, rfl⟩

end

end SchoolsService

namespace UsersService

def getConfig (platform : Platform) (user : User) : UserConfig :=
  parseUserConfig platform user.config

/-- The whole configuration is written, merged from the caller's row as it was read. -/
def updateConfig (platform : Platform) (user : User) (input : UserConfigInput) (db : Db) :
    Service (UserConfig × Db) :=
  match userConfigPatchSchema platform input with
  | .error message => .error (.badRequest message)
  | .ok patch => do
      let next := mergeUserConfig platform user.config patch
      let db ← db.updateUserConfig user.id next.toJson
      return (next, db)

theorem updateConfig_ok {platform : Platform} {user : User} {input : UserConfigInput}
    {config : UserConfig} {db next : Db} :
    updateConfig platform user input db = .ok (config, next) ↔
      ∃ patch, userConfigPatchSchema platform input = .ok patch ∧
        db.updateUserConfig user.id (mergeUserConfig platform user.config patch).toJson =
          .ok next ∧ mergeUserConfig platform user.config patch = config := by
  unfold updateConfig
  cases userConfigPatchSchema platform input with
  | error message => simp only [reduceCtorEq, false_and, exists_false]
  | ok patch =>
      simp only [bind_ok, pure_ok, Prod.mk.injEq, exists_eq_right_right, Except.ok.injEq,
        exists_eq_left']

end UsersService

end TutorApp
