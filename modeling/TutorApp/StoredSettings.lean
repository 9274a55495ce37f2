import TutorApp.SavedSettings

set_option autoImplicit false

namespace TutorApp

open Relational
open Js (Json)

namespace ConfigField

def name : ConfigField → String
  | lessonReminders => "lessonReminders"
  | lessonReminderMinutes => "lessonReminderMinutes"
  | gradesEnabled => "gradesEnabled"
  | meeting => "meeting"

def default (field : ConfigField) : field.Value := fieldDefaults.get field

/-- What a value passes a field's own check as, if it does. -/
def check (platform : Platform) : (field : ConfigField) → Json → Option field.Value
  | lessonReminders => booleanField
  | lessonReminderMinutes => minutesField
  | gradesEnabled => booleanField
  | meeting => fun value => (meetingField platform value).toOption

/-- What a field on its own reads as: a valid value as stored, anything else as the default. -/
def read (platform : Platform) (field : ConfigField) (stored : Option Json) : field.Value :=
  (stored.bind (field.check platform)).getD field.default

end ConfigField

/-- A field of a stored object, whether it is there or not. -/
def storedField (fields : List (String × Json)) (field : ConfigField) : Option Json :=
  (Json.obj fields).get? field.name

section

variable {platform : Platform} {fields : List (String × Json)} {field : ConfigField} {json : Json}

theorem ConfigField.read_valid {value : field.Value} (stored : storedField fields field = some json)
    (valid : field.check platform json = some value) :
    field.read platform (storedField fields field) = value := by
  rw [read, stored, Option.bind_some, valid, Option.getD_some]

theorem withDefault_read {α : Type} {check : Json → Option α} (fallback : α) {stored : Option Json}
    (valid : ∀ json, stored = some json → (check json).isSome = true) :
    withDefault check fallback stored = some ((stored.bind check).getD fallback) := by
  cases stored with
  | none => rfl
  | some json =>
      obtain ⟨value, passes⟩ := Option.isSome_iff_exists.mp (valid json rfl)
      rw [withDefault, Option.bind_some, passes, Option.getD_some]

theorem withDefault_rejected {α : Type} {check : Json → Option α} {fallback : α}
    {stored : Option Json} (is : stored = some json) (rejected : check json = none) :
    withDefault check fallback stored = none := by
  rw [is, withDefault, rejected]

/-- Nothing but the meeting block is stored invalid. -/
def Unspoilt (platform : Platform) (fields : List (String × Json)) : Prop :=
  ∀ field, field ≠ .meeting → ∀ json, storedField fields field = some json →
    (field.check platform json).isSome = true

/-- Every field that is stored valid holds its default. -/
def Unset (platform : Platform) (fields : List (String × Json)) : Prop :=
  ∀ (field : ConfigField) (json : Json) (value : field.Value), storedField fields field = some json →
    field.check platform json = some value → value = field.default

theorem parseUserConfig_obj (fields : List (String × Json)) :
    parseUserConfig platform (.obj fields) =
      (userConfigSchema platform (.obj fields)).getD fieldDefaults := rfl

theorem meeting_read (stored : Option Json) :
    (match stored with
      | none => fieldDefaults.meeting
      | some value => (meetingField platform value).toOption.getD fieldDefaults.meeting) =
      ConfigField.meeting.read platform stored := by
  cases stored <;> rfl

theorem parseUserConfig_unspoilt (unspoilt : Unspoilt platform fields) (field : ConfigField) :
    (parseUserConfig platform (.obj fields)).get field =
      field.read platform (storedField fields field) := by
  have reminders := withDefault_read fieldDefaults.lessonReminders
    (unspoilt .lessonReminders (by decide))
  have minutes := withDefault_read fieldDefaults.lessonReminderMinutes
    (unspoilt .lessonReminderMinutes (by decide))
  have grades := withDefault_read fieldDefaults.gradesEnabled (unspoilt .gradesEnabled (by decide))
  simp only [storedField, ConfigField.name, ConfigField.check] at reminders minutes grades
  simp only [parseUserConfig_obj, userConfigSchema, reminders, minutes, grades, Option.bind_eq_bind,
    Option.bind_some, Option.pure_def, Option.getD_some]
  cases field with
  | meeting => exact meeting_read _
  | _ => rfl

/-- One other field that is stored invalid takes every field with it. -/
theorem parseUserConfig_spoilt (spoilt : ¬ Unspoilt platform fields) :
    parseUserConfig platform (.obj fields) = fieldDefaults := by
  simp only [Unspoilt, not_forall, Bool.not_eq_true, Option.isSome_eq_false_iff,
    Option.isNone_iff_eq_none] at spoilt
  obtain ⟨field, other, json, stored, rejected⟩ := spoilt
  have none : userConfigSchema platform (.obj fields) = none := by
    simp only [userConfigSchema]
    cases field with
    | lessonReminders =>
        have fails : withDefault booleanField fieldDefaults.lessonReminders
            ((Json.obj fields).get? "lessonReminders") = none :=
          withDefault_rejected stored rejected
        rw [fails]
        rfl
    | lessonReminderMinutes =>
        have fails : withDefault minutesField fieldDefaults.lessonReminderMinutes
            ((Json.obj fields).get? "lessonReminderMinutes") = none :=
          withDefault_rejected stored rejected
        simp only [fails, Option.bind_eq_bind, Option.bind_none, Option.bind_fun_none]
    | gradesEnabled =>
        have fails : withDefault booleanField fieldDefaults.gradesEnabled
            ((Json.obj fields).get? "gradesEnabled") = none :=
          withDefault_rejected stored rejected
        simp only [fails, Option.bind_eq_bind, Option.bind_none, Option.bind_fun_none]
    | meeting => exact absurd rfl other
  rw [parseUserConfig_obj, none, Option.getD_none]

/-- Each field is read for itself. -/
def ReadsApart (platform : Platform) (fields : List (String × Json)) : Prop :=
  ∀ field, (parseUserConfig platform (.obj fields)).get field =
    field.read platform (storedField fields field)

theorem readsApart_iff : ReadsApart platform fields ↔
    Unspoilt platform fields ∨ Unset platform fields := by
  by_cases unspoilt : Unspoilt platform fields
  · exact ⟨fun _ => .inl unspoilt, fun _ => parseUserConfig_unspoilt unspoilt⟩
  · rw [ReadsApart, or_iff_right unspoilt, parseUserConfig_spoilt unspoilt]
    constructor
    · intro reads field json value stored valid
      rw [← ConfigField.read_valid stored valid, ← reads field]
      rfl
    · intro unset field
      change field.default = _
      cases stored : storedField fields field with
      | none => rfl
      | some json =>
          cases checked : field.check platform json with
          | none => rw [ConfigField.read, Option.bind_some, checked, Option.getD_none]
          | some value =>
              rw [← stored, ConfigField.read_valid stored checked, unset field json value stored checked]

theorem check_toJson {config : UserConfig} (valid : config.Valid platform) (field : ConfigField) :
    (config.toJson.get? field.name).bind (field.check platform) = some (config.get field) := by
  obtain ⟨reminders, minutes, grades, meeting⟩ := config
  cases field with
  | lessonReminders => rfl
  | gradesEnabled => rfl
  | lessonReminderMinutes => exact minutesField_num valid.minutes.1 valid.minutes.2
  | meeting =>
      cases meeting with
      | none => rfl
      | some settings =>
          obtain ⟨short, usable⟩ := valid.room settings rfl
          change (meetingField platform settings.toJson).toOption = _
          rw [meetingField_toJson short usable]
          rfl

/-- After an update of one field, every other field that was stored valid is stored with its
value. -/
def KeepsOthers (platform : Platform) (fields : List (String × Json)) : Prop :=
  ∀ (user : User) (input : UserConfigInput) (patch : UserConfigPatch) (config : UserConfig)
    (db next : Db) (field : ConfigField), user.config = .obj fields →
    userConfigPatchSchema platform input = .ok patch →
    (∀ other, other ≠ field → patch.get other = none) →
    UsersService.updateConfig platform user input db = .ok (config, next) →
      ∀ (other : ConfigField) (json : Json) (value : other.Value), other ≠ field →
        storedField fields other = some json → other.check platform json = some value →
          ∃ row, next.users.find user.id = some row ∧
            (row.config.get? other.name).bind (other.check platform) = some value

theorem ReadsApart.keepsOthers (reads : ReadsApart platform fields) :
    KeepsOthers platform fields := by
  intro user input patch config db next field raw accepted alone done other json value different
    stored valid
  obtain ⟨row, found, column⟩ := Option.map_eq_some_iff.mp (updateConfig_column accepted done)
  refine ⟨row, found, ?_⟩
  rw [column, check_toJson (mergeUserConfig_valid accepted user.config), mergeUserConfig_get,
    alone other different, Option.getD_none, raw, reads other, ConfigField.read_valid stored valid]

/-- What another field holds makes no difference to a field that is read for itself. -/
theorem ReadsApart.independent {others : List (String × Json)} (reads : ReadsApart platform fields)
    (apart : ReadsApart platform others) (same : storedField fields field = storedField others field) :
    (parseUserConfig platform (.obj fields)).get field =
      (parseUserConfig platform (.obj others)).get field := by
  rw [reads field, apart field, same]

/-- A stored object is read field by field, and patched so, exactly when no field but the meeting
block is stored invalid, or when nothing that is valid differs from its default. -/
theorem settings_apart_iff (platform : Platform) (fields : List (String × Json)) :
    (ReadsApart platform fields ∧ KeepsOthers platform fields) ↔
      Unspoilt platform fields ∨ Unset platform fields := by
  rw [← readsApart_iff]
  exact ⟨And.left, fun reads => ⟨reads, reads.keepsOthers⟩⟩

/-- Reminders stored as a word: the grades that were hidden show again. -/
theorem bad_reminders_show_grades :
    ¬ ReadsApart .plain [("lessonReminders", .str "yes"), ("gradesEnabled", .bool false)] := by
  intro reads
  have shown : true = false := reads .gradesEnabled
  cases shown

end

end TutorApp
