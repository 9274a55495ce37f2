import TutorApp.MeetingProviders

set_option autoImplicit false

namespace TutorApp

open Js (Json)

structure UserConfig where
  lessonReminders : Bool
  lessonReminderMinutes : Int
  gradesEnabled : Bool
  meeting : Option MeetingSettings
  deriving Repr, DecidableEq

def fieldDefaults : UserConfig := ⟨false, 30, true, none⟩

def MeetingProvider.toText : MeetingProvider → String
  | .zoom => "ZOOM"
  | .googleMeet => "GOOGLE_MEET"
  | .jitsi => "JITSI"

def MeetingProvider.ofJson : Json → Option MeetingProvider
  | .str "ZOOM" => some .zoom
  | .str "GOOGLE_MEET" => some .googleMeet
  | .str "JITSI" => some .jitsi
  | _ => none

/-- `z.boolean()`. -/
def booleanField : Json → Option Bool
  | .bool value => some value
  | _ => none

/-- `z.coerce.number().int().min(5).max(1440)`. -/
def minutesField (value : Json) : Option Int :=
  match value.toNumber with
  | some number => if number.den = 1 ∧ 5 ≤ number ∧ number ≤ 1440 then some number.num else none
  | none => none

/-- `z.string().max(500).nullable().default(null)`. -/
def roomUrlField : Option Json → Option (Option String)
  | none => some none
  | some .null => some none
  | some (.str text) => if Js.utf16Length text ≤ maxRoomUrl then some (some text) else none
  | some _ => none

/-- What is wrong with a meeting block: its shape, or the room it names. -/
inductive MeetingIssue where
  | shape
  | room (message : String)
  deriving Repr, DecidableEq

def meetingConfigSchema (platform : Platform) : Json → Except MeetingIssue MeetingSettings
  | .obj fields =>
      match ((Json.obj fields).get? "provider").bind MeetingProvider.ofJson,
        roomUrlField ((Json.obj fields).get? "roomUrl") with
      | some provider, some roomUrl =>
          match meetingRoomProblem platform provider roomUrl with
          | some message => .error (.room message)
          | none => .ok ⟨provider, roomUrl⟩
      | _, _ => .error .shape
  | _ => .error .shape

/-- `meetingConfigSchema.nullable()`. -/
def meetingField (platform : Platform) : Json → Except MeetingIssue (Option MeetingSettings)
  | .null => .ok none
  | value => (meetingConfigSchema platform value).map some

/-- A field with a default: only a missing one takes it, an invalid one fails. -/
def withDefault {α : Type} (check : Json → Option α) (fallback : α) : Option Json → Option α
  | none => some fallback
  | some value => check value

/-- `userConfigSchema.safeParse`; only the meeting block has a `catch`. -/
def userConfigSchema (platform : Platform) : Json → Option UserConfig
  | .obj fields => do
      let raw := Json.obj fields
      let lessonReminders ← withDefault booleanField fieldDefaults.lessonReminders
        (raw.get? "lessonReminders")
      let lessonReminderMinutes ← withDefault minutesField fieldDefaults.lessonReminderMinutes
        (raw.get? "lessonReminderMinutes")
      let gradesEnabled ← withDefault booleanField fieldDefaults.gradesEnabled
        (raw.get? "gradesEnabled")
      let meeting := match raw.get? "meeting" with
        | none => fieldDefaults.meeting
        | some value => (meetingField platform value).toOption.getD fieldDefaults.meeting
      return { lessonReminders, lessonReminderMinutes, gradesEnabled, meeting }
  | _ => none

/-- Whatever is in the column, as a complete config; `null` reads as an empty object. -/
def parseUserConfig (platform : Platform) (raw : Json) : UserConfig :=
  let value := match raw with
    | .null => .obj []
    | other => other
  (userConfigSchema platform value).getD fieldDefaults

/-- A patch as a client sends it: `none` is a field that is `undefined`. -/
structure UserConfigInput where
  lessonReminders : Option Json
  lessonReminderMinutes : Option Json
  gradesEnabled : Option Json
  meeting : Option Json

/-- A patch that passed its schema. -/
structure UserConfigPatch where
  lessonReminders : Option Bool
  lessonReminderMinutes : Option Int
  gradesEnabled : Option Bool
  meeting : Option (Option MeetingSettings)
  deriving Repr, DecidableEq

/-- A field a patch may leave out; one that is sent has to pass. -/
def optionalField {α : Type} (check : Json → Option α) : Option Json → Option (Option α)
  | none => some none
  | some value => (check value).map some

/-- `userConfigPatchSchema.safeParse`, with the message of the first issue. -/
def userConfigPatchSchema (platform : Platform) (input : UserConfigInput) :
    Except String UserConfigPatch :=
  let shape := .error (platform.shapeIssue ([input.lessonReminders, input.lessonReminderMinutes,
    input.gradesEnabled, input.meeting].filterMap id))
  match optionalField booleanField input.lessonReminders,
    optionalField minutesField input.lessonReminderMinutes,
    optionalField booleanField input.gradesEnabled with
  | some lessonReminders, some lessonReminderMinutes, some gradesEnabled =>
      match input.meeting.map (meetingField platform) with
      | none => .ok ⟨lessonReminders, lessonReminderMinutes, gradesEnabled, none⟩
      | some (.ok meeting) => .ok ⟨lessonReminders, lessonReminderMinutes, gradesEnabled, some meeting⟩
      | some (.error (.room message)) => .error message
      | some (.error .shape) => shape
  | _, _, _ => shape

/-- The patch on top of the stored config; fields it does not set keep what is read. -/
def mergeUserConfig (platform : Platform) (raw : Json) (patch : UserConfigPatch) : UserConfig :=
  let stored := parseUserConfig platform raw
  { lessonReminders := patch.lessonReminders.getD stored.lessonReminders
    lessonReminderMinutes := patch.lessonReminderMinutes.getD stored.lessonReminderMinutes
    gradesEnabled := patch.gradesEnabled.getD stored.gradesEnabled
    meeting := patch.meeting.getD stored.meeting }

def MeetingSettings.toJson (settings : MeetingSettings) : Json :=
  .obj [("provider", .str settings.provider.toText),
    ("roomUrl", (settings.roomUrl.map Json.str).getD .null)]

/-- The value the column is given. -/
def UserConfig.toJson (config : UserConfig) : Json :=
  .obj [("lessonReminders", .bool config.lessonReminders),
    ("lessonReminderMinutes", .num config.lessonReminderMinutes),
    ("gradesEnabled", .bool config.gradesEnabled),
    ("meeting", (config.meeting.map MeetingSettings.toJson).getD .null)]

end TutorApp
