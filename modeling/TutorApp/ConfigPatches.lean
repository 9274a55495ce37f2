import TutorApp.System

set_option autoImplicit false

namespace TutorApp

open Relational

inductive ConfigField where
  | lessonReminders
  | lessonReminderMinutes
  | gradesEnabled
  | meeting
  deriving Repr, DecidableEq

def ConfigField.Value : ConfigField → Type
  | lessonReminders | gradesEnabled => Bool
  | lessonReminderMinutes => Int
  | meeting => Option MeetingSettings

def UserConfig.get (config : UserConfig) : (field : ConfigField) → field.Value
  | .lessonReminders => config.lessonReminders
  | .lessonReminderMinutes => config.lessonReminderMinutes
  | .gradesEnabled => config.gradesEnabled
  | .meeting => config.meeting

/-- What a patch sets a field to, if it sets it. -/
def UserConfigPatch.get (patch : UserConfigPatch) : (field : ConfigField) → Option field.Value
  | .lessonReminders => patch.lessonReminders
  | .lessonReminderMinutes => patch.lessonReminderMinutes
  | .gradesEnabled => patch.gradesEnabled
  | .meeting => patch.meeting

section

variable {platform : Platform}

theorem mergeUserConfig_get (raw : Js.Json) (patch : UserConfigPatch) (field : ConfigField) :
    (mergeUserConfig platform raw patch).get field =
      (patch.get field).getD ((parseUserConfig platform raw).get field) := by
  cases field <;> rfl

/-- What the checks of a configuration let through. -/
structure UserConfig.Valid (platform : Platform) (config : UserConfig) : Prop where
  minutes : 5 ≤ config.lessonReminderMinutes ∧ config.lessonReminderMinutes ≤ 1440
  room : ∀ settings ∈ config.meeting,
    (∀ text ∈ settings.roomUrl, Js.utf16Length text ≤ maxRoomUrl) ∧
      meetingRoomProblem platform settings.provider settings.roomUrl = none

theorem minutesField_valid {value : Js.Json} {minutes : Int}
    (passed : minutesField value = some minutes) :
    5 ≤ minutes ∧ minutes ≤ 1440 := by
  unfold minutesField at passed
  split at passed
  · rename_i number _
    split at passed
    · rename_i bounds
      obtain ⟨whole, low, high⟩ := bounds
      obtain rfl := Option.some.inj passed
      have same : (number.num : ℚ) = number := Rat.den_eq_one_iff number |>.mp whole
      rw [← same] at low high
      exact ⟨by exact_mod_cast low, by exact_mod_cast high⟩
    · cases passed
  · cases passed

theorem minutesField_num {minutes : Int} (low : 5 ≤ minutes) (high : minutes ≤ 1440) :
    minutesField (.num minutes) = some minutes := by
  have bounds : (minutes : ℚ).den = 1 ∧ 5 ≤ (minutes : ℚ) ∧ (minutes : ℚ) ≤ 1440 :=
    ⟨Rat.den_intCast minutes, by exact_mod_cast low, by exact_mod_cast high⟩
  have number : (Js.Json.num minutes).toNumber = some (minutes : ℚ) :=
    Js.nearestDouble_intCast (abs_lt.mpr ⟨by omega, by omega⟩)
  simp only [minutesField, number, if_pos bounds, Rat.num_intCast]

theorem roomUrlField_valid {value : Option Js.Json} {roomUrl : Option String}
    (passed : roomUrlField value = some roomUrl) :
    ∀ text ∈ roomUrl, Js.utf16Length text ≤ maxRoomUrl := by
  unfold roomUrlField at passed
  split at passed
  · obtain rfl := Option.some.inj passed
    exact fun _ none => (by cases none)
  · obtain rfl := Option.some.inj passed
    exact fun _ none => (by cases none)
  · split at passed
    · rename_i short
      obtain rfl := Option.some.inj passed
      intro other same
      obtain rfl := Option.some.inj same
      exact short
    · cases passed
  · cases passed

theorem meetingField_valid {value : Js.Json} {meeting : Option MeetingSettings}
    (passed : meetingField platform value = .ok meeting) :
    ∀ settings ∈ meeting, (∀ text ∈ settings.roomUrl, Js.utf16Length text ≤ maxRoomUrl) ∧
      meetingRoomProblem platform settings.provider settings.roomUrl = none := by
  unfold meetingField at passed
  split at passed
  · obtain rfl := Except.ok.inj passed
    exact fun _ none => (by cases none)
  · unfold meetingConfigSchema at passed
    split at passed
    · split at passed
      · rename_i provider roomUrl _ read
        split at passed
        · cases passed
        · rename_i usable
          obtain rfl := Except.ok.inj passed
          intro settings same
          obtain rfl := Option.some.inj same
          exact ⟨roomUrlField_valid read, usable⟩
      · cases passed
    · cases passed

theorem MeetingProvider.ofJson_toText (provider : MeetingProvider) :
    MeetingProvider.ofJson (.str provider.toText) = some provider := by
  cases provider <;> rfl

theorem meetingField_toJson {settings : MeetingSettings}
    (short : ∀ text ∈ settings.roomUrl, Js.utf16Length text ≤ maxRoomUrl)
    (usable : meetingRoomProblem platform settings.provider settings.roomUrl = none) :
    meetingField platform settings.toJson = .ok (some settings) := by
  obtain ⟨provider, roomUrl⟩ := settings
  have room : roomUrlField (some ((roomUrl.map Js.Json.str).getD .null)) = some roomUrl := by
    cases roomUrl with
    | none => rfl
    | some text => exact if_pos (short text rfl)
  have read : meetingConfigSchema platform (MeetingSettings.toJson ⟨provider, roomUrl⟩) =
      .ok ⟨provider, roomUrl⟩ := by
    have named : (Js.Json.get? (MeetingSettings.toJson ⟨provider, roomUrl⟩) "provider").bind
        MeetingProvider.ofJson = some provider := MeetingProvider.ofJson_toText provider
    have placed : Js.Json.get? (MeetingSettings.toJson ⟨provider, roomUrl⟩) "roomUrl" =
        some ((roomUrl.map Js.Json.str).getD .null) := rfl
    rw [MeetingSettings.toJson] at named placed ⊢
    simp only [meetingConfigSchema, named, placed, room, usable]
  have object : meetingField platform (MeetingSettings.toJson ⟨provider, roomUrl⟩) =
      (meetingConfigSchema platform (MeetingSettings.toJson ⟨provider, roomUrl⟩)).map some := rfl
  rw [object, read]
  rfl

theorem fieldDefaults_valid : fieldDefaults.Valid platform where
  minutes := ⟨by decide, by decide⟩
  room _ none := (by cases none)

theorem userConfigSchema_valid {raw : Js.Json} {config : UserConfig}
    (passed : userConfigSchema platform raw = some config) : config.Valid platform := by
  unfold userConfigSchema at passed
  split at passed
  · rename_i fields
    simp only [Option.bind_eq_bind, Option.bind_eq_some_iff, Option.pure_def,
      Option.some.injEq] at passed
    obtain ⟨reminders, -, minutes, read, grades, -, rfl⟩ := passed
    constructor
    · show 5 ≤ minutes ∧ minutes ≤ 1440
      unfold withDefault at read
      split at read
      · obtain rfl := Option.some.inj read
        exact (@fieldDefaults_valid platform).minutes
      · exact minutesField_valid read
    · dsimp only
      split
      · exact fieldDefaults_valid.room
      · rename_i value _
        cases checked : meetingField platform value with
        | error issue => exact fieldDefaults_valid.room
        | ok meeting => exact meetingField_valid checked
  · cases passed

theorem parseUserConfig_valid (raw : Js.Json) : (parseUserConfig platform raw).Valid platform := by
  have read (value : Js.Json) :
      ((userConfigSchema platform value).getD fieldDefaults).Valid platform := by
    cases parsed : userConfigSchema platform value with
    | none => exact fieldDefaults_valid
    | some config => exact userConfigSchema_valid parsed
  exact read _

theorem userConfigSchema_fields {fields : List (String × Js.Json)} {config : UserConfig}
    (valid : config.Valid platform)
    (reminders : (Js.Json.obj fields).get? "lessonReminders" = some (.bool config.lessonReminders))
    (minutes : (Js.Json.obj fields).get? "lessonReminderMinutes" =
      some (.num config.lessonReminderMinutes))
    (grades : (Js.Json.obj fields).get? "gradesEnabled" = some (.bool config.gradesEnabled))
    (meeting : (Js.Json.obj fields).get? "meeting" =
      some ((config.meeting.map MeetingSettings.toJson).getD .null)) :
    userConfigSchema platform (.obj fields) = some config := by
  have inRange := minutesField_num valid.minutes.1 valid.minutes.2
  have held : meetingField platform ((config.meeting.map MeetingSettings.toJson).getD .null) =
      .ok config.meeting := by
    cases chosen : config.meeting with
    | none => rfl
    | some settings =>
        obtain ⟨short, usable⟩ := valid.room settings chosen
        exact meetingField_toJson short usable
  simp only [userConfigSchema, reminders, minutes, grades, meeting, withDefault, booleanField,
    inRange, held, Except.toOption, Option.getD_some, Option.bind_eq_bind, Option.bind_some, Option.pure_def]

theorem parseUserConfig_toJson {config : UserConfig} (valid : config.Valid platform) :
    parseUserConfig platform config.toJson = config := by
  have read : userConfigSchema platform config.toJson = some config :=
    userConfigSchema_fields valid rfl rfl rfl rfl
  have object : parseUserConfig platform config.toJson =
      (userConfigSchema platform config.toJson).getD fieldDefaults := rfl
  rw [object, read, Option.getD_some]

theorem optionalField_some {α : Type} {check : Js.Json → Option α} {sent : Option Js.Json} {value : α}
    (passed : optionalField check sent = some (some value)) : ∃ json, check json = some value := by
  cases sent with
  | none => cases passed
  | some json =>
      obtain ⟨checked, passes, same⟩ := Option.map_eq_some_iff.mp passed
      exact ⟨json, passes.trans same⟩

/-- What an accepted patch sets passes the checks of a read. -/
theorem userConfigPatchSchema_valid {input : UserConfigInput} {patch : UserConfigPatch}
    (accepted : userConfigPatchSchema platform input = .ok patch) :
    (∀ minutes ∈ patch.lessonReminderMinutes, 5 ≤ minutes ∧ minutes ≤ 1440) ∧
      ∀ meeting ∈ patch.meeting, ∀ settings ∈ meeting,
        (∀ text ∈ settings.roomUrl, Js.utf16Length text ≤ maxRoomUrl) ∧
          meetingRoomProblem platform settings.provider settings.roomUrl = none := by
  unfold userConfigPatchSchema at accepted
  dsimp only at accepted
  split at accepted
  · rename_i reminders minutes grades _ checked _
    have bounded : ∀ value ∈ minutes, 5 ≤ value ∧ value ≤ 1440 := by
      rintro value rfl
      obtain ⟨json, passed⟩ := optionalField_some checked
      exact minutesField_valid passed
    split at accepted
    · obtain rfl := Except.ok.inj accepted
      exact ⟨bounded, fun _ none => (by cases none)⟩
    · rename_i meeting passed
      obtain rfl := Except.ok.inj accepted
      obtain ⟨json, -, checked⟩ := Option.map_eq_some_iff.mp passed
      refine ⟨bounded, fun other same => ?_⟩
      obtain rfl := Option.some.inj same
      exact meetingField_valid checked
    · cases accepted
    · cases accepted
  · cases accepted

theorem mergeUserConfig_valid {input : UserConfigInput} {patch : UserConfigPatch}
    (accepted : userConfigPatchSchema platform input = .ok patch) (raw : Js.Json) :
    (mergeUserConfig platform raw patch).Valid platform := by
  obtain ⟨minutes, meeting⟩ := userConfigPatchSchema_valid accepted
  have stored := @parseUserConfig_valid platform raw
  constructor
  · show 5 ≤ patch.lessonReminderMinutes.getD _ ∧ patch.lessonReminderMinutes.getD _ ≤ 1440
    cases sent : patch.lessonReminderMinutes with
    | none => exact stored.minutes
    | some value => exact minutes value sent
  · show ∀ settings ∈ patch.meeting.getD _, _
    cases sent : patch.meeting with
    | none => exact stored.room
    | some value => exact meeting value sent

/-- What a write leaves in the column reads back as what was merged. -/
theorem parseUserConfig_merged {input : UserConfigInput} {patch : UserConfigPatch}
    (accepted : userConfigPatchSchema platform input = .ok patch) (raw : Js.Json)
    (field : ConfigField) :
    (parseUserConfig platform (mergeUserConfig platform raw patch).toJson).get field =
      (patch.get field).getD ((parseUserConfig platform raw).get field) := by
  rw [parseUserConfig_toJson (mergeUserConfig_valid accepted raw), mergeUserConfig_get]

end

/-- Where a call stands: the guard loads the caller's row, and the handler writes at its end. -/
inductive ConfigCall where
  | arriving
  | authenticated (user : User)
  | finished

structure ConfigCalls (τ : Type) where
  db : Db
  calls : τ → ConfigCall

namespace ConfigCalls

variable {τ : Type}

def start (db : Db) : ConfigCalls τ := ⟨db, fun _ => .arriving⟩

def put [DecidableEq τ] (state : ConfigCalls τ) (t : τ) (call : ConfigCall) : ConfigCalls τ :=
  { state with calls := Function.update state.calls t call }

end ConfigCalls

/-- The user's configuration as it reads now. -/
def Db.configOf (platform : Platform) (userId : Id) (db : Db) : Option UserConfig :=
  (db.users.find userId).map fun row => parseUserConfig platform row.config

section

variable {platform : Platform} {τ : Type} [DecidableEq τ] {userId : Id} {inputs : τ → UserConfigInput}
  {patches : τ → UserConfigPatch}

inductive ConfigStep (platform : Platform) (userId : Id) (inputs : τ → UserConfigInput)
    (state : ConfigCalls τ) (t : τ) : ConfigCalls τ → Prop where
  | authenticate {user : User} (arrives : state.calls t = .arriving)
      (found : state.db.users.find userId = some user) :
      ConfigStep platform userId inputs state t (state.put t (.authenticated user))
  | write {user : User} {config : UserConfig} {next : Db}
      (stands : state.calls t = .authenticated user)
      (done : UsersService.updateConfig platform user (inputs t) state.db = .ok (config, next)) :
      ConfigStep platform userId inputs state t (ConfigCalls.put ⟨next, state.calls⟩ t .finished)

/-- What a patch leaves alone reads now as it did when its call was authenticated. -/
def UserConfigPatch.Current (platform : Platform) (patch : UserConfigPatch) (user : User) (db : Db) :
    Prop :=
  ∀ stored ∈ db.configOf platform user.id, ∀ field, patch.get field = none →
    stored.get field = (parseUserConfig platform user.config).get field

/-- An interleaving of such calls whose every write meets a condition on the row it was merged
onto and on the database. -/
def ConfigRun (platform : Platform) (userId : Id) (inputs : τ → UserConfigInput)
    (guard : τ → User → Db → Prop) : ConfigCalls τ → ConfigCalls τ → Prop :=
  Relation.ReflTransGen fun before after => ∃ t, ConfigStep platform userId inputs before t after ∧
    ∀ user, before.calls t = .authenticated user → guard t user before.db

/-- A finished call has its value in every field nobody else has written since. -/
structure ConfigCalls.Kept (platform : Platform) (userId : Id) (patches : τ → UserConfigPatch)
    (first : UserConfig) (state : ConfigCalls τ) : Prop where
  stored : ∃ config, state.db.configOf platform userId = some config ∧ ∀ field,
    (∃ t value, state.calls t = .finished ∧ (patches t).get field = some value ∧
      config.get field = value) ∨
    (∀ t, state.calls t = .finished → (patches t).get field = none) ∧
      config.get field = first.get field
  own : ∀ t user, state.calls t = .authenticated user → user.id = userId

/-- A write leaves its patch in the column, and under it the row it was merged onto. -/
theorem updateConfig_stored {user : User} {input : UserConfigInput} {patch : UserConfigPatch}
    {config : UserConfig} {db next : Db}
    (accepted : userConfigPatchSchema platform input = .ok patch)
    (done : UsersService.updateConfig platform user input db = .ok (config, next)) :
    (db.configOf platform user.id).isSome ∧ ∃ stored, next.configOf platform user.id = some stored ∧
      ∀ field, stored.get field =
        (patch.get field).getD ((parseUserConfig platform user.config).get field) := by
  obtain ⟨checked, passed, updated, -⟩ := UsersService.updateConfig_ok.mp done
  obtain rfl := Except.ok.inj (passed.symm.trans accepted)
  obtain ⟨_, rewritten, rfl⟩ := Db.updateUserConfig_ok.mp updated
  obtain ⟨known, rfl⟩ := updateRow_ok.mp rewritten
  obtain ⟨row, found⟩ := Option.isSome_iff_exists.mp known
  refine ⟨by rw [Db.configOf, Option.isSome_map, known], ?_⟩
  refine ⟨parseUserConfig platform (mergeUserConfig platform user.config checked).toJson, ?_, ?_⟩
  · rw [Db.configOf, Table.find_update_key, if_pos rfl, found]
    rfl
  · exact parseUserConfig_merged accepted user.config

/-- One write moves no field its patch leaves alone exactly when it is merged onto a current row. -/
theorem updateConfig_spares_iff {user : User} {input : UserConfigInput} {patch : UserConfigPatch}
    {config : UserConfig} {db next : Db}
    (accepted : userConfigPatchSchema platform input = .ok patch)
    (done : UsersService.updateConfig platform user input db = .ok (config, next)) :
    patch.Current platform user db ↔
      ∀ before ∈ db.configOf platform user.id, ∀ stored ∈ next.configOf platform user.id,
        ∀ field, patch.get field = none → stored.get field = before.get field := by
  obtain ⟨-, left, reads, merged⟩ := updateConfig_stored accepted done
  constructor
  · intro current before was stored now field spared
    obtain rfl := Option.some.inj (reads.symm.trans now)
    rw [merged, spared, Option.getD_none]
    exact (current before was field spared).symm
  · intro unmoved before was field spared
    rw [← unmoved before was left reads field spared, merged, spared, Option.getD_none]

theorem ConfigCalls.put_calls (state : ConfigCalls τ) (t : τ) (call : ConfigCall) (other : τ) :
    (state.put t call).calls other = if other = t then call else state.calls other :=
  Function.update_apply _ _ _ _

/-- Authentication finishes nobody's call. -/
theorem ConfigCalls.finished_authenticated {state : ConfigCalls τ} {t : τ} (user : User)
    (arrives : state.calls t = .arriving) (other : τ) :
    (state.put t (.authenticated user)).calls other = .finished ↔
      state.calls other = .finished := by
  rw [put_calls]
  by_cases here : other = t
  · rw [if_pos here, here, arrives]
    exact ⟨fun stands => (by cases stands), fun stands => (by cases stands)⟩
  · rw [if_neg here]

theorem ConfigCalls.Kept.authenticate {first : UserConfig} {state : ConfigCalls τ} {t : τ}
    {user : User} (arrives : state.calls t = .arriving) (found : state.db.users.find userId = some user)
    (kept : state.Kept platform userId patches first) :
    (state.put t (.authenticated user)).Kept platform userId patches first := by
  constructor
  · simp only [finished_authenticated user arrives]
    exact kept.stored
  · intro other loaded stands
    rw [put_calls] at stands
    by_cases here : other = t
    · rw [if_pos here] at stands
      cases stands
      exact (Table.find_eq_some.mp found).2
    · rw [if_neg here] at stands
      exact kept.own other loaded stands

/-- A write onto a current row moves the fields of its patch and no other. -/
theorem ConfigCalls.Kept.write {first config : UserConfig} {state : ConfigCalls τ} {t : τ}
    {user : User} {next : Db}
    (accepted : userConfigPatchSchema platform (inputs t) = .ok (patches t))
    (stands : state.calls t = .authenticated user)
    (done : UsersService.updateConfig platform user (inputs t) state.db = .ok (config, next))
    (current : (patches t).Current platform user state.db)
    (kept : state.Kept platform userId patches first) :
    (ConfigCalls.put ⟨next, state.calls⟩ t .finished).Kept platform userId patches first := by
  have mine : user.id = userId := kept.own t user stands
  obtain ⟨-, stored, reads, merged⟩ := updateConfig_stored accepted done
  obtain ⟨before, was, fields⟩ := kept.stored
  rw [mine] at reads
  constructor
  · refine ⟨stored, reads, fun field => ?_⟩
    cases sets : (patches t).get field with
    | some value =>
        have held : stored.get field = value := by rw [merged, sets, Option.getD_some]
        exact .inl ⟨t, value, by rw [put_calls, if_pos rfl], sets, held⟩
    | none =>
        have unmoved : stored.get field = before.get field := by
          rw [merged, sets, Option.getD_none]
          exact (current before (by rw [mine]; exact was) field sets).symm
        rw [unmoved]
        rcases fields field with ⟨setter, value, finished, setting, held⟩ | ⟨nobody, held⟩
        · have other : setter ≠ t := by
            rintro rfl
            rw [stands] at finished
            cases finished
          exact .inl ⟨setter, value, by rw [put_calls, if_neg other]; exact finished, setting, held⟩
        · refine .inr ⟨fun other finished => ?_, held⟩
          rw [put_calls] at finished
          by_cases here : other = t
          · rw [here, sets]
          · rw [if_neg here] at finished
            exact nobody other finished
  · intro other loaded waits
    rw [put_calls] at waits
    by_cases here : other = t
    · rw [if_pos here] at waits
      cases waits
    · rw [if_neg here] at waits
      exact kept.own other loaded waits

theorem ConfigRun.kept {first : UserConfig} {before after : ConfigCalls τ}
    (accepted : ∀ t, userConfigPatchSchema platform (inputs t) = .ok (patches t))
    (run : ConfigRun platform userId inputs (fun t user db => (patches t).Current platform user db)
      before after)
    (kept : before.Kept platform userId patches first) :
    after.Kept platform userId patches first := by
  induction run with
  | refl => exact kept
  | tail _ move ih =>
      obtain ⟨t, step, current⟩ := move
      cases step with
      | authenticate arrives found => exact ih.authenticate arrives found
      | write stands done => exact ih.write (accepted t) stands done (current _ stands)

omit [DecidableEq τ] in
theorem ConfigCalls.kept_start {db : Db} {first : UserConfig}
    (reads : db.configOf platform userId = some first) :
    (start db : ConfigCalls τ).Kept platform userId patches first := by
  constructor
  · exact ⟨first, reads, fun _ => .inr ⟨fun _ finished => (by cases finished), rfl⟩⟩
  · intro _ _ stands
    cases stands

theorem updateConfig_succeeds {user : User} {input : UserConfigInput} {patch : UserConfigPatch}
    {db : Db} (accepted : userConfigPatchSchema platform input = .ok patch)
    (known : (db.users.find user.id).isSome) :
    ∃ config next, UsersService.updateConfig platform user input db = .ok (config, next) ∧
      (next.users.find user.id).isSome := by
  obtain ⟨config, next, done⟩ :
      ∃ config next, UsersService.updateConfig platform user input db = .ok (config, next) := by
    simp only [UsersService.updateConfig_ok, Db.updateUserConfig_ok, updateRow_ok]
    exact ⟨_, _, patch, accepted, ⟨_, ⟨known, rfl⟩, rfl⟩, rfl⟩
  obtain ⟨-, stored, reads, -⟩ := updateConfig_stored accepted done
  have found := Option.isSome_of_eq_some reads
  rw [Db.configOf, Option.isSome_map] at found
  exact ⟨config, next, done, found⟩

/-- A row just loaded is current. -/
theorem UserConfigPatch.current_of_found (patch : UserConfigPatch) {user : User} {db : Db}
    (found : db.users.find user.id = some user) : patch.Current platform user db := by
  intro stored reads field _
  rw [Db.configOf, found] at reads
  obtain rfl := Option.some.inj reads
  rfl

/-- A call that no other overlaps is merged onto a current row. -/
theorem ConfigRun.alone {state : ConfigCalls τ} {t : τ}
    (accepted : userConfigPatchSchema platform (inputs t) = .ok (patches t))
    (arrives : state.calls t = .arriving) (known : (state.db.users.find userId).isSome) :
    ∃ after, ConfigRun platform userId inputs
        (fun t user db => (patches t).Current platform user db) state after ∧
      after.calls t = .finished ∧ (∀ other, other ≠ t → after.calls other = state.calls other) ∧
      (after.db.users.find userId).isSome := by
  obtain ⟨user, found⟩ := Option.isSome_iff_exists.mp known
  obtain rfl : user.id = userId := (Table.find_eq_some.mp found).2
  obtain ⟨config, next, done, still⟩ := updateConfig_succeeds accepted known
  have loaded : (state.put t (.authenticated user)).calls t = .authenticated user := by
    rw [ConfigCalls.put_calls, if_pos rfl]
  refine ⟨_, .head ⟨t, .authenticate arrives found, fun other stands => ?_⟩ <|
    .single ⟨t, .write loaded done, fun other stands => ?_⟩, ?_, fun other different => ?_, still⟩
  · rw [arrives] at stands
    cases stands
  · rw [loaded] at stands
    cases stands
    exact (patches t).current_of_found found
  · rw [ConfigCalls.put_calls, if_pos rfl]
  · rw [ConfigCalls.put_calls, if_neg different]
    show (state.put t (.authenticated user)).calls other = state.calls other
    rw [ConfigCalls.put_calls, if_neg different]

/-- Where no write is merged onto a row that has gone stale, every patch survives until a later one
sets the same field. -/
theorem config_patches_survive {db : Db} {first : UserConfig} {after : ConfigCalls τ}
    (accepted : ∀ t, userConfigPatchSchema platform (inputs t) = .ok (patches t))
    (reads : db.configOf platform userId = some first)
    (run : ConfigRun platform userId inputs (fun t user db => (patches t).Current platform user db)
      (.start db) after)
    (finished : ∀ t, after.calls t = .finished) :
    ∃ stored, after.db.configOf platform userId = some stored ∧
      (∀ field, (∃ t value, (patches t).get field = some value ∧ stored.get field = value) ∨
        (∀ t, (patches t).get field = none) ∧ stored.get field = first.get field) ∧
      ∀ t field value, (patches t).get field = some value →
        (∀ other, other ≠ t → (patches other).get field = none) → stored.get field = value := by
  obtain ⟨stored, now, fields⟩ := (run.kept accepted (ConfigCalls.kept_start reads)).stored
  have settled (field : ConfigField) : (∃ t value, (patches t).get field = some value ∧
      stored.get field = value) ∨ (∀ t, (patches t).get field = none) ∧
        stored.get field = first.get field := by
    rcases fields field with ⟨t, value, -, sets, held⟩ | ⟨nobody, held⟩
    · exact .inl ⟨t, value, sets, held⟩
    · exact .inr ⟨fun t => nobody t (finished t), held⟩
  refine ⟨stored, now, settled, fun t field value sets alone => ?_⟩
  rcases settled field with ⟨setter, other, setting, held⟩ | ⟨nobody, -⟩
  · by_cases here : setter = t
    · rw [here, sets] at setting
      rw [held, Option.some.inj setting]
    · rw [alone setter here] at setting
      cases setting
  · rw [nobody t] at sets
    cases sets

end

def foxSettings : Db := (World.empty.after .plain [foxSchool]).db

/-- One tap turns reminders on, the other hides grades. -/
def tapped (t : Bool) : UserConfigInput :=
  if t then ⟨some (.bool true), none, none, none⟩ else ⟨none, none, some (.bool false), none⟩

def tappedPatch (t : Bool) : UserConfigPatch :=
  if t then ⟨some true, none, none, none⟩ else ⟨none, none, some false, none⟩

theorem tapped_accepted (t : Bool) :
    userConfigPatchSchema .plain (tapped t) = .ok (tappedPatch t) := by
  cases t <;> rfl

theorem foxSettings_admin : foxSettings.users.find "a1" = some foxAdmin := by decide +kernel

/-- One tap after the other: both hold. -/
theorem taps_in_turn_survive : ∃ after, ConfigRun .plain "a1" tapped
      (fun t user db => (tappedPatch t).Current .plain user db) (.start foxSettings) after ∧
    (∀ t, after.calls t = .finished) ∧
    ∃ stored, after.db.configOf .plain "a1" = some stored ∧
      (∀ field, (∃ t value, (tappedPatch t).get field = some value ∧ stored.get field = value) ∨
        (∀ t, (tappedPatch t).get field = none) ∧ stored.get field = fieldDefaults.get field) ∧
      ∀ t field value, (tappedPatch t).get field = some value →
        (∀ other, other ≠ t → (tappedPatch other).get field = none) → stored.get field = value := by
  have reads : foxSettings.configOf .plain "a1" = some fieldDefaults := by
    rw [Db.configOf, foxSettings_admin]
    rfl
  obtain ⟨middle, first, one, rest, known⟩ := @ConfigRun.alone .plain Bool _ "a1" tapped tappedPatch
    (.start foxSettings) true (tapped_accepted true) rfl (Option.isSome_of_eq_some foxSettings_admin)
  obtain ⟨after, second, two, kept, -⟩ := @ConfigRun.alone .plain Bool _ "a1" tapped tappedPatch
    middle false (tapped_accepted false) (rest false (by decide)) known
  have finished (t : Bool) : after.calls t = .finished := by
    cases t with
    | true => exact (kept true (by decide)).trans one
    | false => exact two
  have run := first.trans second
  exact ⟨after, run, finished, config_patches_survive tapped_accepted reads run finished⟩

/-- Two taps at once: both calls succeed, and the reminder the first turned on is off again. -/
theorem first_tap_forgotten : Reachable .plain (World.empty.after .plain [foxSchool]) ∧
    (∀ t, userConfigPatchSchema .plain (tapped t) = .ok (tappedPatch t)) ∧
    ∃ after : ConfigCalls Bool, ConfigRun .plain "a1" tapped (fun _ _ _ => True)
        (.start foxSettings) after ∧
      (∀ t, after.calls t = .finished) ∧
      (tappedPatch true).get .lessonReminders = some true ∧
      (tappedPatch false).get .lessonReminders = none ∧
      ∃ stored, after.db.configOf .plain "a1" = some stored ∧
        ¬ ∃ t value, (tappedPatch t).get .lessonReminders = some value ∧
          stored.get .lessonReminders = value := by
  have known : (foxSettings.users.find foxAdmin.id).isSome :=
    Option.isSome_of_eq_some foxSettings_admin
  obtain ⟨_, middle, first, still⟩ := updateConfig_succeeds (tapped_accepted true) known
  obtain ⟨_, last, second, -⟩ := updateConfig_succeeds (tapped_accepted false) still
  obtain ⟨-, stored, reads, merged⟩ := updateConfig_stored (tapped_accepted false) second
  have reminders : stored.get .lessonReminders = false := merged .lessonReminders
  refine ⟨.after .plain .refl _, tapped_accepted, _,
    .head ⟨true, .authenticate rfl foxSettings_admin, fun _ _ => trivial⟩ <|
    .head ⟨false, .authenticate rfl foxSettings_admin, fun _ _ => trivial⟩ <|
    .head ⟨true, .write rfl first, fun _ _ => trivial⟩ <|
    .single ⟨false, .write rfl second, fun _ _ => trivial⟩, ?_, rfl, rfl, stored, reads, ?_⟩
  · intro t
    cases t <;> rfl
  · rintro ⟨t, value, sets, held⟩
    rw [reminders] at held
    cases t with
    | true =>
        have on : value = true := Option.some.inj sets.symm
        rw [on] at held
        cases held
    | false => cases sets

end TutorApp
