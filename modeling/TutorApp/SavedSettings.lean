import Mathlib.Data.List.Induction
import TutorApp.ConfigPatches

set_option autoImplicit false

namespace TutorApp

open Relational

/-- A patch as it is sent, with what its schema makes of it. -/
structure Saving where
  outside : Outside
  input : UserConfigInput
  patch : UserConfigPatch

/-- A user's savings as requests, one after the other. -/
def savings (userId : Id) (calls : List Saving) : List (Outside × Request) :=
  calls.map fun call => (call.outside, .command userId (.updateConfig call.input))

/-- What the last patch that sets a field sets it to. -/
def lastSet (calls : List Saving) (field : ConfigField) : Option field.Value :=
  calls.reverse.findSome? fun call => call.patch.get field

theorem lastSet_snoc (calls : List Saving) (call : Saving) (field : ConfigField) :
    lastSet (calls ++ [call]) field = (call.patch.get field).or (lastSet calls field) := by
  rw [lastSet, List.reverse_append, List.reverse_singleton, List.singleton_append,
    List.findSome?_cons, lastSet]
  cases call.patch.get field <;> rfl

section

variable {platform : Platform} {userId : Id} {world : World}

theorem World.after_savings_snoc (calls : List Saving) (call : Saving) :
    world.after platform (savings userId (calls ++ [call])) =
      ((Request.command userId (.updateConfig call.input)).serve platform call.outside
        (world.after platform (savings userId calls))).world := by
  rw [savings, List.map_append, World.after, List.foldl_append]
  rfl

/-- A merged configuration reads back as it was merged. -/
theorem parseUserConfig_merge {input : UserConfigInput} {patch : UserConfigPatch}
    (accepted : userConfigPatchSchema platform input = .ok patch) (raw : Js.Json) :
    parseUserConfig platform (mergeUserConfig platform raw patch).toJson =
      mergeUserConfig platform raw patch :=
  parseUserConfig_toJson (mergeUserConfig_valid accepted raw)

/-- A column after an update is the merged configuration. -/
theorem updateConfig_column {user : User} {input : UserConfigInput} {patch : UserConfigPatch}
    {config : UserConfig} {db next : Db}
    (accepted : userConfigPatchSchema platform input = .ok patch)
    (done : UsersService.updateConfig platform user input db = .ok (config, next)) :
    (next.users.find user.id).map User.config =
      some (mergeUserConfig platform user.config patch).toJson := by
  obtain ⟨checked, passed, updated, -⟩ := UsersService.updateConfig_ok.mp done
  obtain rfl := Except.ok.inj (passed.symm.trans accepted)
  obtain ⟨_, rewritten, rfl⟩ := Db.updateUserConfig_ok.mp updated
  obtain ⟨known, rfl⟩ := updateRow_ok.mp rewritten
  obtain ⟨row, found⟩ := Option.isSome_iff_exists.mp known
  rw [Table.find_update_key, if_pos rfl, found]
  rfl

/-- What an update answers with is what it wrote, field by field from the patch or from before. -/
theorem updateConfig_answer {user : User} {call : Saving} {db : Db}
    (found : db.users.find user.id = some user)
    (accepted : userConfigPatchSchema platform call.input = .ok call.patch) :
    ∃ config next, UsersService.updateConfig platform user call.input db = .ok (config, next) ∧
      next.configOf platform user.id = some config ∧ ∀ field,
        config.get field = (call.patch.get field).getD ((parseUserConfig platform user.config).get field)
    := by
  obtain ⟨config, next, done, -⟩ := updateConfig_succeeds accepted (Option.isSome_of_eq_some found)
  have merged : config = mergeUserConfig platform user.config call.patch := by
    obtain ⟨checked, passed, -, rfl⟩ := UsersService.updateConfig_ok.mp done
    rw [Except.ok.inj (passed.symm.trans accepted)]
  refine ⟨config, next, done, ?_, fun field => by rw [merged, mergeUserConfig_get]⟩
  obtain ⟨row, there, column⟩ := Option.map_eq_some_iff.mp (updateConfig_column accepted done)
  rw [Db.configOf, there, Option.map_some, column, merged, parseUserConfig_merge accepted]

/-- One saving: what it answers is what is read from then on. -/
theorem serve_saving {stored : UserConfig} {call : Saving}
    (reads : world.db.configOf platform userId = some stored)
    (accepted : userConfigPatchSchema platform call.input = .ok call.patch) :
    ∃ config,
      ((Request.command userId (.updateConfig call.input)).serve platform call.outside world).result =
        .ok (.config config) ∧
      ((Request.command userId (.updateConfig call.input)).serve platform call.outside
        world).world.db.configOf platform userId = some config ∧
      ∀ field, config.get field = (call.patch.get field).getD (stored.get field) := by
  obtain ⟨user, found, read⟩ := Option.map_eq_some_iff.mp reads
  have itself : user.id = userId := (Table.find_eq_some.mp found).2
  have own : world.db.users.find user.id = some user := by rw [itself, found]
  obtain ⟨config, next, done, column, fields⟩ := updateConfig_answer own accepted
  refine ⟨config, ?_⟩
  simp only [Request.serve, found, Command.run, done, World.commit]
  rw [read] at fields
  rw [itself] at column
  exact ⟨trivial, column, fields⟩

/-- After a run of savings every field is as the last of them set it. -/
theorem savings_read {first : UserConfig} (reads : world.db.configOf platform userId = some first)
    (calls : List Saving)
    (accepted : ∀ call ∈ calls, userConfigPatchSchema platform call.input = .ok call.patch) :
    ∃ stored, (world.after platform (savings userId calls)).db.configOf platform userId =
        some stored ∧
      ∀ field, stored.get field = (lastSet calls field).getD (first.get field) := by
  induction calls using List.reverseRecOn with
  | nil => exact ⟨first, reads, fun _ => rfl⟩
  | append_singleton calls call ih =>
      obtain ⟨earlier, own⟩ := List.forall_mem_append.mp accepted
      obtain ⟨stored, held, fields⟩ := ih earlier
      obtain ⟨config, -, column, merged⟩ := serve_saving held (own call (List.mem_singleton_self _))
      refine ⟨config, ?_, fun field => ?_⟩
      · rw [World.after_savings_snoc]
        exact column
      · rw [merged, fields, lastSet_snoc]
        cases call.patch.get field <;> rfl

/-- Whatever is in the column, a run of savings is answered with what is then read, leaves every
field as it was last set, and merges nothing that reads otherwise. -/
theorem settings_read_back {user : User} (found : world.db.users.find userId = some user)
    (calls : List Saving)
    (accepted : ∀ call ∈ calls, userConfigPatchSchema platform call.input = .ok call.patch) :
    (∀ before call after, calls = before ++ call :: after → ∃ config,
      ((Request.command userId (.updateConfig call.input)).serve platform call.outside
        (world.after platform (savings userId before))).result = .ok (.config config) ∧
      (world.after platform (savings userId (before ++ [call]))).db.configOf platform userId =
        some config) ∧
    (∃ stored, (world.after platform (savings userId calls)).db.configOf platform userId =
        some stored ∧
      ∀ field, stored.get field =
        (lastSet calls field).getD ((parseUserConfig platform user.config).get field)) ∧
    ∀ raw, ∀ call ∈ calls, parseUserConfig platform
      (mergeUserConfig platform raw call.patch).toJson = mergeUserConfig platform raw call.patch := by
  have reads : world.db.configOf platform userId = some (parseUserConfig platform user.config) := by
    rw [Db.configOf, found, Option.map_some]
  refine ⟨?_, savings_read reads calls accepted,
    fun raw call member => parseUserConfig_merge (accepted call member) raw⟩
  rintro before call after rfl
  obtain ⟨earlier, own, -⟩ := List.forall_mem_append.mp accepted |>.imp_right List.forall_mem_cons.mp
  obtain ⟨stored, held, -⟩ := savings_read reads before earlier
  obtain ⟨config, answered, column, -⟩ := serve_saving held own
  rw [World.after_savings_snoc]
  exact ⟨config, answered, column⟩

end

/-- One tap turns reminders on, and the next hides grades. -/
def settingTaps : List Saving :=
  [true, false].map fun t => ⟨.quiet "x", tapped t, tappedPatch t⟩

theorem taps_read_back : ∃ stored,
    ((World.empty.after .plain [foxSchool]).after .plain (savings "a1" settingTaps)).db.configOf .plain "a1" =
        some stored ∧
      stored.lessonReminders = true ∧ stored.gradesEnabled = false ∧
      stored.lessonReminderMinutes = 30 := by
  have found : (World.empty.after .plain [foxSchool]).db.users.find "a1" = some foxAdmin := by
    decide +kernel
  have accepted : ∀ call ∈ settingTaps, userConfigPatchSchema .plain call.input = .ok call.patch := by
    intro call member
    obtain ⟨t, -, rfl⟩ := List.mem_map.mp member
    exact tapped_accepted t
  obtain ⟨-, ⟨stored, reads, fields⟩, -⟩ := settings_read_back found settingTaps accepted
  exact ⟨stored, reads, fields .lessonReminders, fields .gradesEnabled,
    fields .lessonReminderMinutes⟩

end TutorApp
