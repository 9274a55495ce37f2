import TutorApp.Capabilities
import TutorApp.SetReplacement

set_option autoImplicit false

namespace TutorApp

open Relational
open SetReplacement (Run Apart State replaces_alone)

/-- The capabilities a member has been granted. -/
def Db.granted (db : Db) (userId : Id) : Finset AddonKey :=
  (AddonKey.values.filter (db.grants userId)).toFinset

theorem Db.mem_granted {db : Db} {userId : Id} {addon : AddonKey} :
    addon ∈ db.granted userId ↔ db.grants userId addon = true := by
  rw [granted, List.mem_toFinset, List.mem_filter, and_iff_right addon.mem_values]

/-- What two transactions of `setFor` for one member write, by the lists submitted. -/
def submitted (left right : List AddonKey) (t : Bool) : List AddonKey :=
  if t then left.eraseDups else right.eraseDups

theorem toFinset_eraseDups (addons : List AddonKey) :
    addons.eraseDups.toFinset = addons.toFinset := by
  ext addon
  rw [List.mem_toFinset, List.mem_eraseDups, List.mem_toFinset]

section

variable {db next : Db} {caller : User} {userId : Id} {left right addons unique : List AddonKey}
  {after : State AddonKey}

/-- A call that nobody comes between leaves the grants the service leaves. -/
theorem setFor_run (done : AddonsService.setFor caller userId addons db = .ok (unique, next)) :
    ∃ after, Run (submitted addons right) (Apart (submitted addons right))
        (.start (db.granted userId)) after ∧
      after.sessions true = .committed ∧ after.rows = next.granted userId := by
  obtain ⟨after, run, committed, -, rows⟩ : ∃ after,
      Run (submitted addons right) (Apart (submitted addons right)) (.start (db.granted userId))
          after ∧ after.sessions true = .committed ∧ after.sessions (!true) = .waiting ∧
        after.rows = (submitted addons right true).toFinset :=
    replaces_alone (SetReplacement.State.start_sound _) rfl rfl
  refine ⟨after, run, committed, ?_⟩
  ext addon
  rw [rows, Db.mem_granted, AddonsService.setFor_grants done, if_pos rfl, submitted, if_pos rfl,
    toFinset_eraseDups, List.mem_toFinset]

/-- However the statements of two changes interleave, as long as none of them crosses the other,
the member ends with exactly one of the two lists. -/
theorem grants_do_not_mix (run : Run (submitted left right) (Apart (submitted left right))
      (.start (db.granted userId)) after)
    (first : after.sessions true = .committed) (_ : after.sessions false = .committed) :
    after.rows = left.toFinset ∨ after.rows = right.toFinset := by
  obtain ⟨t, -, rows⟩ := (run.sound (SetReplacement.State.start_sound _)).done ⟨true, first⟩
  rw [rows]
  cases t with
  | true => exact .inl (toFinset_eraseDups left)
  | false => exact .inr (toFinset_eraseDups right)

end

/-- A school with an admin and a tutor nothing has been granted to. -/
def tomHired : World := World.empty.after .plain [foxSchool,
  (.quiet "t1", .command "a1" (.createTutor ⟨"Tom", "tom@x.io"⟩))]

def inviting : List AddonKey := [.inviteTutors]

def managing : List AddonKey := [.manageStudents]

def both : List AddonKey := [.manageStudents, .inviteTutors]

/-- One begins while the other is under way, and inserts what that one wants too. -/
theorem tom_ends_with_both : ∃ after, Run (submitted managing both) (Apart (submitted managing both))
      (.start (tomHired.db.granted "t1")) after ∧
    after.sessions true = .committed ∧ after.sessions false = .committed ∧
    (after.rows = managing.toFinset ∨ after.rows = both.toFinset) := by
  have none : tomHired.db.granted "t1" = ∅ := by decide +kernel
  have seesNothing (k : AddonKey) (member : k ∈ (∅ : Finset AddonKey)) (wanted : List AddonKey) :
      k ∈ wanted := absurd member (Finset.notMem_empty k)
  have run : ∃ after, Run (submitted managing both) (Apart (submitted managing both)) (.start ∅) after ∧
      after.sessions true = .committed ∧ after.sessions false = .committed :=
    ⟨_, .head ⟨true, .look, .look rfl, fun k member => seesNothing k member _⟩ <|
      .head ⟨false, .look, .look rfl, fun k member => seesNothing k member _⟩ <|
      .head ⟨true, .turn, .turn rfl, trivial⟩ <|
      .head ⟨true, .insert .manageStudents, .insert rfl (by decide) (by decide), fun _ => by decide⟩ <|
      .head ⟨true, .commit, .commit rfl, trivial⟩ <|
      .head ⟨false, .turn, .turn rfl, trivial⟩ <|
      .head ⟨false, .find .manageStudents, .find rfl (by decide) (by decide), trivial⟩ <|
      .head ⟨false, .insert .inviteTutors, .insert rfl (by decide) (by decide), fun runs =>
        (by cases runs)⟩ <|
      .single ⟨false, .commit, .commit rfl, trivial⟩, rfl, rfl⟩
  rw [← none] at run
  obtain ⟨after, run, first, second⟩ := run
  exact ⟨after, run, first, second, grants_do_not_mix run first second⟩

/-- Neither delete sees what the other transaction inserts, and the member ends with both. -/
theorem tom_holds_a_mixture : Reachable .plain tomHired ∧
    (AddonsService.setFor foxAdmin "t1" inviting tomHired.db).isOk = true ∧
    (AddonsService.setFor foxAdmin "t1" managing tomHired.db).isOk = true ∧
    ∃ after, Run (submitted inviting managing) (fun _ _ _ => True)
        (.start (tomHired.db.granted "t1")) after ∧
      after.sessions true = .committed ∧ after.sessions false = .committed ∧
      after.rows = both.toFinset ∧ after.rows ≠ inviting.toFinset ∧
      after.rows ≠ managing.toFinset := by
  have none : tomHired.db.granted "t1" = ∅ := by decide +kernel
  rw [none]
  refine ⟨.after .plain .refl _, by decide +kernel, by decide +kernel, ?_⟩
  refine ⟨_, .head ⟨true, .look, .look rfl, trivial⟩ <| .head ⟨false, .look, .look rfl, trivial⟩ <|
    .head ⟨true, .turn, .turn rfl, trivial⟩ <| .head ⟨false, .turn, .turn rfl, trivial⟩ <|
    .head ⟨true, .insert .inviteTutors, .insert rfl (by decide) (by decide), trivial⟩ <|
    .head ⟨false, .insert .manageStudents, .insert rfl (by decide) (by decide), trivial⟩ <|
    .head ⟨true, .commit, .commit rfl, trivial⟩ <|
    .single ⟨false, .commit, .commit rfl, trivial⟩, rfl, rfl, ?_, ?_, ?_⟩
  · decide
  · decide
  · decide

end TutorApp
