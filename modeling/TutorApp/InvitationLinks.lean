import TutorApp.InvitationRedemption
import Mathlib.Data.Fintype.Basic

set_option autoImplicit false

namespace TutorApp

open Relational
open ReadCommitted (Discipline Run RunBeside)
open InvitationsService

/-- The invitation an accept has looked up and has yet to claim. -/
def Errand.looked : Errand → Option Id
  | .hashing _ invitation | .claiming _ invitation => some invitation.id
  | _ => none

/-- No link is handed out for an invitation that has been looked up and is yet to be claimed. -/
def LinksRest (pending : List RegistryWrite) (there : Errand) : Prop :=
  ∀ write ∈ pending, write.issues = none ∨ write.issues ≠ there.looked

instance (pending : List RegistryWrite) (there : Errand) : Decidable (LinksRest pending there) :=
  inferInstanceAs (Decidable (∀ write ∈ pending, _))

/-- Every account was made with the token its invitation held when it was claimed. -/
def Registry.Linked (reg : Registry) : Prop :=
  ∀ admission ∈ reg.admissions, admission.token = admission.claimed.token

/-- What an accept relies on: its token is the one the invitation holds. -/
def Errand.Current (reg : Registry) : Errand → Prop
  | .hashing call invitation | .claiming call invitation =>
      ∀ row, reg.db.invitations.find invitation.id = some row → row.token = call.token
  | .enrolling call _ claimed => claimed.token = call.token
  | .admitted admission => admission.token = admission.claimed.token
  | _ => True

section

variable {platform : Platform} {reg : Registry} {pending : List RegistryWrite} {id : Id}

/-- Apart from a new link, a row keeps its token as long as it is there. -/
theorem RegistryWrite.token_rests {write : RegistryWrite} (rest : write.issues ≠ some id) {db : Db}
    {row : Invitation} (found : (write.change db).invitations.find id = some row) :
    ∃ before, db.invitations.find id = some before ∧ row.token = before.token := by
  cases write with
  | claim other claimedAt =>
      rw [change, Db.find_claimInvitation] at found
      obtain ⟨before, listed, rfl⟩ := Option.map_eq_some_iff.mp found
      refine ⟨before, listed, ?_⟩
      split <;> rfl
  | deleteInvitation other schoolId =>
      have kept : (db.invitations.delete _).find id = some row := found
      rw [Table.find_delete] at kept
      exact ⟨row, (Option.filter_eq_some_iff.mp kept).1, rfl⟩
  | renewInvitation other link =>
      have different : id ≠ other := fun same => rest (congrArg some same.symm)
      have kept := Table.find_update_key db.invitations other (Db.renewed link)
        (Db.key_renewed link) id
      rw [if_neg different] at kept
      exact ⟨row, kept.symm.trans found, rfl⟩
  | insertInvitation link =>
      have different : key link ≠ id := fun same => rest (congrArg some same)
      have kept : ((db.invitations.insert? link).getD db.invitations).find id = some row := found
      rw [Table.find_insert_getD, if_neg different, Option.or_none] at kept
      exact ⟨row, kept, rfl⟩
  | insertSchool | insertUser => exact ⟨row, found, rfl⟩

theorem token_rests {token : String} (rest : ∀ write ∈ pending, write.issues ≠ some id)
    (held : ∀ row, reg.db.invitations.find id = some row → row.token = token) :
    ∀ row, ((registry platform).applyAll pending reg).db.invitations.find id = some row →
      row.token = token := by
  induction pending generalizing reg with
  | nil => exact held
  | cons write others ih =>
      refine @ih (write.apply reg) (fun other member => rest other (List.mem_cons_of_mem _ member)) ?_
      intro row found
      obtain ⟨before, listed, same⟩ := write.token_rests (rest write List.mem_cons_self) found
      exact same.trans (held before listed)

theorem Errand.Current.statement {here next : Errand} {writes : List RegistryWrite}
    (standing : here.Standing reg pending) (current : here.Current reg)
    (turn : here.turn platform ((registry platform).applyAll pending reg) = .write writes next) :
    next.Current reg := by
  have moves := Errand.moves_of_write turn
  cases moves with
  | look usable =>
      obtain rfl : pending = [] := standing
      obtain ⟨listed, named⟩ := findUsable_ok usable
      intro row found
      obtain rfl := Option.some.inj (listed.symm.trans found)
      exact named
  | hash => exact current
  | claim found =>
      obtain rfl : pending = [] := standing
      exact current _ (claimable_ok found).1
  | enrol => exact Eq.symm current
  | address | find | issue | revoke | register | slug | found | hire | join => trivial

theorem Errand.Current.stable {there : Errand} (rests : LinksRest pending there)
    (current : there.Current reg) : there.Current ((registry platform).applyAll pending reg) := by
  cases there with
  | hashing call invitation | claiming call invitation =>
      refine token_rests (fun write member issued => ?_) current
      rcases rests write member with silent | other
      · rw [silent] at issued
        cases issued
      · exact other issued
  | _ => exact current

/-- Whoever commits enters an account whose invitation is there, as it was claimed, or none. -/
theorem Errand.Standing.admissions {here : Errand} (standing : here.Standing reg pending)
    (turn : here.turn platform ((registry platform).applyAll pending reg) = .commit) :
    ((registry platform).applyAll pending reg).admissions = reg.admissions ∨
      ∃ admission, here = .admitted admission ∧
        ((registry platform).applyAll pending reg).admissions = reg.admissions ++ [admission] ∧
        claimable admission.claimed.id reg.db = some admission.claimed := by
  rcases Errand.turn_commit turn with ⟨admission, rfl⟩ | rfl | rfl | rfl
  · obtain ⟨claimedAt, rfl, found, -⟩ := standing
    rw [applyAll_admitted]
    exact .inr ⟨admission, rfl, rfl, found⟩
  · obtain ⟨write, rfl, silent⟩ := standing
    rw [apply_database silent]
    exact .inl rfl
  · obtain ⟨id, schoolId, rfl⟩ := standing
    rw [applyAll_deleted]
    exact .inl rfl
  · exact .inl (applyAll_joins standing).2.1

theorem links_discipline (platform : Platform) :
    Discipline (registry platform) LinksRest Registry.Linked
      fun reg here pending => here.Standing reg pending ∧ here.Current reg where
  statement reg here pending writes next _ held turn :=
    ⟨held.1.statement turn, held.2.statement held.1 turn⟩
  commit reg here pending linked held turn := by
    obtain ⟨standing, current⟩ := held
    rcases standing.admissions turn with same | ⟨admission, rfl, more, -⟩
    · rw [Registry.Linked, same]
      exact linked
    · rw [Registry.Linked, more]
      intro other member
      rcases List.mem_append.mp member with old | new
      · exact linked other old
      · obtain rfl := List.mem_singleton.mp new
        exact current
  stable reg here pending there others _ _ _ rests apart held :=
    ⟨held.1.stable apart, held.2.stable rests⟩

/-- The token a call is about to hand out. -/
def Errand.link : Errand → Option String
  | .addressing call | .finding call | .issuing call _ => some call.draw.random
  | _ => none

/-- A call that does not hand a token out, neither yet to be written nor yet to be committed. -/
def Errand.Withholds (token : String) (here : Errand) (pending : List RegistryWrite) : Prop :=
  here.link ≠ some token ∧ ∀ write ∈ pending, RegistryKey.token token ∉ write.locks

/-- No invitation holds a token, and the accounts made with it are made already. -/
structure Registry.Dead (token : String) (made : List Admission) (reg : Registry) : Prop where
  linked : reg.Linked
  gone : ∀ row ∈ reg.db.invitations.rows, row.token ≠ token
  made : ∀ admission ∈ reg.admissions, admission.token = token → admission ∈ made

variable {token : String} {made : List Admission}

theorem RegistryWrite.gone {write : RegistryWrite} (unsent : RegistryKey.token token ∉ write.locks)
    {db : Db} (gone : ∀ row ∈ db.invitations.rows, row.token ≠ token) :
    ∀ row ∈ (write.change db).invitations.rows, row.token ≠ token := by
  intro row member
  cases write with
  | claim id claimedAt =>
      have listed : row ∈ (db.invitations.update _ (fun row : Invitation =>
          { row with acceptedAt := some claimedAt }) fun _ => rfl).rows := member
      rcases Table.of_mem_update listed with old | ⟨old, there, -, rfl⟩
      · exact gone row old
      · exact gone old there
  | deleteInvitation id schoolId => exact gone row (Table.mem_delete.mp member).1
  | renewInvitation id link =>
      have listed : row ∈ (db.invitations.update _ (Db.renewed link) (Db.key_renewed link)).rows :=
        member
      rcases Table.of_mem_update listed with old | ⟨old, -, -, rfl⟩
      · exact gone row old
      · exact fun same => unsent (token_renewed.mpr same.symm)
  | insertInvitation link =>
      have listed : row ∈ ((db.invitations.insert? link).getD db.invitations).rows := member
      cases inserted : db.invitations.insert? link with
      | none =>
          rw [inserted, Option.getD_none] at listed
          exact gone row listed
      | some table =>
          rw [inserted, Option.getD_some] at listed
          rcases (Table.mem_insert inserted).mp listed with old | rfl
          · exact gone row old
          · exact fun same => unsent (token_inserted.mpr same.symm)
  | insertSchool | insertUser => exact gone row member

theorem gone_applyAll (unsent : ∀ write ∈ pending, RegistryKey.token token ∉ write.locks)
    (gone : ∀ row ∈ reg.db.invitations.rows, row.token ≠ token) :
    ∀ row ∈ ((registry platform).applyAll pending reg).db.invitations.rows, row.token ≠ token := by
  induction pending generalizing reg with
  | nil => exact gone
  | cons write rest ih =>
      exact @ih (write.apply reg) (fun other member => unsent other (List.mem_cons_of_mem _ member))
        (write.gone (unsent write List.mem_cons_self) gone)

theorem Errand.Moves.link {here next : Errand} {writes : List RegistryWrite}
    (moves : here.Moves platform reg writes next) : next.link = here.link ∨ next.link = none := by
  cases moves with
  | address | find => exact .inl rfl
  | _ => exact .inr rfl

theorem Errand.Moves.sends {here next : Errand} {writes : List RegistryWrite}
    (moves : here.Moves platform reg writes next) {write : RegistryWrite} (member : write ∈ writes)
    (locked : RegistryKey.token token ∈ write.locks) : here.link = some token := by
  cases moves with
  | look | hash | address | find | register | slug | hire => cases member
  | issue silent link =>
      obtain rfl := List.mem_singleton.mp member
      exact congrArg some (link token locked).symm
  | claim | enrol | revoke | found | join =>
      obtain rfl := List.mem_singleton.mp member
      simp [RegistryWrite.locks] at locked

theorem Errand.Withholds.statement {here next : Errand} {writes : List RegistryWrite}
    (withholds : here.Withholds token pending)
    (turn : here.turn platform ((registry platform).applyAll pending reg) = .write writes next) :
    next.Withholds token (pending ++ writes) := by
  have moves := Errand.moves_of_write turn
  refine ⟨?_, fun write member locked => ?_⟩
  · rcases moves.link with same | none
    · rw [same]
      exact withholds.1
    · rw [none]
      exact (Option.some_ne_none token).symm
  · rcases List.mem_append.mp member with old | new
    · exact withholds.2 write old locked
    · exact withholds.1 (moves.sends new locked)

theorem dead_discipline (platform : Platform) (token : String) (made : List Admission) :
    Discipline (registry platform) LinksRest (Registry.Dead token made)
      fun reg here pending => (here.Standing reg pending ∧ here.Current reg) ∧
        here.Withholds token pending where
  statement reg here pending writes next dead held turn :=
    ⟨(links_discipline platform).statement reg here pending writes next dead.linked held.1 turn,
      held.2.statement turn⟩
  commit reg here pending dead held turn := by
    obtain ⟨⟨standing, current⟩, -, unsent⟩ := held
    refine ⟨(links_discipline platform).commit reg here pending dead.linked ⟨standing, current⟩ turn,
      gone_applyAll unsent dead.gone, fun other member named => ?_⟩
    rcases standing.admissions turn with same | ⟨admission, rfl, more, found⟩
    · rw [same] at member
      exact dead.made other member named
    · rw [more] at member
      rcases List.mem_append.mp member with old | new
      · exact dead.made other old named
      · obtain rfl := List.mem_singleton.mp new
        have there := (Table.find_eq_some.mp (claimable_ok found).1).1
        exact absurd (Eq.trans (Eq.symm current) named) (dead.gone _ there)
  stable reg here pending there others dead held turn rests apart kept :=
    ⟨(links_discipline platform).stable reg here pending there others dead.linked held.1 turn rests
      apart kept.1, kept.2⟩

/-- Where no link is handed out between the lookup of an invitation and its claim, every account is
made with the token its invitation held, and none with a token that no invitation holds any more. -/
theorem dead_links_make_no_account {τ : Type} [DecidableEq τ] {db : Db} {first : τ → Errand}
    {after : RegistryState τ} (begun : ∀ t, (first t).Begins)
    (run : RunBeside (registry platform) LinksRest (.start ⟨db, []⟩ first) after) :
    after.committed.Linked ∧
    (∀ t next, ReadCommitted.Step (registry platform) t after next →
      next.committed.admissions = after.committed.admissions ∨ ∃ admission,
        next.committed.admissions = after.committed.admissions ++ [admission] ∧
        claimable admission.claimed.id after.committed.db = some admission.claimed ∧
        admission.token = admission.claimed.token) ∧
    ∀ token later, (∀ row ∈ after.committed.db.invitations.rows, row.token ≠ token) →
      (∀ t here, (after.sessions t).here = some here →
        here.Withholds token (after.sessions t).pending) →
      RunBeside (registry platform) LinksRest after later →
      ∀ admission ∈ later.committed.admissions, admission.token = token →
        admission ∈ after.committed.admissions := by
  have current : ∀ t, (first t).Current ⟨db, []⟩ := by
    intro t
    have begins := begun t
    cases here : first t with
    | presenting | addressing | revoking | registering | hiring => trivial
    | _ =>
        rw [here] at begins
        exact begins.elim
  have linked : Registry.Linked ⟨db, []⟩ := fun _ made => absurd made List.not_mem_nil
  have kept := (links_discipline platform).run (ReadCommitted.State.start_disciplined linked
    fun t => ⟨(begun t).standing, current t⟩) run
  refine ⟨kept.sound, fun t next step => ?_, fun token later gone withholds rest => ?_⟩
  · cases step with
    | statement => exact .inl rfl
    | abort => exact .inl rfl
    | @commit here standing turn =>
        obtain ⟨stands, holds⟩ := kept.holds t here standing
        rcases stands.admissions turn with same | ⟨admission, rfl, more, found⟩
        · exact .inl same
        · exact .inr ⟨admission, more, found, holds⟩
  · have dead : after.committed.Dead token after.committed.admissions :=
      ⟨kept.sound, gone, fun _ member _ => member⟩
    exact ((dead_discipline platform token after.committed.admissions).run
      ⟨kept.exclusive, dead, fun t here standing =>
        ⟨kept.holds t here standing, withholds t here standing⟩⟩ rest).sound.made

end

def tapOf (id token : String) : Errand :=
  .presenting ⟨(Outside.quiet id).draw, 1772359200500, token, "Cyd"⟩

/-- The first school's admin sends an invitation once more. -/
def resendTo (email token : String) : Errand :=
  .addressing ⟨foxAdmin, { (Outside.quiet "i2").draw with random := token }, email⟩

/-- The old link and the new one, and the resend between them. -/
def cydResent : Fin 3 → Errand
  | 0 => resendTo "cyd@x.io" "resent"
  | 1 => tapOf "t1" "resent"
  | 2 => tapOf "t2" "random"

/-- A link that is opened once its successor is out is dead. -/
theorem cyd_joins_by_the_new_link : ∃ after : RegistryState (Fin 3),
    RunBeside (registry .plain) LinksRest (.start ⟨cydInvited.db, []⟩ cydResent) after ∧
      (after.committed.admissions.map fun made => (made.token, made.claimed.token)) =
        [("resent", "resent")] ∧
      ∀ later, RunBeside (registry .plain) LinksRest after later →
        ∀ made ∈ later.committed.admissions, made.token = "random" →
          made ∈ after.committed.admissions := by
  have carried : ((ReadCommitted.State.start ⟨cydInvited.db, []⟩ cydResent).scheduleBeside
      (registry .plain) LinksRest [0, 0, 0, 0, 1, 1, 1, 1, 1]).any (fun state => decide (
        (state.committed.admissions.map fun made => (made.token, made.claimed.token)) =
          [("resent", "resent")] ∧
        (∀ row ∈ state.committed.db.invitations.rows, row.token ≠ "random") ∧
        ∀ t, (state.sessions t).pending = [] ∧
          (state.sessions t).here.bind Errand.link = none)) = true := by
    decide +kernel
  obtain ⟨after, scheduled, ended⟩ := (Option.any_eq_true _ _).mp carried
  obtain ⟨made, gone, quiet⟩ := of_decide_eq_true ended
  have run : RunBeside (registry .plain) LinksRest (.start ⟨cydInvited.db, []⟩ cydResent) after :=
    ReadCommitted.State.scheduleBeside_run scheduled
  have dead := dead_links_make_no_account (by
    simp [Fin.forall_fin_succ, cydResent, tapOf, resendTo, Errand.Begins]) run
  refine ⟨after, run, made, fun later => dead.2.2 "random" later gone fun t here standing => ?_⟩
  obtain ⟨settled, silent⟩ := quiet t
  rw [standing, Option.bind_some] at silent
  rw [settled, Errand.Withholds, silent]
  exact ⟨(Option.some_ne_none _).symm, fun _ member => absurd member List.not_mem_nil⟩

/-- The old link has been looked up when the resend replaces it, and then it still makes an
account. -/
theorem cyd_joins_by_the_old_link : Reachable .plain cydInvited ∧
    ∃ between after : RegistryState (Fin 3),
      Run (registry .plain) (fun _ _ => True) (.start ⟨cydInvited.db, []⟩ cydResent) between ∧
      (between.committed.db.invitations.rows.map fun row => (row.id, row.token)) =
        [("i1", "resent")] ∧ between.committed.admissions = [] ∧
      Run (registry .plain) (fun _ _ => True) between after ∧
      (after.committed.admissions.map fun made =>
        (made.token, made.claimed.token, made.claimed.id, made.account.email)) =
          [("random", "resent", "i1", "cyd@x.io")] ∧
      (after.committed.db.users.find "t2").isSome = true ∧ ¬ after.committed.Linked := by
  have carried : ((ReadCommitted.State.start ⟨cydInvited.db, []⟩ cydResent).schedule
      (registry .plain) (fun _ _ => true) [2, 2, 0, 0, 0, 0]).any (fun between =>
        decide ((between.committed.db.invitations.rows.map fun row => (row.id, row.token)) =
          [("i1", "resent")] ∧ between.committed.admissions = []) &&
        (between.schedule (registry .plain) (fun _ _ => true) [2, 2, 2]).any fun after => decide (
          (after.committed.admissions.map fun made =>
            (made.token, made.claimed.token, made.claimed.id, made.account.email)) =
              [("random", "resent", "i1", "cyd@x.io")] ∧
          (after.committed.db.users.find "t2").isSome = true)) = true := by
    decide +kernel
  obtain ⟨between, first, reached⟩ := (Option.any_eq_true _ _).mp carried
  obtain ⟨replaced, rest⟩ := Bool.and_eq_true_iff.mp reached
  obtain ⟨after, second, ended⟩ := (Option.any_eq_true _ _).mp rest
  obtain ⟨rows, nobody⟩ := of_decide_eq_true replaced
  obtain ⟨made, stored⟩ := of_decide_eq_true ended
  refine ⟨.after .plain .refl _, between, after,
    ReadCommitted.State.schedule_run (fun _ _ _ => trivial) first, rows, nobody,
    ReadCommitted.State.schedule_run (fun _ _ _ => trivial) second, made, stored, fun linked => ?_⟩
  obtain ⟨admission, member, same⟩ := List.mem_map.mp (made ▸ List.mem_singleton_self _)
  have held := linked admission member
  rw [(Prod.mk.inj same).1, (Prod.mk.inj (Prod.mk.inj same).2).1] at held
  exact absurd held (by decide)

end TutorApp
