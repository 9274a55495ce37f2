import TutorApp.AccountSessions

set_option autoImplicit false

namespace TutorApp

open Relational
open ReadCommitted (Turn Discipline Run)
open InvitationsService

/-- Everything a statement of a call can do. -/
inductive Errand.Moves (platform : Platform) (reg : Registry) :
    Errand → List RegistryWrite → Errand → Prop where
  | look {call : AcceptCall} {invitation : Invitation}
      (usable : findUsable call.draw.now call.token reg.db = .ok invitation) :
      Moves platform reg (.presenting call) [] (.hashing call invitation)
  | hash {call : AcceptCall} {invitation : Invitation} :
      Moves platform reg (.hashing call invitation) [] (.claiming call invitation)
  | claim {call : AcceptCall} {invitation claimed : Invitation}
      (found : claimable invitation.id reg.db = some claimed) :
      Moves platform reg (.claiming call invitation) [.claim invitation.id call.claimedAt]
        (.enrolling call invitation claimed)
  | enrol {call : AcceptCall} {invitation claimed : Invitation} {next : Db}
      (created : reg.db.createUser (newcomer call.draw call.name invitation) = .ok next) :
      Moves platform reg (.enrolling call invitation claimed)
        [.insertUser (newcomer call.draw call.name invitation)
          (some ⟨call.token, claimed, newcomer call.draw call.name invitation⟩)]
        (.admitted ⟨call.token, claimed, newcomer call.draw call.name invitation⟩)
  | address {call : InviteCall} : Moves platform reg (.addressing call) [] (.finding call)
  | find {call : InviteCall} {existing : Option Id} :
      Moves platform reg (.finding call) [] (.issuing call existing)
  | issue {call : InviteCall} {existing : Option Id} {write : RegistryWrite}
      (silent : write.admits = none)
      (link : ∀ token, RegistryKey.token token ∈ write.locks → token = call.draw.random) :
      Moves platform reg (.issuing call existing) [write] .issued
  | revoke {admin : User} {id : Id} :
      Moves platform reg (.revoking admin id) [.deleteInvitation id admin.schoolId] .revoked
  | register {draw : Draw} {dto : RegisterSchoolDto} :
      Moves platform reg (.registering draw dto) [] (.slugging draw dto)
  | slug {draw : Draw} {dto : RegisterSchoolDto} {school : School} {account : User} :
      Moves platform reg (.slugging draw dto) [] (.founding school account)
  | found {school : School} {account : User} :
      Moves platform reg (.founding school account) [.insertSchool school] (.joining account)
  | hire {caller : User} {draw : Draw} {dto : CreateTutorDto} {account : User} :
      Moves platform reg (.hiring caller draw dto) [] (.joining account)
  | join {account : User} :
      Moves platform reg (.joining account) [.insertUser account none] .joined

section

variable {platform : Platform} {reg : Registry} {here next : Errand} {writes : List RegistryWrite}

theorem stopIf_write {stopped : Bool} {there : Errand}
    (turn : stopIf stopped there = .write writes next) : writes = [] ∧ next = there := by
  unfold stopIf at turn
  split at turn
  · cases turn
  · cases turn
    exact ⟨rfl, rfl⟩

theorem RegistryWrite.token_renewed {id : Id} {row : Invitation} {token : String} :
    RegistryKey.token token ∈ (renewInvitation id row).locks ↔ token = row.token := by
  simp [locks]

theorem RegistryWrite.token_inserted {row : Invitation} {token : String} :
    RegistryKey.token token ∈ (insertInvitation row).locks ↔ token = row.token := by
  simp [locks]

theorem newInvitation_token {call : InviteCall} {row : Invitation}
    (new : newInvitation platform call = .ok row) : row.token = call.draw.random := by
  simp only [newInvitation, bind_ok, pure_ok] at new
  obtain ⟨_, -, rfl⟩ := new
  rfl

theorem Errand.moves_of_write (turn : here.turn platform reg = .write writes next) :
    here.Moves platform reg writes next := by
  cases here with
  | presenting call =>
      obtain ⟨invitation, usable, rfl, rfl⟩ := onceDone_write.mp turn
      exact .look usable
  | hashing call invitation =>
      cases turn
      exact .hash
  | claiming call invitation =>
      have claims : claimTurn call invitation reg.db = .write writes next := turn
      unfold claimTurn at claims
      split at claims
      · cases claims
      · rename_i found
        cases claims
        exact .claim found
  | enrolling call invitation claimed =>
      obtain ⟨_, created, rfl, rfl⟩ := onceDone_write.mp turn
      exact .enrol created
  | addressing call =>
      obtain ⟨rfl, rfl⟩ := stopIf_write turn
      exact .address
  | finding call =>
      cases turn
      exact .find
  | issuing call existing =>
      rw [Errand.turn_issuing] at turn
      split at turn
      · cases turn
      · rename_i row new
        have drawn := newInvitation_token new
        unfold issueTurn at turn
        split at turn
        · obtain ⟨_, -, rfl, rfl⟩ := onceDone_write.mp turn
          exact .issue rfl fun token locked => (RegistryWrite.token_renewed.mp locked).trans drawn
        · obtain ⟨_, -, rfl, rfl⟩ := onceDone_write.mp turn
          exact .issue rfl fun token locked => (RegistryWrite.token_inserted.mp locked).trans drawn
  | revoking admin id =>
      have revokes : revokeTurn admin id reg.db = .write writes next := turn
      unfold revokeTurn at revokes
      split at revokes
      · cases revokes
      · cases revokes
        exact .revoke
  | registering draw dto =>
      obtain ⟨rfl, rfl⟩ := stopIf_write turn
      exact .register
  | slugging draw dto =>
      obtain ⟨rfl, rfl⟩ := stopIf_write turn
      exact .slug
  | founding school account =>
      obtain ⟨_, -, rfl, rfl⟩ := onceDone_write.mp turn
      exact .found
  | hiring caller draw dto =>
      obtain ⟨rfl, rfl⟩ := stopIf_write turn
      exact .hire
  | joining account =>
      obtain ⟨_, -, rfl, rfl⟩ := onceDone_write.mp turn
      exact .join
  | admitted | issued | revoked | joined => cases turn

end

/-- A write of the calls that make accounts without an invitation. -/
def RegistryWrite.Joins : RegistryWrite → Prop
  | .insertSchool _ | .insertUser _ none => True
  | _ => False

/-- What a call has written when it stands here, and the rows that its locks keep as it saw
them. -/
def Errand.Standing (reg : Registry) : Errand → List RegistryWrite → Prop
  | .enrolling call invitation claimed, pending =>
      pending = [.claim invitation.id call.claimedAt] ∧
        claimable invitation.id reg.db = some claimed
  | .admitted admission, pending =>
      ∃ claimedAt, pending = [.claim admission.claimed.id claimedAt,
          .insertUser admission.account (some admission)] ∧
        claimable admission.claimed.id reg.db = some admission.claimed ∧
        reg.db.users.find admission.account.id = none
  | .issued, pending => ∃ write : RegistryWrite, pending = [write] ∧ write.admits = none
  | .revoked, pending => ∃ id schoolId, pending = [.deleteInvitation id schoolId]
  | .joining _, pending | .joined, pending => ∀ write ∈ pending, write.Joins
  | _, pending => pending = []

section

variable {platform : Platform} {reg : Registry} {pending : List RegistryWrite} {id : Id}

theorem Db.find_claimInvitation (db : Db) (id : Id) (claimedAt : Js.Instant) (other : Id) :
    (db.claimInvitation id claimedAt).2.invitations.find other =
      (db.invitations.find other).map fun row => if row.id == id && row.acceptedAt.isNone then
        { row with acceptedAt := some claimedAt } else row :=
  Table.find_update _ _ (fun row : Invitation => { row with acceptedAt := some claimedAt })
    (fun _ => rfl) other

/-- A row is as it was for whoever does not write it. -/
theorem RegistryWrite.find_invitation {write : RegistryWrite}
    (outside : RegistryKey.invitation id ∉ write.locks) (db : Db) :
    (write.change db).invitations.find id = db.invitations.find id := by
  cases write with
  | claim other claimedAt =>
      have different : id ≠ other := fun same => outside (same ▸ List.mem_singleton_self _)
      rw [change, Db.find_claimInvitation]
      cases found : db.invitations.find id with
      | none => rfl
      | some row =>
          have same : row.id = id := (Table.find_eq_some.mp found).2
          simp [same, different]
  | deleteInvitation other schoolId =>
      have different : id ≠ other := fun same => outside (same ▸ List.mem_singleton_self _)
      show (db.invitations.delete _).find id = _
      rw [Table.find_delete]
      cases found : db.invitations.find id with
      | none => rfl
      | some row =>
          have same : row.id = id := (Table.find_eq_some.mp found).2
          simp [same, different]
  | renewInvitation other row =>
      have different : id ≠ other := fun same => outside (same ▸ List.mem_cons_self)
      have kept := Table.find_update_key db.invitations other (Db.renewed row) (Db.key_renewed row) id
      rwa [if_neg different] at kept
  | insertInvitation row =>
      have different : key row ≠ id := fun same => outside (same ▸ List.mem_cons_self)
      show ((db.invitations.insert? row).getD db.invitations).find id = _
      rw [Table.find_insert_getD, if_neg different, Option.or_none]
  | insertSchool | insertUser => rfl

theorem RegistryWrite.find_user {write : RegistryWrite}
    (outside : RegistryKey.user id ∉ write.locks) (db : Db) :
    (write.change db).users.find id = db.users.find id := by
  cases write with
  | insertUser row admission =>
      have different : key row ≠ id := fun same => outside (same ▸ List.mem_cons_self)
      show ((db.users.insert? row).getD db.users).find id = _
      rw [Table.find_insert_getD, if_neg different, Option.or_none]
  | claim | deleteInvitation | renewInvitation | insertInvitation | insertSchool => rfl

theorem claimable_keeps {writes : List RegistryWrite}
    (outside : ∀ write ∈ writes, RegistryKey.invitation id ∉ write.locks) (reg : Registry) :
    claimable id ((registry platform).applyAll writes reg).db = claimable id reg.db :=
  @ReadCommitted.Rules.applyAll_keeps _ _ _ _ (registry platform) _
    (fun reg => claimable id reg.db) writes (fun write member reg => congrArg
      (Option.filter fun row : Invitation => row.acceptedAt.isNone)
      (write.find_invitation (outside write member) reg.db)) reg

theorem user_keeps {writes : List RegistryWrite}
    (outside : ∀ write ∈ writes, RegistryKey.user id ∉ write.locks) (reg : Registry) :
    ((registry platform).applyAll writes reg).db.users.find id = reg.db.users.find id :=
  @ReadCommitted.Rules.applyAll_keeps _ _ _ _ (registry platform) _
    (fun reg => reg.db.users.find id) writes
    (fun write member reg => write.find_user (outside write member) reg.db) reg

theorem Errand.Standing.statement {here next : Errand} {writes : List RegistryWrite}
    (standing : here.Standing reg pending)
    (turn : here.turn platform ((registry platform).applyAll pending reg) = .write writes next) :
    next.Standing reg (pending ++ writes) := by
  have moves := Errand.moves_of_write turn
  cases moves with
  | look | hash | address | find | register | slug =>
      obtain rfl : pending = [] := standing
      rfl
  | claim found =>
      obtain rfl : pending = [] := standing
      exact ⟨rfl, found⟩
  | @enrol call invitation claimed _ created =>
      obtain ⟨rfl, found⟩ := standing
      have same : claimed.id = invitation.id :=
        (Table.find_eq_some.mp (Option.filter_eq_some_iff.mp found).1).2
      have free : reg.db.users.find call.draw.id = none := by
        obtain ⟨-, -, users, inserted, -⟩ := Db.createUser_ok.mp created
        exact (Table.insert?_eq_some.mp inserted).1
      refine ⟨call.claimedAt, ?_, ?_, free⟩
      · rw [same]
        rfl
      · rw [same]
        exact found
  | @issue _ _ write silent _ =>
      obtain rfl : pending = [] := standing
      exact ⟨write, rfl, silent⟩
  | revoke =>
      obtain rfl : pending = [] := standing
      exact ⟨_, _, rfl⟩
  | found =>
      obtain rfl : pending = [] := standing
      intro write member
      obtain rfl := List.mem_singleton.mp member
      trivial
  | hire =>
      obtain rfl : pending = [] := standing
      intro write member
      cases member
  | join =>
      intro write member
      rcases List.mem_append.mp member with old | new
      · exact standing write old
      · obtain rfl := List.mem_singleton.mp new
        trivial

/-- The rows a call relies on are those it has locked. -/
theorem Errand.Standing.stable {here : Errand} {writes : List RegistryWrite}
    (standing : here.Standing reg pending)
    (apart : ∀ held ∈ pending, ∀ write ∈ writes, ∀ k ∈ held.locks, k ∉ write.locks) :
    here.Standing ((registry platform).applyAll writes reg) pending := by
  cases here with
  | enrolling call invitation claimed =>
      obtain ⟨rfl, found⟩ := standing
      refine ⟨rfl, ?_⟩
      rw [claimable_keeps fun write member =>
        apart _ List.mem_cons_self write member _ List.mem_cons_self]
      exact found
  | admitted admission =>
      obtain ⟨claimedAt, rfl, found, free⟩ := standing
      refine ⟨claimedAt, rfl, ?_, ?_⟩
      · rw [claimable_keeps fun write member =>
          apart _ List.mem_cons_self write member _ List.mem_cons_self]
        exact found
      · rw [user_keeps fun write member =>
          apart _ (List.mem_cons_of_mem _ List.mem_cons_self) write member _ List.mem_cons_self]
        exact free
  | _ => exact standing

/-- A call commits where all of its statements are behind it. -/
theorem Errand.turn_commit {here : Errand} (turn : here.turn platform reg = .commit) :
    (∃ admission, here = .admitted admission) ∨ here = .issued ∨ here = .revoked ∨ here = .joined := by
  have goesOn : ∀ {α : Type} {result : Service α} {writes : List RegistryWrite} {next : α → Errand},
      onceDone result writes next ≠ .commit := by
    intro α result writes next
    cases result <;> (intro turn; cases turn)
  have checks : ∀ {stopped : Bool} {next : Errand}, stopIf stopped next ≠ .commit := by
    intro stopped next
    cases stopped <;> (intro turn; cases turn)
  cases here with
  | admitted admission => exact .inl ⟨admission, rfl⟩
  | issued => exact .inr (.inl rfl)
  | revoked => exact .inr (.inr (.inl rfl))
  | joined => exact .inr (.inr (.inr rfl))
  | hashing | finding => cases turn
  | presenting | enrolling | founding | joining => exact absurd turn goesOn
  | addressing | registering | slugging | hiring => exact absurd turn checks
  | claiming call invitation =>
      have claims : claimTurn call invitation reg.db = .commit := turn
      unfold claimTurn at claims
      split at claims <;> cases claims
  | issuing call existing =>
      rw [Errand.turn_issuing] at turn
      split at turn
      · cases turn
      · unfold issueTurn at turn
        split at turn <;> exact absurd turn goesOn
  | revoking admin id =>
      have revokes : revokeTurn admin id reg.db = .commit := turn
      unfold revokeTurn at revokes
      split at revokes <;> cases revokes

/-- What an acceptance commits. -/
theorem applyAll_admitted (admission : Admission) (claimedAt : Js.Instant) :
    (registry platform).applyAll [.claim admission.claimed.id claimedAt,
        .insertUser admission.account (some admission)] reg =
      ⟨{ (reg.db.claimInvitation admission.claimed.id claimedAt).2 with
          users := (reg.db.users.insert? admission.account).getD reg.db.users },
        reg.admissions ++ [admission]⟩ := by
  show Registry.mk _ (reg.admissions ++ [] ++ [admission]) = _
  rw [List.append_nil]
  rfl

theorem applyAll_deleted (id schoolId : Id) :
    (registry platform).applyAll [.deleteInvitation id schoolId] reg =
      ⟨(reg.db.deleteInvitations id schoolId).2, reg.admissions⟩ := by
  show Registry.mk _ (reg.admissions ++ []) = _
  rw [List.append_nil]
  rfl

/-- Other accounts are made beside the invitations. -/
theorem applyAll_joins (joins : ∀ write ∈ pending, write.Joins) :
    ((registry platform).applyAll pending reg).db.invitations = reg.db.invitations ∧
      ((registry platform).applyAll pending reg).admissions = reg.admissions ∧
      ∀ id account, reg.db.users.find id = some account →
        ((registry platform).applyAll pending reg).db.users.find id = some account := by
  induction pending generalizing reg with
  | nil => exact ⟨rfl, rfl, fun _ _ found => found⟩
  | cons write rest ih =>
      obtain ⟨invitations, admissions, users⟩ := @ih (write.apply reg) fun other member =>
        joins other (List.mem_cons_of_mem _ member)
      have one := joins write List.mem_cons_self
      have head : (write.apply reg).db.invitations = reg.db.invitations ∧
          (write.apply reg).admissions = reg.admissions ∧
          ∀ id account, reg.db.users.find id = some account →
            (write.apply reg).db.users.find id = some account := by
        cases write with
        | insertSchool row => exact ⟨rfl, List.append_nil _, fun _ _ found => found⟩
        | insertUser row admission =>
            cases admission with
            | none =>
                refine ⟨rfl, List.append_nil _, fun id account found => ?_⟩
                show ((reg.db.users.insert? row).getD reg.db.users).find id = _
                rw [Table.find_insert_getD, found, Option.some_or]
            | some admission => exact one.elim
        | _ => exact one.elim
      exact ⟨invitations.trans head.1, admissions.trans head.2.1,
        fun id account found => users id account (head.2.2 id account found)⟩

/-- Two invitations to the same address, role and school. -/
structure Invitation.Agrees (left right : Invitation) : Prop where
  email : left.email = right.email
  role : left.role = right.role
  schoolId : left.schoolId = right.schoolId

/-- An account of the address, role and school of an invitation. -/
structure User.Honours (account : User) (invitation : Invitation) : Prop where
  email : account.email = invitation.email
  role : account.role = invitation.role
  schoolId : account.schoolId = invitation.schoolId

/-- What has become of an invitation: one account at most, which is what was offered, and while
the row is there it is accepted exactly when the account was made. -/
structure Registry.Redeemed (invitation : Invitation) (reg : Registry) : Prop where
  row : ∀ row, reg.db.invitations.find invitation.id = some row → row.Agrees invitation ∧
    (row.acceptedAt.isSome = true ↔
      ∃ admission ∈ reg.admissions, admission.claimed.id = invitation.id)
  once : (reg.admissions.filter fun admission =>
    admission.claimed.id == invitation.id).length ≤ 1
  account : ∀ admission ∈ reg.admissions, admission.claimed.id = invitation.id →
    admission.account.Honours invitation ∧
      reg.db.users.find admission.account.id = some admission.account

/-- What a call takes an invitation for, and that it is not one that issues invitations. -/
def Errand.Means (invitation : Invitation) : Errand → Prop
  | .hashing _ looked | .claiming _ looked | .enrolling _ looked _ =>
      looked.id = invitation.id → looked.Agrees invitation
  | .admitted admission =>
      admission.claimed.id = invitation.id → admission.account.Honours invitation
  | .addressing _ | .finding _ | .issuing _ _ | .issued => False
  | _ => True

variable {invitation : Invitation}

theorem findUsable_ok {now : Js.Instant} {token : String} {db : Db} {found : Invitation}
    (usable : findUsable now token db = .ok found) :
    db.invitations.find found.id = some found ∧ found.token = token := by
  have listed := (Option.filter_eq_some_iff.mp (orNotFound_ok.mp usable)).1
  have named := List.find?_some listed
  exact ⟨Table.find_key (List.mem_of_find?_eq_some listed), beq_iff_eq.mp named⟩

theorem claimable_ok {db : Db} {claimed : Invitation} (found : claimable id db = some claimed) :
    db.invitations.find id = some claimed ∧ claimed.id = id ∧ claimed.acceptedAt = none := by
  obtain ⟨there, opens⟩ := Option.filter_eq_some_iff.mp found
  exact ⟨there, (Table.find_eq_some.mp there).2, Option.isNone_iff_eq_none.mp opens⟩

/-- What a call takes an invitation for is what the row offers. -/
theorem Errand.Means.statement {here next : Errand} {writes : List RegistryWrite}
    (redeemed : reg.Redeemed invitation) (standing : here.Standing reg pending)
    (means : here.Means invitation)
    (turn : here.turn platform ((registry platform).applyAll pending reg) = .write writes next) :
    next.Means invitation := by
  have moves := Errand.moves_of_write turn
  cases moves with
  | look usable =>
      obtain rfl : pending = [] := standing
      intro same
      have there := (findUsable_ok usable).1
      rw [same] at there
      exact (redeemed.row _ there).1
  | hash | claim => exact means
  | @enrol call looked claimed _ created =>
      obtain ⟨-, found⟩ := standing
      intro same
      have agrees := means ((claimable_ok found).2.1.symm.trans same)
      exact ⟨agrees.email, agrees.role, agrees.schoolId⟩
  | address | find | issue => exact means.elim
  | revoke | register | slug | found | hire | join => trivial

/-- The one account of an invitation is made while the row is open and locked. -/
theorem Registry.Redeemed.enrol {admission : Admission} (redeemed : reg.Redeemed invitation)
    (found : claimable admission.claimed.id reg.db = some admission.claimed)
    (free : reg.db.users.find admission.account.id = none)
    (honours : admission.claimed.id = invitation.id → admission.account.Honours invitation)
    (claimedAt : Js.Instant) :
    Registry.Redeemed invitation
      ⟨{ (reg.db.claimInvitation admission.claimed.id claimedAt).2 with
          users := (reg.db.users.insert? admission.account).getD reg.db.users },
        reg.admissions ++ [admission]⟩ := by
  obtain ⟨there, -, opens⟩ := claimable_ok found
  have first : admission.claimed.id = invitation.id →
      ∀ earlier ∈ reg.admissions, earlier.claimed.id ≠ invitation.id := by
    intro same earlier member named
    rw [same] at there
    have accepted := (redeemed.row _ there).2.mpr ⟨earlier, member, named⟩
    rw [opens] at accepted
    cases accepted
  refine ⟨fun row held => ?_, ?_, fun other member named => ?_⟩
  · have now := Db.find_claimInvitation reg.db admission.claimed.id claimedAt invitation.id
    obtain ⟨before, listed, rfl⟩ := Option.map_eq_some_iff.mp (now.symm.trans held)
    obtain ⟨agrees, accepted⟩ := redeemed.row before listed
    by_cases same : admission.claimed.id = invitation.id
    · rw [same] at there
      obtain rfl : before = admission.claimed := Option.some.inj (listed.symm.trans there)
      rw [if_pos (by simp [opens])]
      exact ⟨⟨agrees.email, agrees.role, agrees.schoolId⟩,
        iff_of_true rfl ⟨admission, List.mem_append_right _ List.mem_cons_self, same⟩⟩
    · have id : before.id = invitation.id := (Table.find_eq_some.mp listed).2
      have outside : (before.id == admission.claimed.id && before.acceptedAt.isNone) = false := by
        rw [Bool.and_eq_false_iff, beq_eq_false_iff_ne, id]
        exact .inl (Ne.symm same)
      rw [if_neg (Bool.eq_false_iff.mp outside)]
      refine ⟨agrees, accepted.trans ⟨?_, ?_⟩⟩
      · rintro ⟨earlier, member, named⟩
        exact ⟨earlier, List.mem_append_left _ member, named⟩
      · rintro ⟨earlier, member, named⟩
        rcases List.mem_append.mp member with old | new
        · exact ⟨earlier, old, named⟩
        · obtain rfl := List.mem_singleton.mp new
          exact absurd named same
  · rw [List.filter_append, List.length_append]
    by_cases same : admission.claimed.id = invitation.id
    · have none : (reg.admissions.filter fun earlier =>
          earlier.claimed.id == invitation.id) = [] := by
        rw [List.filter_eq_nil_iff]
        intro earlier member
        rw [beq_iff_eq]
        exact first same earlier member
      rw [none, List.length_nil, Nat.zero_add]
      exact List.length_filter_le _ _
    · have nothing : ([admission].filter fun other =>
          other.claimed.id == invitation.id) = [] := by
        rw [List.filter_singleton, beq_eq_false_iff_ne.mpr same]
        rfl
      rw [nothing]
      exact redeemed.once
  · show _ ∧ ((reg.db.users.insert? admission.account).getD reg.db.users).find _ = _
    rw [Table.find_insert_getD]
    rcases List.mem_append.mp member with old | new
    · obtain ⟨honoured, account⟩ := redeemed.account other old named
      rw [account, Option.some_or]
      exact ⟨honoured, rfl⟩
    · obtain rfl := List.mem_singleton.mp new
      rw [free, Option.none_or]
      exact ⟨honours named, if_pos rfl⟩

theorem Registry.Redeemed.revoke (redeemed : reg.Redeemed invitation) (id schoolId : Id) :
    Registry.Redeemed invitation ⟨(reg.db.deleteInvitations id schoolId).2, reg.admissions⟩ where
  row row found := by
    have before : reg.db.invitations.find invitation.id = some row := by
      have kept := Table.find_delete reg.db.invitations
        (fun row => row.id == id && row.schoolId == schoolId) invitation.id
      rw [show (reg.db.invitations.delete _).find invitation.id = some row from found] at kept
      exact (Option.filter_eq_some_iff.mp kept.symm).1
    exact redeemed.row row before
  once := redeemed.once
  account := redeemed.account

theorem redemption_discipline (platform : Platform) (invitation : Invitation) :
    Discipline (registry platform) (fun _ _ => True) (Registry.Redeemed invitation)
      fun reg here pending => here.Standing reg pending ∧ here.Means invitation where
  statement reg here pending writes next redeemed held turn :=
    ⟨held.1.statement turn, held.2.statement redeemed held.1 turn⟩
  commit reg here pending redeemed held turn := by
    obtain ⟨standing, means⟩ := held
    rcases Errand.turn_commit turn with ⟨admission, rfl⟩ | rfl | rfl | rfl
    · obtain ⟨claimedAt, rfl, found, free⟩ := standing
      rw [applyAll_admitted]
      exact redeemed.enrol found free means claimedAt
    · exact means.elim
    · obtain ⟨id, schoolId, rfl⟩ := standing
      rw [applyAll_deleted]
      exact redeemed.revoke id schoolId
    · obtain ⟨invitations, admissions, users⟩ := applyAll_joins standing
      refine ⟨fun row found => ?_, ?_, fun admission member same => ?_⟩
      · rw [invitations] at found
        rw [admissions]
        exact redeemed.row row found
      · rw [admissions]
        exact redeemed.once
      · rw [admissions] at member
        obtain ⟨honours, account⟩ := redeemed.account admission member same
        exact ⟨honours, users _ _ account⟩
  stable reg here pending there others _ _ _ _ apart held :=
    ⟨held.1.stable apart, held.2⟩

/-- Where a call begins. -/
def Errand.Begins : Errand → Prop
  | .presenting _ | .addressing _ | .revoking _ _ | .registering _ _ | .hiring _ _ _ => True
  | _ => False

def Errand.Invites : Errand → Prop
  | .addressing _ | .finding _ | .issuing _ _ | .issued => True
  | _ => False

theorem Errand.Begins.standing {here : Errand} (begins : here.Begins) : here.Standing reg [] := by
  cases here with
  | presenting | addressing | revoking | registering | hiring => rfl
  | _ => exact begins.elim

theorem Errand.Begins.means {here : Errand} (begins : here.Begins) (other : ¬ here.Invites) :
    here.Means invitation := by
  cases here with
  | presenting | revoking | registering | hiring => trivial
  | addressing => exact (other trivial).elim
  | _ => exact begins.elim

/-- A claim that comes too late, or an address that has an account by now. -/
def Errand.thwarted (db : Db) : Errand → Bool
  | .claiming _ looked => (claimable looked.id db).isNone
  | .enrolling _ looked _ => db.emailTaken looked.email
  | _ => false

theorem Errand.turn_of_thwarted {here : Errand} (thwarted : here.thwarted reg.db = true) :
    here.turn platform reg = .fail := by
  cases here with
  | claiming call looked =>
      have late : claimable looked.id reg.db = none := Option.isNone_iff_eq_none.mp thwarted
      show claimTurn call looked reg.db = .fail
      rw [claimTurn, late]
  | enrolling call looked claimed =>
      obtain ⟨other, member, same⟩ := List.any_eq_true.mp thwarted
      have taken : ∀ next, reg.db.createUser (newcomer call.draw call.name looked) ≠ .ok next := by
        intro next created
        obtain ⟨-, free, -⟩ := Db.createUser_ok.mp created
        exact free other member (beq_iff_eq.mp same)
      show enrolTurn call looked claimed reg.db = .fail
      cases created : reg.db.createUser (newcomer call.draw call.name looked) with
      | error reason => rw [enrolTurn, created, onceDone]
      | ok next => exact absurd created (taken next)
  | _ => cases thwarted

/-- An invitation makes one account at most, for whom it was sent to, and a call that comes too late
or is undone leaves nothing behind. -/
theorem invitation_single_use {τ : Type} [DecidableEq τ] {db : Db} {first : τ → Errand}
    {after : RegistryState τ} (begun : ∀ t, (first t).Begins ∧ ¬ (first t).Invites)
    (found : db.invitations.find invitation.id = some invitation)
    (opens : invitation.acceptedAt = none)
    (run : Run (registry platform) (fun _ _ => True) (.start ⟨db, []⟩ first) after) :
    after.committed.Redeemed invitation ∧ ∀ t next,
      ReadCommitted.Step (registry platform) t after next →
      (next.committed = after.committed ∨ ∃ here, (after.sessions t).here = some here ∧
        here.turn platform (after.view (registry platform) t) = .commit) ∧
      ∀ here, (after.sessions t).here = some here →
        here.thwarted (after.view (registry platform) t).db = true → next = after.put t ⟨none, []⟩ := by
  have fresh : Registry.Redeemed invitation ⟨db, []⟩ := by
    refine ⟨fun row there => ?_, Nat.zero_le _, fun _ made => absurd made List.not_mem_nil⟩
    obtain rfl := Option.some.inj (found.symm.trans there)
    refine ⟨⟨rfl, rfl, rfl⟩, iff_of_false ?_ ?_⟩
    · rw [opens]
      exact Bool.false_ne_true
    · rintro ⟨_, made, _⟩
      exact List.not_mem_nil made
  have kept := (redemption_discipline platform invitation).run
    (ReadCommitted.State.start_disciplined fresh fun t =>
      ⟨(begun t).1.standing, (begun t).1.means (begun t).2⟩) (run.unguarded fun _ _ => trivial)
  refine ⟨kept.sound, fun t next step => ⟨step.committed, fun here standing thwarted => ?_⟩⟩
  exact step.undone standing (Errand.turn_of_thwarted thwarted)

end

/-- An invitation on its way, its link still to be opened. -/
def cydInvited : World :=
  World.empty.after .plain [foxSchool, (.quiet "i1", .command "a1" (.invite "cyd@x.io"))]

def cydInvitation : Invitation :=
  ⟨"i1", "cyd@x.io", "random", .tutor, 1772964000000, none, 1772359200000, "s1", "a1"⟩

/-- Two taps on one link. -/
def cydTaps : Bool → Errand
  | true => .presenting ⟨(Outside.quiet "t1").draw, 1772359200500, "random", "Cyd"⟩
  | false => .presenting ⟨(Outside.quiet "t2").draw, 1772359200700, "random", "Cyd"⟩

/-- Both taps have looked the invitation up; one of them claims it, and the other is too late. -/
theorem cyd_joins_once : Reachable .plain cydInvited ∧ ∃ after : RegistryState Bool,
    Run (registry .plain) (fun _ _ => True) (.start ⟨cydInvited.db, []⟩ cydTaps) after ∧
      after.committed.admissions.length = 1 ∧ after.committed.Redeemed cydInvitation ∧
      ∀ next, ReadCommitted.Step (registry .plain) false after next →
        next = after.put false ⟨none, []⟩ := by
  have carried : ((ReadCommitted.State.start ⟨cydInvited.db, []⟩ cydTaps).schedule
      (registry .plain) (fun _ _ => true) [true, false, true, false, true, true, true]).any
      (fun state => decide (state.committed.admissions.length = 1 ∧
        (state.sessions false).here.any fun here =>
          here.thwarted (state.view (registry .plain) false).db)) = true := by
    decide +kernel
  obtain ⟨after, scheduled, ended⟩ := (Option.any_eq_true _ _).mp carried
  obtain ⟨once, waiting⟩ := of_decide_eq_true ended
  obtain ⟨_, standing, late⟩ := (Option.any_eq_true _ _).mp waiting
  have run : Run (registry .plain) (fun _ _ => True) (.start ⟨cydInvited.db, []⟩ cydTaps) after :=
    ReadCommitted.State.schedule_run (fun _ _ _ => trivial) scheduled
  obtain ⟨redeemed, steps⟩ := @invitation_single_use .plain cydInvitation Bool _ cydInvited.db
    cydTaps after (fun t => by cases t <;> exact ⟨trivial, id⟩) (by decide +kernel) rfl run
  exact ⟨.after .plain .refl _, after, run, once, redeemed,
    fun next step => (steps false next step).2 _ standing late⟩

end TutorApp
