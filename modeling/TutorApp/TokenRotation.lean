import TutorApp.MeetingExchange
import TutorApp.RotatingCredential

set_option autoImplicit false

namespace TutorApp

open Relational
open Js (Instant)
open RotatingCredential (Stored Phase)
open MeetingAccountsService

/-- How a token endpoint answers that rotates refresh tokens: it takes the one it issued last,
issues a new one with every token set, and rejects any other. No token it issues is empty. The
last argument is what it issues. -/
inductive Answers (accepted : String) (issued : List String) :
    TokenGrant → HttpReply → Option String → Prop where
  | refreshed {reply : HttpReply} {tokens : TokenSet} {fresh : String}
      (read : readTokens reply = .ok tokens) (rotated : tokens.refreshToken = some fresh)
      (new : fresh ∉ issued) (spelt : fresh ≠ "") :
      Answers accepted issued (.refreshToken accepted) reply (some fresh)
  | authorised {code uri : String} {reply : HttpReply} {tokens : TokenSet} {fresh : String}
      (read : readTokens reply = .ok tokens) (rotated : tokens.refreshToken = some fresh)
      (new : fresh ∉ issued) (spelt : fresh ≠ "") :
      Answers accepted issued (.authorizationCode code uri) reply (some fresh)
  | rejected {token : String} {reply : HttpReply} (stale : token ≠ accepted)
      (error : (readTokens reply).isOk = false) :
      Answers accepted issued (.refreshToken token) reply none

/-- Where a call of `createRoom` or of `completeConnection` stands. -/
inductive ConnectionPhase where
  | booking
  | refreshing (account : MeetingAccount) (token : String)
  | writing (account : MeetingAccount) (tokens : TokenSet)
  | forgetting (account : MeetingAccount)
  | connecting (code uri : String)
  | storing (tokens : TokenSet) (refreshToken : String)
  | finished
  deriving Repr, DecidableEq

/-- One tutor's calls against one provider. -/
structure Connections (τ : Type) where
  db : Db
  accepted : String
  issued : List String
  calls : τ → ConnectionPhase

namespace MeetingAccountsService

/-- What a refresh leads to. -/
def refreshed (account : MeetingAccount) : Service TokenSet → ConnectionPhase
  | .ok tokens => .writing account tokens
  | .error _ => .forgetting account

/-- What the exchange of a code leads to; without a refresh token the call ends. -/
def consented : Service TokenSet → ConnectionPhase
  | .ok tokens =>
      match tokens.refreshToken with
      | some refreshToken => .storing tokens refreshToken
      | none => .finished
  | .error _ => .finished

section

variable (platform : Platform) (user : User) (provider : MeetingProvider)

/-- What a booking does with the account it reads. -/
def looked (now : Instant) (db : Db) : ConnectionPhase :=
  if !isConnectable provider then .finished
  else
    match accountOf db user.id provider with
    | none => .finished
    | some account =>
        match cachedToken platform now account with
        | some _ => .finished
        | none =>
            match decrypt platform account.refreshToken with
            | none => .forgetting account
            | some token => .refreshing account token

/-- The database after a write-back, which fails on a row that is gone. -/
def written (draw : Draw) (account : MeetingAccount) (tokens : TokenSet) (db : Db) : Db :=
  match writeBack platform draw account tokens db with
  | .ok next => next
  | .error _ => db

/-- The database after a refresh and what it leads to. -/
def afterRefresh (draw : Draw) (account : MeetingAccount) (db : Db) : Service TokenSet → Db
  | .ok tokens => written platform draw account tokens db
  | .error _ => db.forgetMeetingAccount account.id

def upserted (draw : Draw) (label : Option String) (tokens : TokenSet) (refreshToken : String)
    (db : Db) : Service Db := do
  let row ← connectionRow platform draw user.id provider tokens refreshToken label
  db.upsertMeetingAccount row

def stored (draw : Draw) (label : Option String) (tokens : TokenSet) (refreshToken : String)
    (db : Db) : Db :=
  match upserted platform user provider draw label tokens refreshToken db with
  | .ok next => next
  | .error _ => db

end

end MeetingAccountsService

section

variable {τ : Type}

def Connections.put [DecidableEq τ] (state : Connections τ) (t : τ) (phase : ConnectionPhase) :
    Connections τ :=
  { state with calls := Function.update state.calls t phase }

/-- What the endpoint issued is what it accepts from then on. -/
def Connections.answered (state : Connections τ) : Option String → Connections τ
  | some fresh => { state with accepted := fresh, issued := fresh :: state.issued }
  | none => state

def Connections.leave (state : Connections τ) (db : Db) : Connections τ := { state with db }

variable (platform : Platform) (user : User) (provider : MeetingProvider)

/-- A step of one call. A clock and a lifetime make a date, and an id is drawn once. -/
inductive ConnectionStep [DecidableEq τ] (t : τ) (state : Connections τ) : Connections τ → Prop where
  | look (now : Instant) (booking : state.calls t = .booking) :
      ConnectionStep t state (state.put t (looked platform user provider now state.db))
  | refresh {account : MeetingAccount} {token : String} {reply : HttpReply} {issue : Option String}
      (refreshing : state.calls t = .refreshing account token)
      (answers : Answers state.accepted state.issued (.refreshToken token) reply issue) :
      ConnectionStep t state ((state.answered issue).put t (refreshed account
        (exchange platform (fun _ => reply) account.provider (.refreshToken token)).1))
  | write (draw : Draw) {account : MeetingAccount} {tokens : TokenSet}
      (writing : state.calls t = .writing account tokens)
      (dated : (expiryOf draw.now tokens).isOk = true) :
      ConnectionStep t state
        ((state.leave (written platform draw account tokens state.db)).put t .finished)
  | forget {account : MeetingAccount} (forgetting : state.calls t = .forgetting account) :
      ConnectionStep t state
        ((state.leave (state.db.forgetMeetingAccount account.id)).put t .finished)
  | authorise {code uri : String} {reply : HttpReply} {issue : Option String}
      (connecting : state.calls t = .connecting code uri)
      (answers : Answers state.accepted state.issued (.authorizationCode code uri) reply issue) :
      ConnectionStep t state ((state.answered issue).put t (consented
        (exchange platform (fun _ => reply) provider (.authorizationCode code uri)).1))
  | store (draw : Draw) (label : Option String) {tokens : TokenSet} {refreshToken : String}
      (storing : state.calls t = .storing tokens refreshToken)
      (dated : (expiryOf draw.now tokens).isOk = true)
      (drawn : state.db.meetingAccounts.find draw.id = none) :
      ConnectionStep t state ((state.leave
        (stored platform user provider draw label tokens refreshToken state.db)).put t .finished)

/-- No write-back and no upsert lands on a row that holds the accepted token, and no row is
deleted that holds it or that a booking is still to write it to. -/
def Connections.Harmless (state : Connections τ) : ConnectionPhase → Prop
  | .writing account _ => ∀ row ∈ accountOf state.db user.id provider, row.id = account.id →
      decrypt platform row.refreshToken ≠ some state.accepted
  | .storing _ _ => ∀ row ∈ accountOf state.db user.id provider,
      decrypt platform row.refreshToken ≠ some state.accepted
  | .forgetting account => ∀ row ∈ accountOf state.db user.id provider, row.id = account.id →
      decrypt platform row.refreshToken ≠ some state.accepted ∧
        ∀ other held tokens, state.calls other = .writing held tokens → held.id = account.id →
          tokens.refreshToken ≠ some state.accepted
  | _ => True

/-- Any interleaving of the calls' steps. -/
def ConnectionRun [DecidableEq τ] (before after : Connections τ) : Prop :=
  Relation.ReflTransGen (fun state next => ∃ t, ConnectionStep platform user provider t state next)
    before after

/-- One whose steps are all harmless. -/
def HarmlessRun [DecidableEq τ] (before after : Connections τ) : Prop :=
  Relation.ReflTransGen (fun state next => ∃ t, ConnectionStep platform user provider t state next ∧
    state.Harmless platform user provider (state.calls t)) before after

end

/-- The tutor's connection as far as its refresh token goes. -/
def connection (platform : Platform) (user : User) (provider : MeetingProvider) (db : Db) :
    Option (Stored Id String) :=
  (accountOf db user.id provider).map fun row => ⟨row.id, decrypt platform row.refreshToken⟩

/-- The unique key on (user, provider), for one pair, and the user it refers to. -/
structure OneConnection (user : User) (provider : MeetingProvider) (db : Db) : Prop where
  unique : ∀ left ∈ db.meetingAccounts.rows, ∀ right ∈ db.meetingAccounts.rows,
    left.userId = user.id → left.provider = provider →
    right.userId = user.id → right.provider = provider → left = right
  known : db.hasUser user.id = true

section

variable {platform : Platform} {user : User} {provider : MeetingProvider} {draw : Draw}
  {account : MeetingAccount} {tokens : TokenSet} {db : Db} {cipher : Cipher}

theorem decrypt_encrypt (sealed_ : platform.cipher = some cipher)
    (readsBack : ∀ nonce text, text ≠ "" → cipher.decrypt (cipher.encrypt nonce text) = some text)
    (nonce : String) {text : String} (spelt : text ≠ "") :
    decrypt platform (cipher.encrypt nonce text) = some text := by
  rw [decrypt, sealed_, Option.bind_some, readsBack nonce text spelt]

/-- What a write-back makes of the row it is for. -/
def rewrite (cipher : Cipher) (draw : Draw) (fresh : String) (tokens : TokenSet)
    (expiresAt : Instant) (row : MeetingAccount) : MeetingAccount :=
  { row with
    refreshToken := cipher.encrypt draw.nonce fresh
    accessToken := some (cipher.encrypt draw.secondNonce tokens.accessToken)
    accessTokenExpiresAt := some expiresAt }

/-- On a missing row a write-back changes nothing, as its rewriting would. -/
theorem written_rows (sealed_ : platform.cipher = some cipher) {fresh : String}
    (rotated : tokens.refreshToken = some fresh) {expiresAt : Instant}
    (dated : expiryOf draw.now tokens = .ok expiresAt) :
    (written platform draw account tokens db).meetingAccounts.rows =
      db.meetingAccounts.rows.map fun row =>
        if row.id = account.id then rewrite cipher draw fresh tokens expiresAt row else row := by
  have done : writeBack platform draw account tokens db = db.updateMeetingAccount account.id
      (cipher.encrypt draw.nonce fresh) (cipher.encrypt draw.secondNonce tokens.accessToken)
      expiresAt := by
    simp only [writeBack, refreshedToken, rotated, encrypt, sealed_, dated, ok_bind]
  rw [written, done]
  cases there : db.meetingAccounts.find account.id with
  | none =>
      have missing := Table.find_eq_none.mp there
      simp only [Db.updateMeetingAccount, updateRow, there, Option.isSome_none, require,
        Bool.false_eq_true, ↓reduceIte, error_bind]
      conv_lhs => rw [← List.map_id db.meetingAccounts.rows]
      apply List.map_congr_left
      intro row member
      rw [if_neg (show ¬ row.id = account.id from missing row member), id]
  | some found =>
      simp only [Db.updateMeetingAccount, updateRow, there, Option.isSome_some, require,
        ↓reduceIte, ok_bind, pure, Except.pure, Table.rows_update, decide_eq_true_eq]
      rfl

theorem written_users :
    (written platform draw account tokens db).users = db.users := by
  unfold written
  split
  · rename_i next done
    obtain ⟨_, -, _, -, _, -, updated⟩ := (writeBack_ok platform).mp done
    obtain ⟨_, -, rfl⟩ := Db.updateMeetingAccount_ok.mp updated
    rfl
  · rfl

theorem connection_written (sealed_ : platform.cipher = some cipher)
    (readsBack : ∀ nonce text, text ≠ "" → cipher.decrypt (cipher.encrypt nonce text) = some text)
    {fresh : String} (rotated : tokens.refreshToken = some fresh) (spelt : fresh ≠ "")
    (dated : (expiryOf draw.now tokens).isOk = true) :
    connection platform user provider (written platform draw account tokens db) =
      (connection platform user provider db).map (Stored.replace account.id fresh) := by
  obtain ⟨expiresAt, expires⟩ := exists_of_isOk dated
  rw [connection, accountOf, written_rows sealed_ rotated expires, List.find?_map, connection,
    accountOf, Option.map_map, Option.map_map]
  have same : ((fun row : MeetingAccount => row.userId == user.id && row.provider == provider) ∘
      fun row => if row.id = account.id then rewrite cipher draw fresh tokens expiresAt row else row) =
      fun row => row.userId == user.id && row.provider == provider := by
    funext row
    simp only [Function.comp_apply]
    split <;> rfl
  rw [same]
  congr 1
  funext row
  simp only [Function.comp_apply, Stored.replace]
  split
  · rw [rewrite, decrypt_encrypt sealed_ readsBack draw.nonce spelt]
  · rfl

/-- Rewriting that moves no row to another user or provider. -/
theorem OneConnection.map (one : OneConnection user provider db) {next : Db}
    {change : MeetingAccount → MeetingAccount} (users : next.users = db.users)
    (rows : next.meetingAccounts.rows = db.meetingAccounts.rows.map change)
    (owner : ∀ row, (change row).userId = row.userId)
    (named : ∀ row, (change row).provider = row.provider) : OneConnection user provider next := by
  constructor
  · intro left first right second
    rw [rows] at first second
    obtain ⟨old, present, rfl⟩ := List.mem_map.mp first
    obtain ⟨older, there, rfl⟩ := List.mem_map.mp second
    rw [owner, owner, named, named]
    intro user1 provider1 user2 provider2
    rw [one.unique old present older there user1 provider1 user2 provider2]
  · rw [Db.hasUser, users]
    exact one.known

theorem OneConnection.written (one : OneConnection user provider db) (account : MeetingAccount)
    (sealed_ : platform.cipher = some cipher) {fresh : String}
    (rotated : tokens.refreshToken = some fresh) (dated : (expiryOf draw.now tokens).isOk = true) :
    OneConnection user provider (written platform draw account tokens db) := by
  obtain ⟨expiresAt, expires⟩ := exists_of_isOk dated
  apply one.map written_users (written_rows sealed_ rotated expires)
  · intro row
    split <;> rfl
  · intro row
    split <;> rfl

theorem OneConnection.forget (one : OneConnection user provider db) (id : Id) :
    OneConnection user provider (db.forgetMeetingAccount id) where
  unique left first right second :=
    one.unique left (Table.mem_delete.mp first).1 right (Table.mem_delete.mp second).1
  known := one.known

theorem OneConnection.accountOf_iff (one : OneConnection user provider db) {row : MeetingAccount} :
    accountOf db user.id provider = some row ↔
      row ∈ db.meetingAccounts.rows ∧ row.userId = user.id ∧ row.provider = provider := by
  refine ⟨accountOf_eq_some, ?_⟩
  rintro ⟨member, owner, named⟩
  have found : (accountOf db user.id provider).isSome = true := by
    rw [accountOf, List.find?_isSome]
    exact ⟨row, member, by simp [owner, named]⟩
  obtain ⟨other, held⟩ := Option.isSome_iff_exists.mp found
  obtain ⟨present, itsOwner, itsName⟩ := accountOf_eq_some held
  rw [held, one.unique other present row member itsOwner itsName owner named]

theorem connection_forget (one : OneConnection user provider db) (id : Id) :
    connection platform user provider (db.forgetMeetingAccount id) =
      (connection platform user provider db).filter fun row => row.id != id := by
  have kept : accountOf (db.forgetMeetingAccount id) user.id provider =
      (accountOf db user.id provider).filter fun row => row.id != id := by
    apply Option.ext
    intro row
    rw [(one.forget id).accountOf_iff, Option.filter_eq_some_iff, one.accountOf_iff,
      show row ∈ (db.forgetMeetingAccount id).meetingAccounts.rows ↔ _ from Table.mem_delete]
    simp only [beq_eq_false_iff_ne, bne_iff_ne]
    exact and_right_comm
  rw [connection, kept, connection]
  cases accountOf db user.id provider with
  | none => rfl
  | some row =>
      by_cases same : row.id = id
      · rw [Option.map_some, Option.filter_some_neg (by simp [same]),
          Option.filter_some_neg (by simp [same])]
        rfl
      · rw [Option.map_some, Option.filter_some_pos (by simpa using same),
          Option.filter_some_pos (by simpa using same)]
        rfl

/-- What a completed connection leaves, with the columns that matter to a later refresh. -/
theorem connectionRow_ok (sealed_ : platform.cipher = some cipher)
    (dated : (expiryOf draw.now tokens).isOk = true) (refreshToken : String)
    (label : Option String) :
    ∃ row, connectionRow platform draw user.id provider tokens refreshToken label = .ok row ∧
      row.id = draw.id ∧ row.userId = user.id ∧ row.provider = provider ∧
      row.refreshToken = cipher.encrypt draw.nonce refreshToken := by
  obtain ⟨expiresAt, expires⟩ := exists_of_isOk dated
  have done : connectionRow platform draw user.id provider tokens refreshToken label = .ok {
      id := draw.id, provider, userId := user.id
      refreshToken := cipher.encrypt draw.nonce refreshToken
      accessToken := some (cipher.encrypt draw.secondNonce tokens.accessToken)
      accessTokenExpiresAt := some expiresAt
      accountLabel := label, createdAt := draw.now } := by
    simp only [connectionRow, encrypt, sealed_, expires, ok_bind]
    rfl
  exact ⟨_, done, rfl, rfl, rfl, rfl⟩

/-- What an upsert makes of the rows it finds. -/
def overwrite (row other : MeetingAccount) : MeetingAccount :=
  if other.userId == row.userId && other.provider == row.provider then { other with
    refreshToken := row.refreshToken, accessToken := row.accessToken,
    accessTokenExpiresAt := row.accessTokenExpiresAt, accountLabel := row.accountLabel }
  else other

/-- An upsert rewrites the one connection there is. -/
theorem upsertMeetingAccount_present (one : OneConnection user provider db)
    {row old : MeetingAccount} (owner : row.userId = user.id) (named : row.provider = provider)
    (held : accountOf db user.id provider = some old) :
    ∃ next, db.upsertMeetingAccount row = .ok next ∧ OneConnection user provider next ∧
      ∃ after, accountOf next user.id provider = some after ∧ after.id = old.id ∧
        after.refreshToken = row.refreshToken := by
  obtain ⟨member, itsOwner, itsName⟩ := accountOf_eq_some held
  have known : db.hasUser row.userId = true := owner ▸ one.known
  have mine : (old.userId == row.userId && old.provider == row.provider) = true := by
    rw [owner, named, itsOwner, itsName, Bool.and_eq_true, beq_iff_eq, beq_iff_eq]
    exact ⟨rfl, rfl⟩
  have any : (db.meetingAccounts.rows.any fun other =>
      other.userId == row.userId && other.provider == row.provider) = true :=
    List.any_eq_true.mpr ⟨old, member, mine⟩
  obtain ⟨next, stored, users, rows⟩ : ∃ next, db.upsertMeetingAccount row = .ok next ∧
      next.users = db.users ∧
      next.meetingAccounts.rows = db.meetingAccounts.rows.map (overwrite row) := by
    simp only [Db.upsertMeetingAccount, known, require, ↓reduceIte, ok_bind, any]
    exact ⟨_, rfl, rfl, rfl⟩
  have unique : OneConnection user provider next := by
    apply one.map users rows
    · intro other
      unfold overwrite
      split <;> rfl
    · intro other
      unfold overwrite
      split <;> rfl
  have rewritten : overwrite row old = { old with
      refreshToken := row.refreshToken, accessToken := row.accessToken,
      accessTokenExpiresAt := row.accessTokenExpiresAt, accountLabel := row.accountLabel } :=
    if_pos mine
  refine ⟨next, stored, unique, overwrite row old, unique.accountOf_iff.mpr ?_, ?_, ?_⟩
  · rw [rows, rewritten, ← rewritten]
    refine ⟨List.mem_map_of_mem member, ?_, ?_⟩ <;> rw [rewritten] <;> assumption
  · rw [rewritten]
  · rw [rewritten]

/-- Where there is no connection, it adds one under an id just drawn. -/
theorem upsertMeetingAccount_absent (one : OneConnection user provider db)
    {row : MeetingAccount} (owner : row.userId = user.id) (named : row.provider = provider)
    (absent : accountOf db user.id provider = none)
    (drawn : db.meetingAccounts.find row.id = none) :
    ∃ next, db.upsertMeetingAccount row = .ok next ∧ OneConnection user provider next ∧
      accountOf next user.id provider = some row := by
  have known : db.hasUser row.userId = true := owner ▸ one.known
  have nobody : ∀ other ∈ db.meetingAccounts.rows,
      ¬ (other.userId = user.id ∧ other.provider = provider) := by
    intro other member both
    have found := one.accountOf_iff.mpr ⟨member, both⟩
    rw [absent] at found
    cases found
  have none_ : (db.meetingAccounts.rows.any fun other =>
      other.userId == row.userId && other.provider == row.provider) = false := by
    rw [List.any_eq_false]
    intro other member both
    rw [owner, named, Bool.and_eq_true, beq_iff_eq, beq_iff_eq] at both
    exact nobody other member both
  cases inserted : db.meetingAccounts.insert? row with
  | none =>
      have taken := Table.insert?_eq_none.mp inserted
      rw [show db.meetingAccounts.find (key row) = none from drawn] at taken
      cases taken
  | some accounts =>
      have done : db.upsertMeetingAccount row = .ok { db with meetingAccounts := accounts } := by
        simp only [Db.upsertMeetingAccount, known, require, ↓reduceIte, ok_bind, none_,
          Bool.false_eq_true, createRow, inserted]
        rfl
      have unique : OneConnection user provider { db with meetingAccounts := accounts } := by
        constructor
        · intro left first right second user1 provider1 user2 provider2
          rcases (Table.mem_insert inserted).mp first with old | rfl
          · exact absurd ⟨user1, provider1⟩ (nobody left old)
          · rcases (Table.mem_insert inserted).mp second with old | rfl
            · exact absurd ⟨user2, provider2⟩ (nobody right old)
            · rfl
        · exact one.known
      exact ⟨_, done, unique, unique.accountOf_iff.mpr
        ⟨(Table.mem_insert inserted).mpr (.inr rfl), owner, named⟩⟩

/-- Storing a token set leaves its refresh token in the connection. -/
theorem connection_stored (one : OneConnection user provider db)
    (sealed_ : platform.cipher = some cipher)
    (readsBack : ∀ nonce text, text ≠ "" → cipher.decrypt (cipher.encrypt nonce text) = some text)
    (dated : (expiryOf draw.now tokens).isOk = true)
    (drawn : db.meetingAccounts.find draw.id = none) {refreshToken : String}
    (spelt : refreshToken ≠ "") (label : Option String) :
    OneConnection user provider
        (stored platform user provider draw label tokens refreshToken db) ∧
      connection platform user provider
          (stored platform user provider draw label tokens refreshToken db) =
        some ⟨((connection platform user provider db).map Stored.id).getD draw.id,
          some refreshToken⟩ := by
  obtain ⟨row, made, drawnId, owner, named, sealedToken⟩ :=
    connectionRow_ok sealed_ dated refreshToken label
  have upserts : upserted platform user provider draw label tokens refreshToken db =
      db.upsertMeetingAccount row := by
    rw [upserted, made]
    rfl
  rw [← drawnId] at drawn
  cases held : accountOf db user.id provider with
  | none =>
      obtain ⟨after, done, unique, found⟩ := upsertMeetingAccount_absent one owner named held drawn
      have same : stored platform user provider draw label tokens refreshToken db = after := by
        rw [stored, upserts, done]
      rw [same, connection, found, connection, held, Option.map_some, sealedToken,
        decrypt_encrypt sealed_ readsBack draw.nonce spelt, drawnId]
      exact ⟨unique, rfl⟩
  | some old =>
      obtain ⟨after, done, unique, kept, found, sameId, sameToken⟩ :=
        upsertMeetingAccount_present one owner named held
      have same : stored platform user provider draw label tokens refreshToken db = after := by
        rw [stored, upserts, done]
      rw [same, connection, found, connection, held, Option.map_some, sameToken, sealedToken,
        decrypt_encrypt sealed_ readsBack draw.nonce spelt, sameId]
      exact ⟨unique, rfl⟩

end

def ConnectionPhase.toPhase : ConnectionPhase → Phase Id String
  | booking => .reading
  | refreshing account token => .spending account.id token
  | writing account tokens =>
      match tokens.refreshToken with
      | some token => .replacing account.id token
      | none => .finished
  | forgetting account => .deleting account.id
  | connecting _ _ => .authorising
  | storing _ refreshToken => .installing refreshToken
  | finished => .finished

section

variable {τ : Type} {platform : Platform} {user : User} {provider : MeetingProvider}
  {cipher : Cipher} {state next : Connections τ} {t : τ}

def Connections.rotation (platform : Platform) (user : User) (provider : MeetingProvider)
    (state : Connections τ) : RotatingCredential.State Id String τ where
  stored := connection platform user provider state.db
  accepted := state.accepted
  issued := state.issued
  parties t := (state.calls t).toPhase

/-- What a phase relies on: an account of the provider that is asked, tokens that rotate, and none
of them empty. -/
def ConnectionPhase.Sane (provider : MeetingProvider) : ConnectionPhase → Prop
  | .refreshing account _ => account.provider = provider
  | .writing _ tokens => ∃ fresh, tokens.refreshToken = some fresh ∧ fresh ≠ ""
  | .storing _ refreshToken => refreshToken ≠ ""
  | _ => True

structure Connections.Sane (user : User) (provider : MeetingProvider) (state : Connections τ) :
    Prop where
  one : OneConnection user provider state.db
  calls : ∀ t, (state.calls t).Sane provider

/-- A deployment that can exchange a provider's tokens and read back what it has sealed of them. -/
structure Deployed (platform : Platform) (provider : MeetingProvider) (cipher : Cipher) : Prop where
  sealed_ : platform.cipher = some cipher
  readsBack : ∀ nonce text, text ≠ "" → cipher.decrypt (cipher.encrypt nonce text) = some text
  configured : (requireCredentials platform provider).isOk = true

@[simp] theorem Connections.answered_db (issue : Option String) :
    (state.answered issue).db = state.db := by
  cases issue <;> rfl

@[simp] theorem Connections.answered_calls (issue : Option String) :
    (state.answered issue).calls = state.calls := by
  cases issue <;> rfl

theorem Deployed.exchange (deployed : Deployed platform provider cipher) (reply : HttpReply)
    (grant : TokenGrant) :
    (exchange platform (fun _ => reply) provider grant).1 = readTokens reply := by
  obtain ⟨credentials, configured⟩ := exists_of_isOk deployed.configured
  rw [MeetingAccountsService.exchange, configured]

theorem looked_cases (now : Instant) (db : Db) :
    looked platform user provider now db = .finished ∨
      ∃ account, accountOf db user.id provider = some account ∧
        ((decrypt platform account.refreshToken = none ∧
            looked platform user provider now db = .forgetting account) ∨
          ∃ token, decrypt platform account.refreshToken = some token ∧
            looked platform user provider now db = .refreshing account token) := by
  unfold looked
  split
  · exact .inl rfl
  · cases held : accountOf db user.id provider with
    | none => exact .inl rfl
    | some account =>
        dsimp only
        split
        · exact .inl rfl
        · right
          refine ⟨account, rfl, ?_⟩
          cases readable : decrypt platform account.refreshToken with
          | none => exact .inl ⟨rfl, rfl⟩
          | some token => exact .inr ⟨token, rfl, rfl⟩

theorem toPhase_replacing {phase : ConnectionPhase} {id : Id} {token : String}
    (replacing : phase.toPhase = .replacing id token) :
    ∃ account tokens, phase = .writing account tokens ∧ account.id = id ∧
      tokens.refreshToken = some token := by
  cases phase with
  | writing account tokens =>
      cases rotated : tokens.refreshToken with
      | none => simp [ConnectionPhase.toPhase, rotated] at replacing
      | some fresh =>
          simp only [ConnectionPhase.toPhase, rotated, Phase.replacing.injEq] at replacing
          exact ⟨account, tokens, rfl, replacing.1, by rw [rotated, replacing.2]⟩
  | _ => simp [ConnectionPhase.toPhase] at replacing

theorem Connections.Harmless.rotation {phase : ConnectionPhase}
    (harmless : state.Harmless platform user provider phase) :
    (state.rotation platform user provider).Harmless phase.toPhase := by
  have stored : ∀ row ∈ connection platform user provider state.db, ∃ account,
      accountOf state.db user.id provider = some account ∧ account.id = row.id ∧
        decrypt platform account.refreshToken = row.token := by
    intro row member
    obtain ⟨account, held, rfl⟩ := Option.map_eq_some_iff.mp member
    exact ⟨account, held, rfl, rfl⟩
  cases phase with
  | writing account tokens =>
      cases rotated : tokens.refreshToken with
      | none =>
          simp only [ConnectionPhase.toPhase, rotated]
          trivial
      | some fresh =>
          simp only [ConnectionPhase.toPhase, rotated]
          intro row member same holds
          obtain ⟨found, held, sameId, sameToken⟩ := stored row member
          exact harmless found held (sameId.trans same) (sameToken.trans holds)
  | storing tokens refreshToken =>
      intro row member holds
      obtain ⟨found, held, -, sameToken⟩ := stored row member
      exact harmless found held (sameToken.trans holds)
  | forgetting account =>
      intro row member same
      obtain ⟨found, held, sameId, sameToken⟩ := stored row member
      obtain ⟨unheld, awaited⟩ := harmless found held (sameId.trans same)
      refine ⟨fun holds => unheld (sameToken.trans holds), fun other replacing => ?_⟩
      obtain ⟨waiting, tokens, writing, named, rotated⟩ := toPhase_replacing replacing
      exact awaited other waiting tokens writing named rotated
  | _ => trivial

theorem rotation_leave (db : Db) :
    (state.leave db).rotation platform user provider =
      (state.rotation platform user provider).store (connection platform user provider db) := rfl

/-- Calls that have not begun, against a provider that accepts the tutor's stored token. -/
structure Connections.Begun (platform : Platform) (user : User) (provider : MeetingProvider)
    (state : Connections τ) : Prop where
  unbegun : ∀ t, state.calls t = .booking ∨ ∃ code uri, state.calls t = .connecting code uri
  stored : ∃ row, accountOf state.db user.id provider = some row ∧
    decrypt platform row.refreshToken = some state.accepted
  known : state.accepted ∈ state.issued
  one : OneConnection user provider state.db

theorem Connections.Begun.invariant (begun : state.Begun platform user provider) :
    (state.rotation platform user provider).Invariant ∧ state.Sane user provider := by
  obtain ⟨row, held, readable⟩ := begun.stored
  have stored : connection platform user provider state.db = some ⟨row.id, some state.accepted⟩ := by
    rw [connection, held, Option.map_some, readable]
  constructor
  · rw [rotation, stored]
    refine .start _ (fun t => ?_) row.id begun.known
    rcases begun.unbegun t with booking | ⟨code, uri, connecting⟩
    · exact .inl (by rw [booking]; rfl)
    · exact .inr (by rw [connecting]; rfl)
  · refine ⟨begun.one, fun t => ?_⟩
    rcases begun.unbegun t with booking | ⟨code, uri, connecting⟩
    · rw [booking]
      trivial
    · rw [connecting]
      trivial

variable [DecidableEq τ]

@[simp] theorem Connections.put_self (phase : ConnectionPhase) :
    (state.put t phase).calls t = phase := Function.update_self ..

theorem Connections.put_other (phase : ConnectionPhase) {other : τ} (different : other ≠ t) :
    (state.put t phase).calls other = state.calls other := Function.update_of_ne different ..

theorem rotation_put (phase : ConnectionPhase) :
    (state.put t phase).rotation platform user provider =
      (state.rotation platform user provider).put t phase.toPhase := by
  have parties : (fun other => (Function.update state.calls t phase other).toPhase) =
      Function.update (fun other => (state.calls other).toPhase) t phase.toPhase := by
    funext other
    by_cases same : other = t
    · subst same
      rw [Function.update_self, Function.update_self]
    · rw [Function.update_of_ne same, Function.update_of_ne same]
  rw [Connections.rotation, Connections.put, RotatingCredential.State.put, parties]
  rfl

/-- A move to another phase, over a database with one connection. -/
theorem Connections.Sane.put (sane : state.Sane user provider) {phase : ConnectionPhase}
    (one : OneConnection user provider next.db) (calls : next.calls = state.calls)
    (relies : phase.Sane provider) : (next.put t phase).Sane user provider where
  one := one
  calls other := by
    by_cases same : other = t
    · rw [same, Connections.put_self]
      exact relies
    · rw [Connections.put_other _ same, calls]
      exact sane.calls other

/-- Every step of a call is a move of its party. -/
theorem ConnectionStep.simulates (deployed : Deployed platform provider cipher)
    (sane : state.Sane user provider) (step : ConnectionStep platform user provider t state next) :
    RotatingCredential.Step t (state.rotation platform user provider)
        (next.rotation platform user provider) ∧ next.Sane user provider := by
  have phaseOf : ∀ {phase}, state.calls t = phase →
      (state.rotation platform user provider).parties t = phase.toPhase :=
    fun same => congrArg ConnectionPhase.toPhase same
  have relies : ∀ {phase}, state.calls t = phase → phase.Sane provider :=
    fun same => same ▸ sane.calls t
  cases step with
  | look now booking =>
      rw [rotation_put]
      rcases looked_cases now state.db with done | ⟨account, held, unreadable | readable⟩
      · rw [done]
        exact ⟨.leave (phaseOf booking), sane.put sane.one rfl trivial⟩
      · obtain ⟨unread, forgets⟩ := unreadable
        have row : connection platform user provider state.db = some ⟨account.id, none⟩ := by
          rw [connection, held, Option.map_some, unread]
        rw [forgets]
        exact ⟨.unreadable (phaseOf booking) row, sane.put sane.one rfl trivial⟩
      · obtain ⟨token, read, refreshes⟩ := readable
        have row : connection platform user provider state.db = some ⟨account.id, some token⟩ := by
          rw [connection, held, Option.map_some, read]
        rw [refreshes]
        exact ⟨.read (phaseOf booking) row, sane.put sane.one rfl (accountOf_eq_some held).2.2⟩
  | @refresh account token reply issue refreshing answers =>
      have ours : account.provider = provider := relies refreshing
      rw [ours, deployed.exchange, rotation_put]
      cases answers with
      | @refreshed _ tokens fresh read rotated new spelt =>
          rw [read]
          have carried : (refreshed account (.ok tokens)).toPhase = .replacing account.id fresh := by
            simp only [refreshed, ConnectionPhase.toPhase, rotated]
          rw [carried]
          exact ⟨.rotate (phaseOf refreshing) new, sane.put sane.one rfl ⟨fresh, rotated, spelt⟩⟩
      | rejected stale error =>
          cases read : readTokens reply with
          | ok tokens =>
              rw [read] at error
              cases error
          | error reason =>
              exact ⟨.refuse (phaseOf refreshing) stale, sane.put sane.one rfl trivial⟩
  | @write draw account tokens writing dated =>
      obtain ⟨fresh, rotated, spelt⟩ : ∃ fresh, tokens.refreshToken = some fresh ∧ fresh ≠ "" :=
        relies writing
      have replacing := phaseOf writing
      simp only [ConnectionPhase.toPhase, rotated] at replacing
      have one := sane.one.written account deployed.sealed_ rotated dated
      refine ⟨?_, sane.put one rfl trivial⟩
      have moved := RotatingCredential.Step.replace replacing
      rw [rotation_put, rotation_leave,
        connection_written deployed.sealed_ deployed.readsBack rotated spelt dated]
      exact moved
  | @forget account forgetting =>
      refine ⟨?_, sane.put (sane.one.forget account.id) rfl trivial⟩
      have moved := RotatingCredential.Step.delete (phaseOf forgetting)
      rw [rotation_put, rotation_leave, connection_forget sane.one]
      exact moved
  | @authorise code uri reply issue connecting answers =>
      rw [deployed.exchange, rotation_put]
      cases answers with
      | @authorised _ _ _ tokens fresh read rotated new spelt =>
          rw [read]
          have carried : (consented (.ok tokens)) = .storing tokens fresh := by
            simp only [consented, rotated]
          rw [carried]
          exact ⟨.authorise (phaseOf connecting) new, sane.put sane.one rfl spelt⟩
  | @store draw label tokens refreshToken storing dated drawn =>
      have spelt : refreshToken ≠ "" := relies storing
      obtain ⟨one, kept⟩ := connection_stored sane.one deployed.sealed_ deployed.readsBack dated drawn
        spelt label
      refine ⟨?_, sane.put one rfl trivial⟩
      have moved := RotatingCredential.Step.install (phaseOf storing) draw.id
      rw [rotation_put, rotation_leave, kept]
      exact moved

theorem HarmlessRun.invariant (deployed : Deployed platform provider cipher)
    (begun : state.Begun platform user provider)
    (run : HarmlessRun platform user provider state next) :
    (next.rotation platform user provider).Invariant ∧ next.Sane user provider := by
  induction run with
  | refl => exact begun.invariant
  | tail _ step ih =>
      obtain ⟨t, moved, harmless⟩ := step
      obtain ⟨simulated, sane⟩ := moved.simulates deployed ih.2
      have guarded : RotatingCredential.Guarded _ _ := ⟨t, simulated, harmless.rotation⟩
      exact ⟨guarded.invariant ih.1, sane⟩

section

variable {draw : Draw} {endpoints : Endpoints} {request : RoomRequest} {db : Db}

/-- What the service's `createRoom` leaves, by the phases it goes through. -/
theorem createRoom_looked :
    (createRoom platform user draw endpoints provider request db).db =
      match looked platform user provider draw.now db with
      | .forgetting account => db.forgetMeetingAccount account.id
      | .refreshing account token => afterRefresh platform draw account db
          (exchange platform endpoints account.provider (.refreshToken token)).1
      | _ => db := by
  unfold createRoom looked
  split
  · rfl
  · cases accountOf db user.id provider with
    | none => rfl
    | some account =>
        refine Eq.trans ?_ (?_ : (accessTokenFor platform draw endpoints account db).db = _)
        · dsimp only
          split
          · split <;> rfl
          · rfl
        unfold accessTokenFor
        dsimp only
        cases cachedToken platform draw.now account with
        | some cached => rfl
        | none =>
            cases decrypt platform account.refreshToken with
            | none => rfl
            | some token =>
                dsimp only
                generalize exchange platform endpoints account.provider (.refreshToken token) = answer
                obtain ⟨result, calls⟩ := answer
                cases result with
                | error reason => rfl
                | ok tokens =>
                    dsimp only [afterRefresh]
                    unfold written
                    cases writeBack platform draw account tokens db <;> rfl

/-- What the service's `completeConnection` leaves once the request is verified. -/
theorem completeConnection_consented {code connect uri : String}
    (configured : (requireCredentials platform provider).isOk = true)
    (verified : stateUser platform draw.now provider connect = .ok user.id)
    (redirects : redirectUri platform provider = .ok uri) :
    (completeConnection platform draw endpoints provider code connect db).db =
      match consented (exchange platform endpoints provider (.authorizationCode code uri)).1 with
      | .storing tokens refreshToken =>
          stored platform user provider draw (describeAccount endpoints provider tokens.accessToken).1
            tokens refreshToken db
      | _ => db := by
  obtain ⟨credentials, configured⟩ := exists_of_isOk configured
  unfold completeConnection
  simp only [configured, verified, redirects, ok_bind, pure, Except.pure]
  generalize exchange platform endpoints provider (.authorizationCode code uri) = answer
  obtain ⟨result, calls⟩ := answer
  cases result with
  | error reason => rfl
  | ok tokens =>
      simp only [consented]
      cases tokens.refreshToken with
      | none => rfl
      | some refreshToken =>
          simp only [stored, upserted]
          split
          · rename_i reason failed
            rw [failed]
          · rename_i next done
            rw [done]

variable (platform user provider) in
/-- The last step of a booking that has spent a refresh token. -/
theorem refreshed_run {account : MeetingAccount} {result : Service TokenSet}
    (waiting : state.calls t = refreshed account result)
    (dated : ∀ tokens, result = .ok tokens → (expiryOf draw.now tokens).isOk = true) :
    ∃ next, ConnectionRun platform user provider state next ∧
      next.db = afterRefresh platform draw account state.db result ∧
      next.calls t = .finished ∧ ∀ other, other ≠ t → next.calls other = state.calls other := by
  cases result with
  | error reason =>
      exact ⟨_, .single ⟨t, .forget waiting⟩, rfl, Connections.put_self _,
        fun other different => Connections.put_other _ different⟩
  | ok tokens =>
      exact ⟨_, .single ⟨t, .write draw waiting (dated tokens rfl)⟩, rfl, Connections.put_self _,
        fun other different => Connections.put_other _ different⟩

/-- A booking that is not interrupted goes through its steps to what the service leaves. -/
theorem createRoom_run {credentials : Credentials} (booking : state.calls t = .booking)
    (configured : requireCredentials platform provider = .ok credentials)
    (answers : ∀ token, ∃ issue, Answers state.accepted state.issued (.refreshToken token)
      (endpoints (.token provider credentials (.refreshToken token))) issue)
    (dated : ∀ token tokens, readTokens (endpoints (.token provider credentials
      (.refreshToken token))) = .ok tokens → (expiryOf draw.now tokens).isOk = true) :
    ∃ next, ConnectionRun platform user provider state next ∧
      next.db = (createRoom platform user draw endpoints provider request state.db).db ∧
      next.calls t = .finished ∧ ∀ other, other ≠ t → next.calls other = state.calls other := by
  have looks : ConnectionStep platform user provider t state
      (state.put t (looked platform user provider draw.now state.db)) := .look draw.now booking
  rw [createRoom_looked]
  rcases looked_cases draw.now state.db with done | ⟨account, held, unreadable | readable⟩
  · rw [done] at looks ⊢
    exact ⟨_, .single ⟨t, looks⟩, rfl, Connections.put_self _,
      fun other different => Connections.put_other _ different⟩
  · obtain ⟨-, forgets⟩ := unreadable
    rw [forgets] at looks ⊢
    refine ⟨_, .head ⟨t, looks⟩ (.single ⟨t, .forget (Connections.put_self _)⟩), rfl,
      Connections.put_self _, fun other different => ?_⟩
    rw [Connections.put_other _ different]
    exact Connections.put_other _ different
  · obtain ⟨token, -, refreshes⟩ := readable
    have named : account.provider = provider := (accountOf_eq_some held).2.2
    rw [refreshes] at looks ⊢
    obtain ⟨issue, answer⟩ := answers token
    generalize answered : endpoints (.token provider credentials (.refreshToken token)) = reply
      at answer
    have reads : ∀ replies : Endpoints, replies (.token provider credentials (.refreshToken token)) =
        reply → (exchange platform replies account.provider (.refreshToken token)).1 =
          readTokens reply := by
      rintro replies rfl
      rw [exchange, named, configured]
    have asks : ConnectionStep platform user provider t (state.put t (.refreshing account token))
        (((state.put t (.refreshing account token)).answered issue).put t (refreshed account
          (exchange platform (fun _ => reply) account.provider (.refreshToken token)).1)) :=
      .refresh (Connections.put_self _) answer
    rw [reads (fun _ => reply) rfl] at asks
    have waiting : (((state.put t (.refreshing account token)).answered issue).put t
        (refreshed account (readTokens reply))).calls t = refreshed account (readTokens reply) :=
      Connections.put_self _
    obtain ⟨next, run, same, ended, others⟩ := refreshed_run platform user provider waiting
      fun tokens read => dated token tokens (answered ▸ read)
    refine ⟨next, .head ⟨t, looks⟩ (.head ⟨t, asks⟩ run), ?_, ended, fun other different => ?_⟩
    · dsimp only
      have kept : (((state.put t (.refreshing account token)).answered issue).put t
          (refreshed account (readTokens reply))).db = state.db := Connections.answered_db issue
      rw [same, kept, reads endpoints answered]
    · rw [others other different, Connections.put_other _ different, Connections.answered_calls,
        Connections.put_other _ different]

end

end

/-- The connection of the first school's admin. -/
def zoomAccount : MeetingAccount where
  id := "z1"
  provider := .zoom
  userId := "a1"
  refreshToken := "~refresh"
  accessToken := some "~access"
  accessTokenExpiresAt := some 1772362800000
  accountLabel := none
  createdAt := 1772359200000

def twoBookings : Connections Bool := ⟨zoomConnected.db, "refresh", ["refresh"], fun _ => .booking⟩

def rotatedTokens : TokenSet := ⟨"access'", some "refresh'", 3600⟩

def rotatingReply : HttpReply := .response 200 (some (tokenBody "access'" "refresh'"))

def rejectingReply : HttpReply := .response 400 (some (.obj [("error", .str "invalid_grant")]))

theorem zoom_held : accountOf zoomConnected.db "a1" .zoom = some zoomAccount := by decide +kernel

theorem zoom_looked : looked .plain foxAdmin .zoom afterExpiry.now zoomConnected.db =
    .refreshing zoomAccount "refresh" := by
  decide +kernel

theorem zoom_deployed : Deployed .plain .zoom .marking where
  sealed_ := rfl
  readsBack nonce text _ := Cipher.marking_reads_back nonce text
  configured := rfl

theorem rotating_read : readTokens rotatingReply = .ok rotatedTokens := rfl

theorem twoBookings_begun : twoBookings.Begun .plain foxAdmin .zoom where
  unbegun _ := .inl rfl
  stored := ⟨zoomAccount, zoom_held, by decide⟩
  known := List.mem_singleton_self _
  one := by
    have rows : zoomConnected.db.meetingAccounts.rows = [zoomAccount] := by decide +kernel
    constructor
    · intro left first right second _ _ _ _
      change left ∈ zoomConnected.db.meetingAccounts.rows at first
      change right ∈ zoomConnected.db.meetingAccounts.rows at second
      rw [rows, List.mem_singleton] at first second
      rw [first, second]
    · decide +kernel

end TutorApp
