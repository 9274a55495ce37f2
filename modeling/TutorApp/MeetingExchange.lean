import TutorApp.System

set_option autoImplicit false

namespace TutorApp

open Relational
open Js (Instant)

/-- An OAuth error answers a request that is at fault; too many requests are not a fault of it. -/
def HttpReply.isOAuthError : HttpReply → Bool
  | .response status (some body) =>
      400 ≤ status && status < 500 && status != 429 && (stringField body "error").isSome
  | _ => false

/-- The answers that say nothing about a refresh token. -/
def HttpReply.isOutage : HttpReply → Bool
  | .networkFailure => true
  | .response status body =>
      500 ≤ status || status == 429 ||
        200 ≤ status && status ≤ 299 && (body.bind fun body => stringField body "access_token").isNone

namespace MeetingAccountsService

section

variable {platform : Platform} {user : User} {draw : Draw} {endpoints : Endpoints}
  {provider : MeetingProvider} {request : RoomRequest} {db : Db} {account : MeetingAccount}

theorem readTokens_isOk (reply : HttpReply) :
    (readTokens reply).isOk =
      (reply.okJson.bind fun body => stringField body "access_token").isSome := by
  unfold readTokens
  cases reply.okJson with
  | none => rfl
  | some body =>
      dsimp only [Option.bind_some]
      cases stringField body "access_token" <;> rfl

theorem readTokens_outage {reply : HttpReply} (outage : reply.isOutage = true) :
    (readTokens reply).isOk = false := by
  rw [readTokens_isOk]
  cases reply with
  | networkFailure => rfl
  | response status body =>
      simp only [HttpReply.isOutage, Bool.or_eq_true, Bool.and_eq_true, decide_eq_true_eq,
        beq_iff_eq] at outage
      show ((if 200 ≤ status ∧ status ≤ 299 then body else none).bind _).isSome = false
      by_cases accepted : 200 ≤ status ∧ status ≤ 299
      · rw [if_pos accepted]
        rcases outage with (tooHigh | tooMany) | incomplete
        · omega
        · omega
        · rw [← Option.not_isNone, incomplete.2]
          rfl
      · rw [if_neg accepted]
        rfl

theorem isOAuthError_outage {reply : HttpReply} (rejected : reply.isOAuthError = true) :
    reply.isOutage = false := by
  cases reply with
  | networkFailure => cases rejected
  | response status body =>
      cases body with
      | none => cases rejected
      | some body =>
          simp only [HttpReply.isOAuthError, Bool.and_eq_true, decide_eq_true_eq, bne_iff_ne]
            at rejected
          simp only [HttpReply.isOutage, Bool.or_eq_false_iff, Bool.and_eq_false_iff,
            decide_eq_false_iff_not, beq_eq_false_iff_ne]
          omega

theorem accountOf_eq_some (held : accountOf db user.id provider = some account) :
    account ∈ db.meetingAccounts.rows ∧ account.userId = user.id ∧ account.provider = provider := by
  have named := List.find?_some held
  simp only [Bool.and_eq_true, beq_iff_eq] at named
  exact ⟨List.mem_of_find?_eq_some held, named⟩

/-- A call that has to spend a stored refresh token. -/
structure Refreshing (platform : Platform) (user : User) (draw : Draw) (provider : MeetingProvider)
    (db : Db) (account : MeetingAccount) (token : String) : Prop where
  connectable : isConnectable provider = true
  held : accountOf db user.id provider = some account
  expired : cachedToken platform draw.now account = none
  readable : decrypt platform account.refreshToken = some token

/-- What a call for a room does to the stored connections. -/
inductive RoomEffect (platform : Platform) (user : User) (draw : Draw) (endpoints : Endpoints)
    (provider : MeetingProvider) (db : Db) : Db → Prop where
  | untouched (idle : ∀ account token, ¬ Refreshing platform user draw provider db account token) :
      RoomEffect platform user draw endpoints provider db db
  | unreadable (account : MeetingAccount) (held : accountOf db user.id provider = some account)
      (unread : decrypt platform account.refreshToken = none) :
      RoomEffect platform user draw endpoints provider db (db.forgetMeetingAccount account.id)
  | dropped (account : MeetingAccount) (token : String)
      (refreshing : Refreshing platform user draw provider db account token)
      (failed : (exchange platform endpoints account.provider (.refreshToken token)).1.isOk = false) :
      RoomEffect platform user draw endpoints provider db (db.forgetMeetingAccount account.id)
  | refreshed (account : MeetingAccount) (token : String) (tokens : TokenSet) (next : Db)
      (refreshing : Refreshing platform user draw provider db account token)
      (answered : (exchange platform endpoints account.provider (.refreshToken token)).1 = .ok tokens)
      (stored : writeBack platform draw account tokens db = .ok next) :
      RoomEffect platform user draw endpoints provider db next
  | unstored (account : MeetingAccount) (token : String) (tokens : TokenSet)
      (refreshing : Refreshing platform user draw provider db account token)
      (answered : (exchange platform endpoints account.provider (.refreshToken token)).1 = .ok tokens) :
      RoomEffect platform user draw endpoints provider db db

theorem accessTokenFor_effect (connectable : isConnectable provider = true)
    (held : accountOf db user.id provider = some account) :
    RoomEffect platform user draw endpoints provider db
      (accessTokenFor platform draw endpoints account db).db := by
  unfold accessTokenFor
  split
  · rename_i cached usable
    refine .untouched fun other token refreshing => ?_
    have same := held.symm.trans refreshing.held
    rw [Option.some.injEq] at same
    subst same
    rw [refreshing.expired] at usable
    cases usable
  · rename_i expired
    split
    · rename_i unread
      exact .unreadable account held unread
    · rename_i token readable
      have refreshing : Refreshing platform user draw provider db account token :=
        ⟨connectable, held, expired, readable⟩
      split
      · rename_i reason calls failed
        exact .dropped account token refreshing (by rw [failed]; rfl)
      · rename_i tokens calls answered
        split
        · exact .unstored account token tokens refreshing (by rw [answered])
        · rename_i next stored
          exact .refreshed account token tokens next refreshing (by rw [answered]) stored

theorem createRoom_effect :
    RoomEffect platform user draw endpoints provider db
      (createRoom platform user draw endpoints provider request db).db := by
  unfold createRoom
  split
  · rename_i unconnectable
    refine .untouched fun account token refreshing => ?_
    rw [refreshing.connectable] at unconnectable
    cases unconnectable
  · rename_i connectable
    simp only [Bool.not_eq_true', Bool.not_eq_false] at connectable
    split
    · rename_i absent
      refine .untouched fun account token refreshing => ?_
      rw [refreshing.held] at absent
      cases absent
    · rename_i account held
      dsimp only
      split
      · split <;> exact accessTokenFor_effect connectable held
      · exact accessTokenFor_effect connectable held

theorem find_forgetMeetingAccount (id other : Id) :
    (db.forgetMeetingAccount id).meetingAccounts.find other =
      if other = id then none else db.meetingAccounts.find other := by
  rw [Db.forgetMeetingAccount, Table.find_delete]
  cases found : db.meetingAccounts.find other with
  | none => simp
  | some row =>
      have named : row.id = other := (Table.find_eq_some.mp found).2
      by_cases same : other = id
      · rw [if_pos same, Option.filter_some_neg (by simp [named, same])]
      · rw [if_neg same, Option.filter_some_pos (by simpa [named] using same)]

theorem find_writeBack {tokens : TokenSet} {next : Db}
    (stored : writeBack platform draw account tokens db = .ok next) (other : Id) :
    (next.meetingAccounts.find other).isSome = (db.meetingAccounts.find other).isSome := by
  obtain ⟨_, -, _, -, _, -, updated⟩ := (writeBack_ok platform).mp stored
  obtain ⟨_, rewritten, rfl⟩ := Db.updateMeetingAccount_ok.mp updated
  obtain ⟨-, rfl⟩ := updateRow_ok.mp rewritten
  rw [Table.find_update, Option.isSome_map]

theorem find_writeBack_other {tokens : TokenSet} {next : Db}
    (stored : writeBack platform draw account tokens db = .ok next) {other : Id}
    (different : other ≠ account.id) :
    next.meetingAccounts.find other = db.meetingAccounts.find other := by
  obtain ⟨_, -, _, -, _, -, updated⟩ := (writeBack_ok platform).mp stored
  obtain ⟨_, rewritten, rfl⟩ := Db.updateMeetingAccount_ok.mp updated
  obtain ⟨-, rfl⟩ := updateRow_ok.mp rewritten
  rw [Table.find_update_key, if_neg different]

/-- The provider answered this account's refresh token with a rejection. -/
def Rejected (platform : Platform) (endpoints : Endpoints) (account : MeetingAccount) : Prop :=
  ∃ token credentials, decrypt platform account.refreshToken = some token ∧
    requireCredentials platform account.provider = .ok credentials ∧
    (endpoints (.token account.provider credentials (.refreshToken token))).isOAuthError = true

/-- An exchange of this account's refresh token would fail for a reason of its own: the server
is not configured for it, or the answer says nothing about the token. -/
def Spared (platform : Platform) (endpoints : Endpoints) (account : MeetingAccount) : Prop :=
  ∃ token, decrypt platform account.refreshToken = some token ∧
    ∀ credentials, requireCredentials platform account.provider = .ok credentials →
      (endpoints (.token account.provider credentials (.refreshToken token))).isOutage = true

/-- A call deletes a connection only when it is beyond saving, and after a failure that says
nothing about its refresh token the row is there with that token. -/
def KeepsConnections (platform : Platform) (endpoints : Endpoints) (before after : Db) : Prop :=
  ∀ account ∈ before.meetingAccounts.rows,
    (after.meetingAccounts.find account.id = none →
      decrypt platform account.refreshToken = none ∨ Rejected platform endpoints account) ∧
    (Spared platform endpoints account →
      ∃ row, after.meetingAccounts.find account.id = some row ∧
        row.refreshToken = account.refreshToken)

theorem KeepsConnections.refl : KeepsConnections platform endpoints db db := by
  intro account member
  have found : db.meetingAccounts.find account.id = some account := Table.find_key member
  constructor
  · intro gone
    rw [found] at gone
    cases gone
  · intro _
    exact ⟨account, found, rfl⟩

theorem exchange_ok {grant : TokenGrant} {tokens : TokenSet} :
    (exchange platform endpoints provider grant).1 = .ok tokens ↔
      ∃ credentials, requireCredentials platform provider = .ok credentials ∧
        readTokens (endpoints (.token provider credentials grant)) = .ok tokens := by
  unfold exchange
  cases requireCredentials platform provider with
  | error reason => simp
  | ok credentials => simp

/-- When the exchange a call depends on goes through or is answered with a rejection, the call
keeps whatever connection can be kept. -/
theorem RoomEffect.keeps {after : Db}
    (effect : RoomEffect platform user draw endpoints provider db after)
    (answered : ∀ account token, Refreshing platform user draw provider db account token →
      ∃ credentials, requireCredentials platform account.provider = .ok credentials ∧
        ((readTokens (endpoints (.token account.provider credentials (.refreshToken token)))).isOk =
            true ∨
          (endpoints (.token account.provider credentials (.refreshToken token))).isOAuthError =
            true)) :
    KeepsConnections platform endpoints db after := by
  cases effect with
  | untouched idle => exact .refl
  | unreadable account held unread =>
      intro other member
      rw [find_forgetMeetingAccount]
      by_cases same : other.id = account.id
      · obtain rfl := Table.key_injective member (accountOf_eq_some held).1 same
        refine ⟨fun _ => .inl unread, ?_⟩
        rintro ⟨token, readable, -⟩
        rw [unread] at readable
        cases readable
      · rw [if_neg same]
        exact KeepsConnections.refl other member
  | dropped account token refreshing failed =>
      obtain ⟨credentials, configured, reply⟩ := answered account token refreshing
      have rejected : (endpoints (.token account.provider credentials
          (.refreshToken token))).isOAuthError = true := by
        rcases reply with complete | rejected
        · obtain ⟨tokens, read⟩ := exists_of_isOk complete
          rw [exchange_ok.mpr ⟨credentials, configured, read⟩] at failed
          cases failed
        · exact rejected
      intro other member
      rw [find_forgetMeetingAccount]
      by_cases same : other.id = account.id
      · obtain rfl := Table.key_injective member (accountOf_eq_some refreshing.held).1 same
        refine ⟨fun _ => .inr ⟨token, credentials, refreshing.readable, configured, rejected⟩, ?_⟩
        rintro ⟨spent, readable, outage⟩
        rw [refreshing.readable, Option.some.injEq] at readable
        subst readable
        have contrary := outage credentials configured
        rw [isOAuthError_outage rejected] at contrary
        cases contrary
      · rw [if_neg same]
        exact KeepsConnections.refl other member
  | refreshed account token tokens next refreshing succeeded stored =>
      obtain ⟨credentials, configured, read⟩ := exchange_ok.mp succeeded
      intro other member
      have there : (after.meetingAccounts.find other.id).isSome = true := by
        rw [find_writeBack stored, show db.meetingAccounts.find other.id = some other from
          Table.find_key member]
        rfl
      constructor
      · intro gone
        rw [gone] at there
        cases there
      · rintro ⟨spent, readable, outage⟩
        by_cases same : other.id = account.id
        · obtain rfl := Table.key_injective member (accountOf_eq_some refreshing.held).1 same
          rw [refreshing.readable, Option.some.injEq] at readable
          subst readable
          have contrary := readTokens_outage (outage credentials configured)
          rw [read] at contrary
          cases contrary
        · refine ⟨other, ?_, rfl⟩
          rw [find_writeBack_other stored same]
          exact Table.find_key member
  | unstored => exact .refl

/-- A call keeps the connections it should exactly when it has no refresh token to spend, or the
server has the provider's client and the token endpoint either completes the exchange or answers
with an OAuth error. -/
theorem connection_kept_iff :
    KeepsConnections platform endpoints db
        (createRoom platform user draw endpoints provider request db).db ↔
      ∀ account token, Refreshing platform user draw provider db account token →
        ∃ credentials, requireCredentials platform account.provider = .ok credentials ∧
          ((readTokens (endpoints (.token account.provider credentials
              (.refreshToken token)))).isOk = true ∨
            (endpoints (.token account.provider credentials (.refreshToken token))).isOAuthError =
              true) := by
  have effect : RoomEffect platform user draw endpoints provider db
      (createRoom platform user draw endpoints provider request db).db := createRoom_effect
  refine ⟨fun keeps account token refreshing => ?_, effect.keeps⟩
  have member := (accountOf_eq_some refreshing.held).1
  have forgets : (db.forgetMeetingAccount account.id).meetingAccounts.find account.id = none := by
    rw [find_forgetMeetingAccount, if_pos rfl]
  generalize (createRoom platform user draw endpoints provider request db).db = after
    at keeps effect
  have only : ∀ other, accountOf db user.id provider = some other → other = account :=
    fun other held => Option.some.inj (held.symm.trans refreshing.held)
  cases effect with
  | untouched idle => exact absurd refreshing (idle account token)
  | unreadable other held unread =>
      obtain rfl := only other held
      rw [refreshing.readable] at unread
      cases unread
  | dropped other spent others failed =>
      obtain rfl := only other others.held
      rcases (keeps other member).1 forgets with unread | ⟨sent, credentials, read, configured, error⟩
      · rw [refreshing.readable] at unread
        cases unread
      · rw [refreshing.readable, Option.some.injEq] at read
        exact ⟨credentials, configured, .inr (read ▸ error)⟩
  | refreshed other spent tokens next others answered stored =>
      obtain rfl := only other others.held
      obtain rfl := Option.some.inj (others.readable.symm.trans refreshing.readable)
      obtain ⟨credentials, configured, read⟩ := exchange_ok.mp answered
      exact ⟨credentials, configured, .inl (by rw [read]; rfl)⟩
  | unstored other spent tokens others answered =>
      obtain rfl := only other others.held
      obtain rfl := Option.some.inj (others.readable.symm.trans refreshing.readable)
      obtain ⟨credentials, configured, read⟩ := exchange_ok.mp answered
      exact ⟨credentials, configured, .inl (by rw [read]; rfl)⟩

end

end MeetingAccountsService

/-- A morning on which every token endpoint answers with this body. -/
def Outside.granting (id : Id) (status : Nat) (body : Js.Json) : Outside where
  draw := (Outside.quiet id).draw
  endpoints call := match call with
    | .token .. => .response status (some body)
    | _ => .networkFailure
  saves := true

def tokenBody (accessToken refreshToken : String) : Js.Json :=
  .obj [("access_token", .str accessToken), ("refresh_token", .str refreshToken),
    ("expires_in", .num 3600)]

/-- The first school's admin with a Zoom connection. -/
def zoomConnected : World := World.empty.after .plain [
  foxSchool,
  (.granting "z1" 200 (tokenBody "access" "refresh"),
    .anonymous (.completeConnection .zoom "code" "a1"))]

/-- Two hours after that morning. -/
def afterExpiry : Draw := { (Outside.quiet "").draw with now := 1772366400000 }

def lessonRoom : RoomRequest := ⟨"Maths", some 1772366400000, 60⟩

namespace MeetingAccountsService

/-- An unreachable Zoom costs the tutor a connection whose refresh token reads. -/
theorem outage_drops_connection :
    Reachable .plain zoomConnected ∧
      ¬ KeepsConnections .plain (fun _ => .networkFailure) zoomConnected.db
        (createRoom .plain foxAdmin afterExpiry (fun _ => .networkFailure) .zoom lessonRoom
          zoomConnected.db).db := by
  refine ⟨.after .plain .refl _, fun keeps => ?_⟩
  obtain ⟨account, member, readable⟩ : ∃ account ∈ zoomConnected.db.meetingAccounts.rows,
      decrypt .plain account.refreshToken = some "refresh" := by decide +kernel
  have spared : Spared .plain (fun _ => .networkFailure) account :=
    ⟨"refresh", readable, fun _ _ => rfl⟩
  obtain ⟨row, found, -⟩ := (keeps account member).2 spared
  have emptied : (createRoom .plain foxAdmin afterExpiry (fun _ => .networkFailure) .zoom lessonRoom
      zoomConnected.db).db.meetingAccounts.rows = [] := by decide +kernel
  have present := (Table.find_eq_some.mp found).1
  rw [emptied] at present
  cases present

end MeetingAccountsService

end TutorApp
