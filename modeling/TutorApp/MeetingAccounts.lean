import TutorApp.UserConfig

set_option autoImplicit false

namespace TutorApp

open Js (Instant Json)

/-- How a request to a provider ends; a body that is not JSON is `none`. -/
inductive HttpReply where
  | networkFailure
  | response (status : Nat) (body : Option Json)

/-- `response.ok` and `response.json()` together. -/
def HttpReply.okJson : HttpReply → Option Json
  | .networkFailure => none
  | .response status body => if 200 ≤ status ∧ status ≤ 299 then body else none

/-- A string property of a JSON body. -/
def stringField (body : Json) (name : String) : Option String :=
  match body.get? name with
  | some (.str text) => some text
  | _ => none

inductive TokenGrant where
  | refreshToken (token : String)
  | authorizationCode (code redirectUri : String)
  deriving Repr, DecidableEq

structure RoomRequest where
  topic : String
  startsAt : Option Instant
  durationMinutes : Int
  deriving Repr, DecidableEq

/-- A request that leaves for a provider. -/
inductive ProviderCall where
  | token (provider : MeetingProvider) (credentials : Credentials) (grant : TokenGrant)
  | room (provider : MeetingProvider) (accessToken : String) (request : RoomRequest)
  | account (provider : MeetingProvider) (accessToken : String)
  deriving Repr, DecidableEq

abbrev Endpoints := ProviderCall → HttpReply

structure TokenSet where
  accessToken : String
  refreshToken : Option String
  expiresIn : ℚ
  deriving Repr, DecidableEq

/-- A result, and what was done on the way to it whether or not it is an error. -/
structure Attempt (α : Type) where
  result : Service α
  db : Db
  calls : List ProviderCall

def isConnectable : MeetingProvider → Bool
  | .zoom | .googleMeet => true
  | .jitsi => false

namespace MeetingAccountsService

def expirySlackMs : Int := 60000

/-- The token set of a token endpoint's answer; a failed or incomplete answer throws. -/
def readTokens (reply : HttpReply) : Service TokenSet :=
  match reply.okJson with
  | none => .error .internal
  | some body =>
      match stringField body "access_token" with
      | none => .error .internal
      | some accessToken => .ok {
          accessToken
          refreshToken := stringField body "refresh_token"
          expiresIn := match body.get? "expires_in" with
            | some (.num seconds) => seconds
            | _ => 3600 }

/-- The property a provider answers a new room's address under. -/
def roomField : MeetingProvider → String
  | .zoom => "join_url"
  | _ => "meetingUri"

/-- The one request that prints the start fails to without a valid date. -/
def canAskForRoom (provider : MeetingProvider) (request : RoomRequest) : Bool :=
  provider != .zoom || request.startsAt.isSome

section

variable (platform : Platform)

def credentialsFor : MeetingProvider → Option Credentials
  | .zoom => platform.zoomClient
  | .googleMeet => platform.googleClient
  | .jitsi => none

def requireCredentials (provider : MeetingProvider) : Service Credentials :=
  match credentialsFor platform provider, platform.cipher with
  | some credentials, some _ => .ok credentials
  | _, _ => .error (.badRequest "That provider cannot be connected on this server")

def encrypt (nonce value : String) : Service String :=
  match platform.cipher with
  | some cipher => .ok (cipher.encrypt nonce value)
  | none => .error (.badRequest "Storing credentials is not configured")

def decrypt (value : String) : Option String :=
  platform.cipher.bind fun cipher => cipher.decrypt value

/-- One shape for both exchanges: they differ only in the grant. -/
def exchange (endpoints : Endpoints) (provider : MeetingProvider) (grant : TokenGrant) :
    Service TokenSet × List ProviderCall :=
  match requireCredentials platform provider with
  | .error reason => (.error reason, [])
  | .ok credentials =>
      let call := .token provider credentials grant
      (readTokens (endpoints call), [call])

/-- The cached token, while more than the slack is left of it. -/
def cachedToken (now : Instant) (account : MeetingAccount) : Option String :=
  match account.accessToken.bind (decrypt platform), account.accessTokenExpiresAt.bind readDate with
  | some cached, some expiresAt => if now < expiresAt - expirySlackMs then some cached else none
  | _, _ => none

/-- When a token set just issued runs out, as the column takes it. -/
def expiryOf (now : Instant) (tokens : TokenSet) : Service Instant :=
  timestampColumn (Js.dateOfMs (now + tokens.expiresIn * 1000))

/-- A provider that does not rotate leaves the old refresh token in place. -/
def refreshedToken (draw : Draw) (account : MeetingAccount) (tokens : TokenSet) : Service String :=
  match tokens.refreshToken with
  | none => .ok account.refreshToken
  | some fresh => encrypt platform draw.nonce fresh

def writeBack (draw : Draw) (account : MeetingAccount) (tokens : TokenSet) (db : Db) :
    Service Db := do
  let refreshToken ← refreshedToken platform draw account tokens
  let accessToken ← encrypt platform draw.secondNonce tokens.accessToken
  let expiresAt ← expiryOf draw.now tokens
  db.updateMeetingAccount account.id refreshToken accessToken expiresAt

/-- A usable access token, refreshed if the cached one has run out. Any failure of the
refresh drops the connection. -/
def accessTokenFor (draw : Draw) (endpoints : Endpoints) (account : MeetingAccount) (db : Db) :
    Attempt (Option String) :=
  match cachedToken platform draw.now account with
  | some cached => ⟨.ok (some cached), db, []⟩
  | none =>
      match decrypt platform account.refreshToken with
      | none => ⟨.ok none, db.forgetMeetingAccount account.id, []⟩
      | some refreshToken =>
          match exchange platform endpoints account.provider (.refreshToken refreshToken) with
          | (.error _, calls) => ⟨.ok none, db.forgetMeetingAccount account.id, calls⟩
          | (.ok tokens, calls) =>
              match writeBack platform draw account tokens db with
              | .error reason => ⟨.error reason, db, calls⟩
              | .ok db => ⟨.ok (some tokens.accessToken), db, calls⟩

def accountOf (db : Db) (userId : Id) (provider : MeetingProvider) : Option MeetingAccount :=
  db.meetingAccounts.rows.find? fun row => row.userId == userId && row.provider == provider

/-- A room for one lesson, or `none` if this tutor has no usable connection. -/
def createRoom (user : User) (draw : Draw) (endpoints : Endpoints) (provider : MeetingProvider)
    (request : RoomRequest) (db : Db) : Attempt (Option String) :=
  if !isConnectable provider then ⟨.ok none, db, []⟩
  else
    match accountOf db user.id provider with
    | none => ⟨.ok none, db, []⟩
    | some account =>
        let access := accessTokenFor platform draw endpoints account db
        match access.result with
        | .ok (some accessToken) =>
            if canAskForRoom provider request then
              let call := .room provider accessToken request
              let url := (endpoints call).okJson.bind fun body => stringField body (roomField provider)
              ⟨.ok url, access.db, access.calls ++ [call]⟩
            else ⟨.ok none, access.db, access.calls⟩
        | _ => access

theorem writeBack_ok {draw : Draw} {account : MeetingAccount} {tokens : TokenSet} {db next : Db} :
    writeBack platform draw account tokens db = .ok next ↔
      ∃ refreshToken, refreshedToken platform draw account tokens = .ok refreshToken ∧
        ∃ accessToken, encrypt platform draw.secondNonce tokens.accessToken = .ok accessToken ∧
          ∃ expiresAt, expiryOf draw.now tokens = .ok expiresAt ∧
            db.updateMeetingAccount account.id refreshToken accessToken expiresAt = .ok next := by
  simp only [writeBack, bind_ok]

/-- Whatever comes of it, only the stored connections can have changed. -/
theorem accessTokenFor_db (draw : Draw) (endpoints : Endpoints) (account : MeetingAccount)
    (db : Db) : ∃ meetingAccounts,
      (accessTokenFor platform draw endpoints account db).db = { db with meetingAccounts } := by
  unfold accessTokenFor
  split
  · exact ⟨_, rfl⟩
  · split
    · exact ⟨_, rfl⟩
    · split
      · exact ⟨_, rfl⟩
      · split
        · exact ⟨_, rfl⟩
        · rename_i written
          obtain ⟨_, -, _, -, _, -, updated⟩ := (writeBack_ok platform).mp written
          obtain ⟨_, -, rfl⟩ := Db.updateMeetingAccount_ok.mp updated
          exact ⟨_, rfl⟩

theorem createRoom_db (user : User) (draw : Draw) (endpoints : Endpoints)
    (provider : MeetingProvider) (request : RoomRequest) (db : Db) : ∃ meetingAccounts,
      (createRoom platform user draw endpoints provider request db).db =
        { db with meetingAccounts } := by
  unfold createRoom
  split
  · exact ⟨_, rfl⟩
  · split
    · exact ⟨_, rfl⟩
    · dsimp only
      split
      · split <;> exact accessTokenFor_db platform draw endpoints _ db
      · exact accessTokenFor_db platform draw endpoints _ db

/-- Who the tutor connected as; only one provider is asked, and it may not say. -/
def describeAccount (endpoints : Endpoints) (provider : MeetingProvider) (accessToken : String) :
    Option String × List ProviderCall :=
  match provider with
  | .zoom =>
      let call := .account provider accessToken
      ((endpoints call).okJson.bind fun body => stringField body "email", [call])
  | _ => (none, [])

def redirectUri (provider : MeetingProvider) : Service String :=
  match platform.publicApiUrl with
  | none => .error (.badRequest "Connecting a provider is not configured")
  | some base =>
      let trimmed := if base.endsWith "/" then String.ofList base.toList.dropLast else base
      .ok (trimmed ++ "/api/meetings/callback/" ++ provider.toText)

/-- The user a connection request was signed for. -/
def stateUser (now : Instant) (provider : MeetingProvider) (state : String) : Service Id :=
  match platform.verifyState now state with
  | some ⟨some sub, some named, some "meeting-connect"⟩ =>
      if named = provider.toText ∧ sub ≠ "" then .ok sub
      else .error (.badRequest "That connection request has expired")
  | _ => .error (.badRequest "That connection request has expired")

/-- What a completed connection stores. -/
def connectionRow (draw : Draw) (userId : Id) (provider : MeetingProvider) (tokens : TokenSet)
    (refreshToken : String) (label : Option String) : Service MeetingAccount := do
  let sealedRefresh ← encrypt platform draw.nonce refreshToken
  let sealedAccess ← encrypt platform draw.secondNonce tokens.accessToken
  let expiresAt ← expiryOf draw.now tokens
  return {
    id := draw.id
    provider
    userId
    refreshToken := sealedRefresh
    accessToken := some sealedAccess
    accessTokenExpiresAt := some expiresAt
    accountLabel := label
    createdAt := draw.now }

def completeConnection (draw : Draw) (endpoints : Endpoints) (provider : MeetingProvider)
    (code state : String) (db : Db) : Attempt Unit :=
  let prepared : Service (Id × String) := do
    let _ ← requireCredentials platform provider
    let userId ← stateUser platform draw.now provider state
    let uri ← redirectUri platform provider
    return (userId, uri)
  match prepared with
  | .error reason => ⟨.error reason, db, []⟩
  | .ok (userId, uri) =>
      match exchange platform endpoints provider (.authorizationCode code uri) with
      | (.error reason, calls) => ⟨.error reason, db, calls⟩
      | (.ok tokens, calls) =>
          match tokens.refreshToken with
          | none =>
              ⟨.error (.badRequest
                "That provider did not grant lasting access. Try connecting again."), db, calls⟩
          | some refreshToken =>
              let (label, asked) := describeAccount endpoints provider tokens.accessToken
              let stored : Service Db := do
                let row ← connectionRow platform draw userId provider tokens refreshToken label
                db.upsertMeetingAccount row
              match stored with
              | .error reason => ⟨.error reason, db, calls ++ asked⟩
              | .ok next => ⟨.ok (), next, calls ++ asked⟩

theorem completeConnection_db (draw : Draw) (endpoints : Endpoints) (provider : MeetingProvider)
    (code state : String) (db : Db) : ∃ meetingAccounts,
      (completeConnection platform draw endpoints provider code state db).db =
        { db with meetingAccounts } := by
  unfold completeConnection
  dsimp only
  split
  · exact ⟨_, rfl⟩
  · split
    · exact ⟨_, rfl⟩
    · split
      · exact ⟨_, rfl⟩
      · split
        · exact ⟨_, rfl⟩
        · rename_i stored
          obtain ⟨_, -, upserted⟩ := bind_ok.mp stored
          exact Db.upsertMeetingAccount_frame upserted

end

def disconnect (user : User) (provider : MeetingProvider) (db : Db) : Service Db :=
  let (count, next) := db.deleteMeetingAccounts user.id provider
  if count = 0 then .error (.notFound "That provider is not connected") else .ok next

/-- What the app is told about a connection, never the credential itself. -/
structure MeetingConnection where
  provider : MeetingProvider
  accountLabel : Option String
  connectedAt : Instant
  deriving Repr, DecidableEq

def connectionsFor (user : User) (db : Db) : List MeetingConnection :=
  let accounts := sortByTime MeetingAccount.createdAt
    (db.meetingAccounts.select fun row => row.userId == user.id)
  (accounts.filter fun row => isConnectable row.provider).map fun row =>
    ⟨row.provider, row.accountLabel, row.createdAt⟩

/-- The route's own check of a provider named in a path. -/
def parse (provider : MeetingProvider) : Service MeetingProvider :=
  if isConnectable provider then .ok provider
  else .error (.badRequest "Unknown meeting provider")

theorem disconnect_ok {user : User} {provider : MeetingProvider} {db next : Db} :
    disconnect user provider db = .ok next ↔
      (db.deleteMeetingAccounts user.id provider).1 ≠ 0 ∧
        (db.deleteMeetingAccounts user.id provider).2 = next := by
  unfold disconnect
  obtain ⟨count, after⟩ := db.deleteMeetingAccounts user.id provider
  by_cases none : count = 0 <;> simp [none]

end MeetingAccountsService

end TutorApp
