import TutorApp.SignedTokens
import TutorApp.Footprints
import TutorApp.Texts

set_option autoImplicit false

namespace TutorApp

open Relational
open Js (Instant)
open PercentEncoding

/-- `searchParams.set`: the first field of that name is overwritten and the others go, or a field is
added at the end. -/
def setParam (fields : List (String × String)) (name value : String) : List (String × String) :=
  match fields with
  | [] => [(name, value)]
  | field :: rest =>
      if field.1 = name then (name, value) :: rest.filter fun other => other.1 != name
      else field :: setParam rest name value

namespace MeetingAccountsService

/-- How long the browser has to complete a connection. -/
def stateTtlSeconds : Nat := 600

def authorizeEndpoint : MeetingProvider → String
  | .zoom => "https://zoom.us/oauth/authorize"
  | _ => "https://accounts.google.com/o/oauth2/v2/auth"

def scopeOf : MeetingProvider → String
  | .zoom => "meeting:write:meeting"
  | _ => "https://www.googleapis.com/auth/meetings.space.created"

/-- Extra parameters a provider needs. -/
def authorizeParams : MeetingProvider → List (String × String)
  | .zoom => []
  | _ => [("access_type", "offline"), ("prompt", "consent")]

section

variable (platform : Platform) (jwt : JwtService)

def stateFor (now : Instant) (user : User) (provider : MeetingProvider) : String :=
  jwt.sign now stateTtlSeconds (.connect user.id provider)

def authorizeFields (now : Instant) (user : User) (provider : MeetingProvider)
    (credentials : Credentials) (uri : String) : List (String × String) :=
  let fields := setParam [] "response_type" "code"
  let fields := setParam fields "client_id" credentials.clientId
  let fields := setParam fields "redirect_uri" uri
  let fields := setParam fields "scope" (scopeOf provider)
  let fields := setParam fields "state" (stateFor jwt now user provider)
  (authorizeParams provider).foldl (fun fields extra => setParam fields extra.1 extra.2) fields

/-- Who is connecting travels in a signed, short-lived state. -/
def authorizeUrlFor (now : Instant) (user : User) (provider : MeetingProvider) : Service String := do
  let credentials ← requireCredentials platform provider
  let uri ← redirectUri platform provider
  return authorizeEndpoint provider ++ "?" ++
    writeQuery (authorizeFields jwt now user provider credentials uri)

end

end MeetingAccountsService

namespace MeetingsController

open MeetingAccountsService

/-- A provider's name from a path. -/
def parse (provider : String) : Service MeetingProvider :=
  if provider = "ZOOM" then .ok .zoom
  else if provider = "GOOGLE_MEET" then .ok .googleMeet
  else .error (.badRequest "Unknown meeting provider")

def connect (platform : Platform) (jwt : JwtService) (now : Instant) (user : User)
    (provider : String) : Service String := do
  let named ← parse provider
  authorizeUrlFor platform jwt now user named

/-- Where the browser goes after the callback, and what the callback has done. -/
structure Landing where
  location : String
  db : Db
  calls : List ProviderCall

/-- A query parameter that is there and not empty. -/
def given (parameter : Option String) : Bool := parameter.any fun text => text != ""

section

variable (platform : Platform) (connectedUrl : String)

def landAt (provider status : String) : String :=
  connectedUrl ++ "?meeting=" ++ provider ++ "&status=" ++ status

/-- Always a redirect into the app, with the outcome as a query parameter. -/
def callback (draw : Draw) (endpoints : Endpoints) (provider : String)
    (code state error : Option String) (db : Db) : Landing :=
  if given error || !given code || !given state then
    ⟨landAt connectedUrl provider "cancelled", db, []⟩
  else
    match parse provider with
    | .error _ => ⟨landAt connectedUrl provider "failed", db, []⟩
    | .ok named =>
        let attempt := completeConnection platform draw endpoints named (code.getD "")
          (state.getD "") db
        match attempt.result with
        | .ok _ => ⟨landAt connectedUrl provider "connected", attempt.db, attempt.calls⟩
        | .error _ => ⟨landAt connectedUrl provider "failed", attempt.db, attempt.calls⟩

end

end MeetingsController

/-- The query of a URL: what follows the first question mark. -/
def queryOf (url : String) : String := String.ofList ((url.toList.dropWhile fun c => c != '?').drop 1)

theorem queryOf_append {base query : String} (plain : '?' ∉ base.toList) :
    queryOf (base ++ "?" ++ query) = query := by
  have before : ∀ c ∈ base.toList, (c != '?') = true := by
    intro c member
    rw [bne_iff_ne]
    rintro rfl
    exact plain member
  have letters : (base ++ "?" ++ query).toList = base.toList ++ '?' :: query.toList := by simp
  rw [queryOf, letters, List.dropWhile_append_of_pos before]
  simp

/-- The status an app reads in a redirect: the first field of that name, undecoded, up to a fragment. -/
def shownStatus (url : String) : Option String :=
  let query := String.ofList ((queryOf url).toList.takeWhile fun c => c != '#')
  ((Js.split '&' query).find? fun field => "status=".toList.isPrefixOf field.toList).map fun field =>
    String.ofList (field.toList.drop "status=".length)

/-- A URL without a query and a fragment of its own. -/
def PlainUrl (url : String) : Prop := '?' ∉ url.toList ∧ '#' ∉ url.toList

/-- A name that ends no field of a query. -/
def PlainName (name : String) : Prop := '&' ∉ name.toList ∧ '#' ∉ name.toList

/-- Where the provider's name is plain, the app reads the status the redirect was made with. -/
theorem MeetingsController.shownStatus_landAt {connectedUrl provider status : String}
    (url : PlainUrl connectedUrl) (name : PlainName provider) (told : PlainName status) :
    shownStatus (landAt connectedUrl provider status) = some status := by
  have spelled : landAt connectedUrl provider status =
      connectedUrl ++ "?" ++ ("meeting=" ++ provider ++ "&status=" ++ status) := by
    apply String.toList_inj.mp
    simp [landAt]
  have query : queryOf (landAt connectedUrl provider status) =
      "meeting=" ++ provider ++ "&status=" ++ status := by
    rw [spelled, queryOf_append url.1]
  have first : '&' ∉ ("meeting=" ++ provider).toList := by
    simp [name.1]
  have second : '&' ∉ ("status=" ++ status).toList := by
    simp [told.1]
  have letters : ("meeting=" ++ provider ++ "&status=" ++ status).toList =
      ("meeting=" ++ provider).toList ++ '&' :: ("status=" ++ status).toList := by
    simp
  have whole : ("meeting=" ++ provider ++ "&status=" ++ status).toList.takeWhile (fun c => c != '#') =
      ("meeting=" ++ provider ++ "&status=" ++ status).toList := by
    rw [List.takeWhile_eq_self_iff]
    intro c member
    rw [bne_iff_ne]
    rintro rfl
    simp [name.2, told.2] at member
  have fields : Js.split '&' ("meeting=" ++ provider ++ "&status=" ++ status) =
      ["meeting=" ++ provider, "status=" ++ status] := by
    rw [Js.split, letters, Js.splitList_append first, Js.splitList_single second]
    simp only [List.map_cons, List.map_nil, String.ofList_toList]
  have dropped : ("status=" ++ status).toList.drop "status=".length = status.toList := by
    rw [String.toList_append, ← String.length_toList, List.drop_left]
  have other : "status=".toList.isPrefixOf ("meeting=" ++ provider).toList = false := by
    rw [String.toList_append]
    rfl
  have here : "status=".toList.isPrefixOf ("status=" ++ status).toList = true := by
    rw [String.toList_append, List.isPrefixOf_iff_prefix]
    exact List.prefix_append ..
  rw [shownStatus, query, whole, String.ofList_toList, fields]
  simp only [List.find?_cons, other, here, Option.map_some, dropped, String.ofList_toList]

theorem MeetingProvider.toText_injective {left right : MeetingProvider}
    (same : left.toText = right.toText) : left = right := by
  cases left <;> cases right <;> first | rfl | exact absurd same (by decide)

namespace MeetingAccountsService

section

variable {platform : Platform} {jwt : JwtService} {now later : Instant} {user : User}
  {provider landed : MeetingProvider} {credentials : Credentials} {uri url token code : String}
  {userId : Id} {draw : Draw} {endpoints : Endpoints} {db next : Db}

theorem authorizeFields_eq : authorizeFields jwt now user provider credentials uri =
    [("response_type", "code"), ("client_id", credentials.clientId), ("redirect_uri", uri),
      ("scope", scopeOf provider), ("state", stateFor jwt now user provider)] ++
        authorizeParams provider := by
  cases provider <;> simp [authorizeFields, setParam, authorizeParams]

theorem authorizeEndpoint_plain (provider : MeetingProvider) :
    '?' ∉ (authorizeEndpoint provider).toList := by
  cases provider <;> decide

/-- A state is accepted for the provider it was signed for, and for nobody but who asked. -/
theorem stateUser_ok (checks : platform.ChecksWith jwt) :
    stateUser platform now provider token = .ok userId ↔
      jwt.verify now token = some (.connect userId provider) ∧ userId ≠ "" := by
  unfold stateUser
  rw [checks now token]
  cases verified : jwt.verify now token with
  | none => simp
  | some claims =>
      cases claims with
      | session claims => simp [TokenClaims.connectClaims]
      | connect sub named =>
          simp only [TokenClaims.connectClaims, Option.map_some, Option.some.injEq,
            TokenClaims.connect.injEq]
          constructor
          · intro accepted
            split at accepted
            · rename_i fits
              obtain rfl := Except.ok.inj accepted
              exact ⟨⟨rfl, MeetingProvider.toText_injective fits.1⟩, fits.2⟩
            · cases accepted
          · rintro ⟨⟨rfl, rfl⟩, nonempty⟩
            rw [if_pos ⟨rfl, nonempty⟩]

theorem stateUser_error {reason : HttpError}
    (refused : stateUser platform now provider token = .error reason) :
    reason = .badRequest "That connection request has expired" := by
  unfold stateUser at refused
  split at refused
  · split at refused
    · cases refused
    · exact (Except.error.inj refused).symm
  · exact (Except.error.inj refused).symm

/-- A state goes through for who asked, at the provider it was asked for, for ten minutes. -/
theorem stateUser_stateFor (checks : platform.ChecksWith jwt) (named : user.id ≠ "") :
    stateUser platform later landed (stateFor jwt now user provider) =
      if landed = provider ∧ later / 1000 < now / 1000 + stateTtlSeconds then .ok user.id
      else .error (.badRequest "That connection request has expired") := by
  have accepted : ∀ userId, stateUser platform later landed (stateFor jwt now user provider) =
      .ok userId ↔ (landed = provider ∧ later / 1000 < now / 1000 + stateTtlSeconds) ∧
        userId = user.id := by
    intro userId
    rw [stateUser_ok checks, stateFor, JwtService.verify_sign]
    split
    · rename_i early
      simp only [Option.some.injEq, TokenClaims.connect.injEq]
      constructor
      · rintro ⟨⟨rfl, rfl⟩, -⟩
        exact ⟨⟨rfl, early⟩, rfl⟩
      · rintro ⟨⟨rfl, -⟩, rfl⟩
        exact ⟨⟨rfl, rfl⟩, named⟩
    · rename_i late
      simp only [reduceCtorEq, false_and, false_iff]
      exact fun fits => late fits.1.2
  split
  · rename_i fits
    exact (accepted user.id).mpr ⟨fits, rfl⟩
  · rename_i unfit
    cases result : stateUser platform later landed (stateFor jwt now user provider) with
    | ok userId => exact absurd ((accepted userId).mp result).1 unfit
    | error reason => rw [stateUser_error result]

/-- A code is redeemed with the redirect the provider was given. -/
theorem completeConnection_redeems (granted : requireCredentials platform provider = .ok credentials)
    (accepted : stateUser platform draw.now provider token = .ok userId)
    (sent : redirectUri platform provider = .ok uri) :
    (completeConnection platform draw endpoints provider code token db).calls.head? =
      some (.token provider credentials (.authorizationCode code uri)) := by
  have prepared : (do
      let _ ← requireCredentials platform provider
      let userId ← stateUser platform draw.now provider token
      let uri ← redirectUri platform provider
      return (userId, uri) : Service (Id × String)) = .ok (userId, uri) := by
    rw [granted, accepted, sent]
    rfl
  unfold completeConnection
  rw [prepared]
  simp only [exchange, granted]
  split
  · rename_i failed
    rw [← (Prod.mk.inj failed).2]
    rfl
  · rename_i answered
    obtain ⟨-, rfl⟩ := Prod.mk.inj answered
    split
    · rfl
    · split <;> rfl

/-- What a provider is sent can be read off the URL as it was meant, and what it hands back in time
goes through for who asked and is redeemed as it was announced. -/
theorem authorization_comes_back (checks : platform.ChecksWith jwt) (named : user.id ≠ "")
    (answered : authorizeUrlFor platform jwt now user provider = .ok url) :
    ∃ credentials uri state, requireCredentials platform provider = .ok credentials ∧
      readQuery (queryOf url) = some ([("response_type", "code"),
        ("client_id", credentials.clientId), ("redirect_uri", uri), ("scope", scopeOf provider),
        ("state", state)] ++ authorizeParams provider) ∧
      (∀ later landed, stateUser platform later landed state =
        if landed = provider ∧ later / 1000 < now / 1000 + stateTtlSeconds then .ok user.id
        else .error (.badRequest "That connection request has expired")) ∧
      ∀ (draw : Draw) endpoints code db, draw.now / 1000 < now / 1000 + stateTtlSeconds →
        (completeConnection platform draw endpoints provider code state db).calls.head? =
          some (.token provider credentials (.authorizationCode code uri)) := by
  simp only [authorizeUrlFor, bind_ok, pure_ok] at answered
  obtain ⟨credentials, granted, uri, sent, rfl⟩ := answered
  have accepted : ∀ later landed, stateUser platform later landed (stateFor jwt now user provider) =
      if landed = provider ∧ later / 1000 < now / 1000 + stateTtlSeconds then .ok user.id
      else .error (.badRequest "That connection request has expired") :=
    fun later landed => stateUser_stateFor checks named
  refine ⟨credentials, uri, stateFor jwt now user provider, granted, ?_, accepted, ?_⟩
  · rw [queryOf_append (authorizeEndpoint_plain provider), readQuery_writeQuery, authorizeFields_eq]
  · intro draw endpoints code db early
    have user : stateUser platform draw.now provider (stateFor jwt now user provider) = .ok user.id := by
      rw [accepted, if_pos ⟨rfl, early⟩]
    exact completeConnection_redeems granted user sent

theorem connectionRow_of {tokens : TokenSet} {refreshToken : String} {label : Option String}
    {row : MeetingAccount}
    (made : connectionRow platform draw userId provider tokens refreshToken label = .ok row) :
    row.userId = userId ∧ row.provider = provider ∧ row.createdAt = draw.now := by
  simp only [connectionRow, bind_ok, pure_ok] at made
  obtain ⟨_, -, _, -, _, -, rfl⟩ := made
  exact ⟨rfl, rfl, rfl⟩

/-- A connection is stored whole or not at all. -/
theorem completeConnection_cases {attempt : Attempt Unit}
    (done : completeConnection platform draw endpoints provider code token db = attempt) :
    (∃ reason, attempt.result = .error reason ∧ attempt.db = db) ∨
      attempt.result = .ok () ∧ ∃ row : MeetingAccount,
        stateUser platform draw.now provider token = .ok row.userId ∧ row.provider = provider ∧
          row.createdAt = draw.now ∧ db.upsertMeetingAccount row = .ok attempt.db := by
  subst done
  unfold completeConnection
  dsimp only
  split
  · exact .inl ⟨_, rfl, rfl⟩
  · rename_i prepared
    simp only [bind_ok, pure_ok, Prod.mk.injEq] at prepared
    obtain ⟨_, -, _, accepted, _, -, rfl, -⟩ := prepared
    split
    · exact .inl ⟨_, rfl, rfl⟩
    · split
      · exact .inl ⟨_, rfl, rfl⟩
      · split
        · exact .inl ⟨_, rfl, rfl⟩
        · rename_i stored
          obtain ⟨row, made, upserted⟩ := bind_ok.mp stored
          obtain ⟨owner, named, created⟩ := connectionRow_of made
          exact .inr ⟨rfl, row, owner ▸ accepted, named, created, upserted⟩

end

end MeetingAccountsService

/-- Every connection was there before, for the same user at the same provider. -/
def Db.AccountsFrom (db next : Db) : Prop :=
  ∀ row ∈ next.meetingAccounts.rows, ∃ old ∈ db.meetingAccounts.rows,
    old.userId = row.userId ∧ old.provider = row.provider ∧ old.createdAt = row.createdAt

section

variable {platform : Platform} {user : User} {draw : Draw} {endpoints : Endpoints} {db next : Db}
  {outside : Outside} {world : World}

theorem Db.accountsFrom_of_sublist
    (kept : ∀ row ∈ next.meetingAccounts.rows, row ∈ db.meetingAccounts.rows) :
    db.AccountsFrom next :=
  fun row member => ⟨row, kept row member, rfl, rfl, rfl⟩

theorem Db.accountsFrom_of_eq (same : next.meetingAccounts = db.meetingAccounts) :
    db.AccountsFrom next :=
  accountsFrom_of_sublist fun _ member => same ▸ member

theorem Db.WritesOnly.accountsFrom {footprint : List TableName}
    (writes : db.WritesOnly footprint next) (aside : .meetingAccounts ∉ footprint) :
    db.AccountsFrom next :=
  accountsFrom_of_eq (writes .meetingAccounts aside)

namespace MeetingAccountsService

theorem forgetMeetingAccount_from (id : Id) : db.AccountsFrom (db.forgetMeetingAccount id) :=
  Db.accountsFrom_of_sublist fun _ member => (Table.mem_delete.mp member).1

/-- Using a connection renews it or drops it, and makes none. -/
theorem accessTokenFor_from {account : MeetingAccount} :
    db.AccountsFrom (accessTokenFor platform draw endpoints account db).db := by
  unfold accessTokenFor
  split
  · exact Db.accountsFrom_of_eq rfl
  · split
    · exact forgetMeetingAccount_from account.id
    · split
      · exact forgetMeetingAccount_from account.id
      · split
        · exact Db.accountsFrom_of_eq rfl
        · rename_i written
          obtain ⟨_, -, _, -, _, -, updated⟩ := (writeBack_ok platform).mp written
          obtain ⟨accounts, done, rfl⟩ := Db.updateMeetingAccount_ok.mp updated
          intro row member
          rcases of_mem_updateRow done member with old | ⟨old, present, -, rfl⟩
          · exact ⟨row, old, rfl, rfl, rfl⟩
          · exact ⟨old, present, rfl, rfl, rfl⟩

theorem createRoom_from {provider : MeetingProvider} {request : RoomRequest} :
    db.AccountsFrom (createRoom platform user draw endpoints provider request db).db := by
  unfold createRoom
  split
  · exact Db.accountsFrom_of_eq rfl
  · split
    · exact Db.accountsFrom_of_eq rfl
    · dsimp only
      split
      · split <;> exact accessTokenFor_from
      · exact accessTokenFor_from

end MeetingAccountsService

open MeetingAccountsService

theorem LessonsService.meetingFor_from {subjectId : Option Id} {startsAt : Option Instant}
    {durationMinutes : Int} : db.AccountsFrom
      (meetingFor platform user draw endpoints subjectId startsAt durationMinutes db).db := by
  unfold meetingFor
  split
  · exact Db.accountsFrom_of_eq rfl
  · exact createRoom_from

theorem LessonsService.create_from {dto : CreateLessonDto} :
    db.AccountsFrom (create platform user draw endpoints dto db).db := by
  unfold create
  dsimp only
  split
  · exact Db.accountsFrom_of_eq rfl
  · split
    · exact meetingFor_from
    · split
      · exact meetingFor_from
      · rename_i stored
        obtain ⟨_, -, _, -, _, -, created, -⟩ := storeLesson_ok.mp stored
        obtain ⟨-, lessons, -, rfl⟩ := Db.createLesson_ok.mp created
        exact meetingFor_from

theorem Command.run_from (command : Command) :
    world.db.AccountsFrom (command.run platform user outside world).world.db := by
  by_cases aside : TableName.meetingAccounts ∈ command.footprint
  · cases command with
    | createLesson dto => exact LessonsService.create_from
    | disconnect provider =>
        refine World.commitUnit_keeps world.db.AccountsFrom (Db.accountsFrom_of_eq rfl) ?_
        intro next success
        obtain ⟨_, -, disconnected⟩ := bind_ok.mp success
        obtain ⟨-, rfl⟩ := disconnect_ok.mp disconnected
        exact Db.accountsFrom_of_sublist fun _ member => (Table.mem_delete.mp member).1
    | _ => simp [footprint, studentCascade, groupCascade] at aside
  · exact (command.run_only).accountsFrom aside

/-- A request that completes no connection. -/
def Request.Aside : Request → Prop
  | .anonymous (.completeConnection _ _ _) => False
  | _ => True

theorem Request.serve_from {request : Request} (aside : request.Aside) :
    world.db.AccountsFrom (request.serve platform outside world).world.db := by
  cases request with
  | query userId query =>
      simp only [Request.serve]
      split <;> exact Db.accountsFrom_of_eq rfl
  | command userId command =>
      simp only [Request.serve]
      split
      · exact Db.accountsFrom_of_eq rfl
      · exact command.run_from
  | anonymous call =>
      cases call with
      | registerSchool dto =>
          refine World.commit_keeps world.db.AccountsFrom (Db.accountsFrom_of_eq rfl) ?_
          intro admin next success
          obtain ⟨-, -, founded, created, enlisted, -⟩ := SchoolsService.register_ok.mp success
          obtain ⟨-, schools, -, rfl⟩ := Db.createSchool_ok.mp created
          obtain ⟨-, -, users, -, rfl⟩ := Db.createUser_ok.mp enlisted
          exact Db.accountsFrom_of_eq rfl
      | describeInvitation token => exact Db.accountsFrom_of_eq rfl
      | acceptInvitation token name =>
          refine World.commit_keeps world.db.AccountsFrom (Db.accountsFrom_of_eq rfl) ?_
          intro account next success
          exact (InvitationsService.accept_only success).accountsFrom (by decide)
      | completeConnection provider code state => exact aside.elim

end

/-- A signed-in user has asked to connect an account. -/
structure ConsentRequest where
  userId : Id
  provider : MeetingProvider
  askedAt : Instant
  deriving Repr, DecidableEq

/-- For the record: a browser that came back, and what it found and left. -/
structure BrowserReturn where
  provider : String
  now : Instant
  before : Db
  landing : MeetingsController.Landing

/-- The deployment with everything it has signed, who has asked to connect what, and the browsers
that came back. -/
structure Consents where
  world : World
  signed : List TokenPayload
  asked : List ConsentRequest
  returns : List BrowserReturn

/-- A session is issued, a user asks to connect an account, a browser comes back with whatever an
outsider can make up or has been given, or any other request is served. -/
inductive ConsentStep (platform : Platform) (jwt : JwtService) (connectedUrl : String)
    (before : Consents) : Consents → Prop where
  | issue (now : Instant) (expiresIn : Nat) (claims : JwtClaims) :
      ConsentStep platform jwt connectedUrl before { before with
        signed := JwtService.payloadOf now expiresIn (.session claims) :: before.signed }
  | ask {user : User} {now : Instant} {provider url : String} {named : MeetingProvider}
      (caller : user ∈ before.world.db.users.rows)
      (parsed : MeetingsController.parse provider = .ok named)
      (answered : MeetingsController.connect platform jwt now user provider = .ok url) :
      ConsentStep platform jwt connectedUrl before { before with
        signed := JwtService.payloadOf now MeetingAccountsService.stateTtlSeconds
          (.connect user.id named) :: before.signed
        asked := ⟨user.id, named, now⟩ :: before.asked }
  | land (outside : Outside) (provider : String) (code state error : Option String)
      {landing : MeetingsController.Landing}
      (presentable : ∀ token ∈ state, jwt.Presentable before.signed token)
      (landed : MeetingsController.callback platform connectedUrl outside.draw outside.endpoints
        provider code state error before.world.db = landing) :
      ConsentStep platform jwt connectedUrl before { before with
        world := { before.world with db := landing.db }
        returns := ⟨provider, outside.draw.now, before.world.db, landing⟩ :: before.returns }
  | serve (outside : Outside) {request : Request} (aside : request.Aside) :
      ConsentStep platform jwt connectedUrl before { before with
        world := (request.serve platform outside before.world).world }

/-- Any run of such steps. -/
def ConsentRun (platform : Platform) (jwt : JwtService) (connectedUrl : String) :
    Consents → Consents → Prop :=
  Relation.ReflTransGen (ConsentStep platform jwt connectedUrl)

/-- A browser is sent on as connected when somebody asked for that within the last ten minutes, and
then that account is stored and no other is touched. -/
def BrowserReturn.Answers (connectedUrl : String) (asked : List ConsentRequest)
    (back : BrowserReturn) : Prop :=
  ∃ request ∈ asked, back.provider = request.provider.toText ∧
    back.now < request.askedAt + 600000 ∧
    back.landing.location = MeetingsController.landAt connectedUrl back.provider "connected" ∧
    (∃ row ∈ back.landing.db.meetingAccounts.rows,
      row.userId = request.userId ∧ row.provider = request.provider) ∧
    ∀ other : MeetingAccount, ¬(other.userId = request.userId ∧ other.provider = request.provider) →
      (other ∈ back.landing.db.meetingAccounts.rows ↔ other ∈ back.before.meetingAccounts.rows)

/-- Otherwise it is sent on as cancelled or failed, and nothing has changed. -/
def BrowserReturn.Leaves (connectedUrl : String) (back : BrowserReturn) : Prop :=
  back.landing.db = back.before ∧
    (back.landing.location = MeetingsController.landAt connectedUrl back.provider "cancelled" ∨
      back.landing.location = MeetingsController.landAt connectedUrl back.provider "failed")

/-- Nobody's account was connected by anyone else: every one was asked for by its owner. -/
structure Consents.Consented (connectedUrl : String) (consents : Consents) : Prop where
  returns : ∀ back ∈ consents.returns,
    back.Answers connectedUrl consents.asked ∨ back.Leaves connectedUrl
  owned : ∀ row ∈ consents.world.db.meetingAccounts.rows, ∃ request ∈ consents.asked,
    request.userId = row.userId ∧ request.provider = row.provider ∧
      row.createdAt < request.askedAt + 600000

/-- Every request that was signed was asked for. -/
def Consents.Signed (consents : Consents) : Prop :=
  ∀ payload ∈ consents.signed, ∀ userId provider, payload.claims = .connect userId provider →
    ∃ request ∈ consents.asked, request.userId = userId ∧ request.provider = provider ∧
      payload.exp = request.askedAt / 1000 + 600

section

variable {platform : Platform} {jwt : JwtService} {connectedUrl : String} {before after : Consents}
  {back : BrowserReturn} {request : ConsentRequest} {db next : Db}

/-- An upsert puts a row for its user and provider, and leaves the rows of the others. -/
theorem Db.upsertMeetingAccount_rows {row : MeetingAccount}
    (done : db.upsertMeetingAccount row = .ok next) :
    (∃ stored ∈ next.meetingAccounts.rows,
        stored.userId = row.userId ∧ stored.provider = row.provider) ∧
      (∀ other : MeetingAccount, ¬(other.userId = row.userId ∧ other.provider = row.provider) →
        (other ∈ next.meetingAccounts.rows ↔ other ∈ db.meetingAccounts.rows)) ∧
      ∀ stored ∈ next.meetingAccounts.rows,
        (∃ old ∈ db.meetingAccounts.rows, old.userId = stored.userId ∧
          old.provider = stored.provider ∧ old.createdAt = stored.createdAt) ∨ stored = row := by
  obtain ⟨-, stored⟩ := upsertMeetingAccount_ok.mp done
  have hits : ∀ other : MeetingAccount,
      (other.userId == row.userId && other.provider == row.provider) = true ↔
        other.userId = row.userId ∧ other.provider = row.provider := by
    simp
  split at stored
  · rename_i already
    obtain ⟨old, present, hit⟩ := List.any_eq_true.mp already
    have renewed : next.meetingAccounts = db.meetingAccounts.update
        (fun other => other.userId == row.userId && other.provider == row.provider)
        (fun other => { other with
          refreshToken := row.refreshToken, accessToken := row.accessToken,
          accessTokenExpiresAt := row.accessTokenExpiresAt, accountLabel := row.accountLabel })
        (fun _ => rfl) := by
      rw [← stored]
    rw [renewed]
    refine ⟨?_, ?_, ?_⟩
    · refine ⟨_, List.mem_map.mpr ⟨old, present, rfl⟩, ?_⟩
      rw [if_pos hit]
      exact (hits old).mp hit
    · intro other apart
      have missed : ¬(other.userId == row.userId && other.provider == row.provider) = true :=
        fun same => apart ((hits other).mp same)
      constructor
      · intro member
        rcases Table.of_mem_update member with before | ⟨changed, -, hit, rfl⟩
        · exact before
        · exact absurd hit missed
      · intro member
        rcases Table.mem_update_or_hit member with kept | hit
        · exact kept
        · exact absurd hit missed
    · intro other member
      rcases Table.of_mem_update member with before | ⟨changed, there, -, rfl⟩
      · exact .inl ⟨other, before, rfl, rfl, rfl⟩
      · exact .inl ⟨changed, there, rfl, rfl, rfl⟩
  · obtain ⟨accounts, added, rfl⟩ := stored
    refine ⟨⟨row, (Table.mem_insert added).mpr (.inr rfl), rfl, rfl⟩, ?_, ?_⟩
    · intro other apart
      constructor
      · intro member
        rcases (Table.mem_insert added).mp member with before | rfl
        · exact before
        · exact absurd ⟨rfl, rfl⟩ apart
      · exact fun member => (Table.mem_insert added).mpr (.inl member)
    · intro other member
      rcases (Table.mem_insert added).mp member with before | same
      · exact .inl ⟨other, before, rfl, rfl, rfl⟩
      · exact .inr same

theorem MeetingsController.parse_ok {text : String} {provider : MeetingProvider} :
    parse text = .ok provider ↔ text = provider.toText ∧ isConnectable provider = true := by
  unfold parse
  constructor
  · intro parsed
    split at parsed
    · rename_i zoom
      cases parsed
      exact ⟨zoom, rfl⟩
    · split at parsed
      · rename_i google
        cases parsed
        exact ⟨google, rfl⟩
      · cases parsed
  · rintro ⟨rfl, connectable⟩
    cases provider with
    | zoom => rfl
    | googleMeet => rfl
    | jitsi => cases connectable

theorem within_ttl {now askedAt exp : Int} (expiry : exp = askedAt / 1000 + 600)
    (unexpired : now / 1000 < exp) : now < askedAt + 600000 := by
  omega

/-- What a state that goes through says: its user asked for this account in the last ten minutes. -/
theorem Consents.Signed.asked (signed : before.Signed) (checks : platform.ChecksWith jwt)
    {now : Instant} {provider : MeetingProvider} {token : String} {userId : Id}
    (presentable : jwt.Presentable before.signed token)
    (accepted : MeetingAccountsService.stateUser platform now provider token = .ok userId) :
    ∃ request ∈ before.asked, request.userId = userId ∧ request.provider = provider ∧
      now < request.askedAt + 600000 := by
  have verified := ((MeetingAccountsService.stateUser_ok checks).mp accepted).1
  obtain ⟨payload, member, unexpired, claims⟩ := presentable.signed_of_verify verified
  obtain ⟨request, listed, owner, place, expiry⟩ := signed payload member userId provider claims
  exact ⟨request, listed, owner, place, within_ttl expiry unexpired⟩

theorem ConsentStep.signed (step : ConsentStep platform jwt connectedUrl before after)
    (signed : before.Signed) : after.Signed := by
  cases step with
  | issue now expiresIn claims =>
      intro payload member userId provider connects
      rcases List.mem_cons.mp member with rfl | old
      · cases connects
      · exact signed payload old userId provider connects
  | @ask user now provider url named caller parsed answered =>
      intro payload member userId place connects
      rcases List.mem_cons.mp member with rfl | old
      · cases connects
        exact ⟨_, List.mem_cons_self, rfl, rfl, rfl⟩
      · obtain ⟨request, listed, same⟩ := signed payload old userId place connects
        exact ⟨request, List.mem_cons_of_mem _ listed, same⟩
  | land => exact signed
  | serve => exact signed

/-- A browser that is not told so has changed nothing, and one that is has brought a state that goes
through. -/
theorem MeetingsController.callback_cases {draw : Draw} {endpoints : Endpoints} {provider : String}
    {code state error : Option String} {landing : Landing}
    (landed : callback platform connectedUrl draw endpoints provider code state error db = landing) :
    (landing.db = db ∧ (landing.location = landAt connectedUrl provider "cancelled" ∨
        landing.location = landAt connectedUrl provider "failed")) ∨
      ∃ token ∈ state, ∃ row : MeetingAccount, parse provider = .ok row.provider ∧
        landing.location = landAt connectedUrl provider "connected" ∧
        MeetingAccountsService.stateUser platform draw.now row.provider token = .ok row.userId ∧
        row.createdAt = draw.now ∧ db.upsertMeetingAccount row = .ok landing.db := by
  subst landed
  unfold callback
  split
  · exact .inl ⟨rfl, .inl rfl⟩
  · rename_i complete
    split
    · exact .inl ⟨rfl, .inr rfl⟩
    · rename_i named parsed
      cases state with
      | none => simp [given] at complete
      | some token =>
          rw [Option.getD_some]
          generalize completed : MeetingAccountsService.completeConnection platform draw endpoints
            named (code.getD "") token db = attempt
          dsimp only
          rcases MeetingAccountsService.completeConnection_cases completed with
            ⟨reason, refused, same⟩ | ⟨stored, row, accepted, rfl, created, upserted⟩
          · rw [refused]
            exact .inl ⟨same, .inr rfl⟩
          · rw [stored]
            exact .inr ⟨token, rfl, row, parsed, rfl, accepted, created, upserted⟩

theorem Consents.Consented.land (consented : before.Consented connectedUrl)
    (signed : before.Signed) (checks : platform.ChecksWith jwt) {outside : Outside}
    {provider : String} {code state error : Option String} {landing : MeetingsController.Landing}
    (presentable : ∀ token ∈ state, jwt.Presentable before.signed token)
    (landed : MeetingsController.callback platform connectedUrl outside.draw outside.endpoints
      provider code state error before.world.db = landing) :
    Consents.Consented connectedUrl { before with
      world := { before.world with db := landing.db }
      returns := ⟨provider, outside.draw.now, before.world.db, landing⟩ :: before.returns } := by
  rcases MeetingsController.callback_cases landed with
    leaves | ⟨token, shown, row, parsed, told, accepted, created, upserted⟩
  · constructor
    · intro back member
      rcases List.mem_cons.mp member with rfl | old
      · exact .inr leaves
      · exact consented.returns back old
    · intro row member
      rw [show landing.db = before.world.db from leaves.1] at member
      exact consented.owned row member
  · obtain ⟨request, listed, owner, place, intime⟩ :=
      signed.asked checks (presentable token shown) accepted
    obtain ⟨stored, others, from_⟩ := Db.upsertMeetingAccount_rows upserted
    constructor
    · intro back member
      rcases List.mem_cons.mp member with rfl | old
      · refine .inl ⟨request, listed, ?_, intime, told, ?_, ?_⟩
        · rw [place]
          exact (MeetingsController.parse_ok.mp parsed).1
        · rw [owner, place]
          exact stored
        · rw [owner, place]
          exact others
      · exact consented.returns back old
    · intro other member
      rcases from_ other member with ⟨old, present, sameOwner, samePlace, sameTime⟩ | rfl
      · rw [← sameOwner, ← samePlace, ← sameTime]
        exact consented.owned old present
      · rw [created]
        exact ⟨request, listed, owner, place, intime⟩

theorem BrowserReturn.Answers.later {asked more : List ConsentRequest}
    (answers : back.Answers connectedUrl asked) (kept : ∀ request ∈ asked, request ∈ more) :
    back.Answers connectedUrl more := by
  obtain ⟨request, listed, rest⟩ := answers
  exact ⟨request, kept request listed, rest⟩

theorem ConsentStep.consented (step : ConsentStep platform jwt connectedUrl before after)
    (checks : platform.ChecksWith jwt) (signed : before.Signed)
    (consented : before.Consented connectedUrl) : after.Consented connectedUrl := by
  cases step with
  | issue now expiresIn claims => exact ⟨consented.returns, consented.owned⟩
  | ask caller parsed answered =>
      constructor
      · intro back member
        rcases consented.returns back member with answers | leaves
        · exact .inl (answers.later fun _ listed => List.mem_cons_of_mem _ listed)
        · exact .inr leaves
      · intro row member
        obtain ⟨request, listed, same⟩ := consented.owned row member
        exact ⟨request, List.mem_cons_of_mem _ listed, same⟩
  | land outside provider code state error presentable landed =>
      exact consented.land signed checks presentable landed
  | serve outside aside =>
      refine ⟨consented.returns, fun row member => ?_⟩
      obtain ⟨old, present, owner, place, time⟩ := Request.serve_from aside row member
      rw [← owner, ← place, ← time]
      exact consented.owned old present

/-- A browser's return is served as the call it makes, or leaves everything as it was. -/
theorem MeetingsController.callback_serves {outside : Outside} {world : World} {provider : String}
    {code state error : Option String} {landing : Landing}
    (landed : callback platform connectedUrl outside.draw outside.endpoints provider code state error
      world.db = landing) :
    landing.db = world.db ∨ ∃ named token, { world with db := landing.db } =
      (Request.serve platform outside (.anonymous (.completeConnection named (code.getD "") token))
        world).world := by
  subst landed
  unfold callback
  split
  · exact .inl rfl
  · split
    · exact .inl rfl
    · rename_i named parsed
      have known : MeetingAccountsService.parse named = .ok named :=
        if_pos (parse_ok.mp parsed).2
      refine .inr ⟨named, state.getD "", ?_⟩
      simp only [Request.serve, PublicCall.run, known, World.conclude]
      split <;> rfl

/-- Such a run is a run of requests. -/
theorem ConsentStep.reachable (step : ConsentStep platform jwt connectedUrl before after)
    (reachable : Reachable platform before.world) : Reachable platform after.world := by
  cases step with
  | issue => exact reachable
  | ask => exact reachable
  | land outside provider code state error presentable landed =>
      rcases MeetingsController.callback_serves landed with same | ⟨named, token, served⟩
      · rw [show ({ before.world with db := _ } : World) = before.world by rw [same]]
        exact reachable
      · exact reachable.tail ⟨outside, _, served⟩
  | serve outside aside => exact reachable.tail ⟨outside, _, rfl⟩

/-- Before anybody has asked to connect anything. -/
structure Consents.Fresh (consents : Consents) : Prop where
  signed : consents.signed = []
  returns : consents.returns = []
  accounts : consents.world.db.meetingAccounts.rows = []

theorem ConsentRun.invariant (run : ConsentRun platform jwt connectedUrl before after)
    (checks : platform.ChecksWith jwt) (fresh : before.Fresh) :
    after.Signed ∧ after.Consented connectedUrl := by
  induction run with
  | refl =>
      refine ⟨fun payload member => ?_, fun back member => ?_, fun row member => ?_⟩
      · rw [fresh.signed] at member
        cases member
      · rw [fresh.returns] at member
        cases member
      · rw [fresh.accounts] at member
        cases member
  | tail _ step ih => exact ⟨step.signed ih.1, step.consented checks ih.1 ih.2⟩

theorem MeetingProvider.toText_plain (provider : MeetingProvider) : PlainName provider.toText := by
  cases provider <;> exact ⟨by decide, by decide⟩

/-- Under a plain name, an app reads that an account is connected exactly when it has been. -/
theorem Consents.Consented.told (consented : after.Consented connectedUrl)
    (url : PlainUrl connectedUrl) (member : back ∈ after.returns) (name : PlainName back.provider) :
    shownStatus back.landing.location = some "connected" ↔
      back.Answers connectedUrl after.asked := by
  have read : ∀ {status : String}, PlainName status →
      back.landing.location = MeetingsController.landAt connectedUrl back.provider status →
      shownStatus back.landing.location = some status := by
    intro status told landed
    rw [landed, MeetingsController.shownStatus_landAt url name told]
  constructor
  · intro connected
    rcases consented.returns back member with answers | ⟨-, cancelled | failed⟩
    · exact answers
    · rw [read ⟨by decide, by decide⟩ cancelled] at connected
      exact absurd connected (by decide)
    · rw [read ⟨by decide, by decide⟩ failed] at connected
      exact absurd connected (by decide)
  · rintro ⟨request, -, -, -, connected, -⟩
    exact read ⟨by decide, by decide⟩ connected

/-- Whatever is served in between, and whatever outsiders hand to the callback: every connection was
asked for by its owner at that provider, and every return either answers such a request or changes
nothing. Under a name of a provider that ends no field, an app reads which. -/
theorem connections_are_consented (checks : platform.ChecksWith jwt) (fresh : before.Fresh)
    (url : PlainUrl connectedUrl) (run : ConsentRun platform jwt connectedUrl before after) :
    after.Consented connectedUrl ∧ ∀ back ∈ after.returns, PlainName back.provider →
      (shownStatus back.landing.location = some "connected" ↔
        back.Answers connectedUrl after.asked) := by
  have consented := (run.invariant checks fresh).2
  exact ⟨consented, fun back member name => consented.told url member name⟩

/-- A name that ends a field brings a status of its own. -/
example : shownStatus (MeetingsController.landAt "foxacademy://settings" "ZOOM&status=connected#"
    "cancelled") = some "connected" := by decide

end

theorem fox_authorization : ∃ url,
    MeetingAccountsService.authorizeUrlFor .clear .clear 1772359200000 foxAdmin .zoom = .ok url ∧
      ∃ fields, readQuery (queryOf url) = some fields ∧
        fields.lookup "client_id" = some "client" := by
  obtain ⟨url, answered⟩ : ∃ url, MeetingAccountsService.authorizeUrlFor .clear .clear 1772359200000
      foxAdmin .zoom = .ok url := ⟨_, rfl⟩
  obtain ⟨credentials, uri, state, granted, read, -⟩ :=
    MeetingAccountsService.authorization_comes_back Platform.clear_checks (by decide) answered
  have client : credentials = ⟨"client", "secret"⟩ := (Except.ok.inj granted).symm
  exact ⟨url, answered, _, read, by rw [client]; rfl⟩

/-- A provider that grants lasting access, and says nothing about the account. -/
def granting : Outside where
  draw := ⟨1772359260000, "m1", "", "random", "hash", "nonce", "nonce'"⟩
  endpoints
    | .token _ _ _ => .response 200
        (some (.obj [("access_token", .str "access"), ("refresh_token", .str "refresh")]))
    | _ => .networkFailure
  saves := true

/-- A school whose admin is about to connect an account. -/
def foxConsents : Consents := ⟨World.empty.after .clear [foxSchool], [], [], []⟩

theorem foxConsents_fresh : foxConsents.Fresh := ⟨rfl, rfl, by decide⟩

theorem fox_lands {token : String} (shown : token ≠ "")
    (accepted : MeetingAccountsService.stateUser .clear granting.draw.now .zoom token = .ok "a1") :
    (MeetingsController.callback .clear "foxacademy://settings" granting.draw granting.endpoints
      "ZOOM" (some "code") (some token) none foxConsents.world.db).location =
        "foxacademy://settings?meeting=ZOOM&status=connected" := by
  have prepared : (do
      let _ ← MeetingAccountsService.requireCredentials .clear .zoom
      let userId ← MeetingAccountsService.stateUser .clear granting.draw.now .zoom token
      let uri ← MeetingAccountsService.redirectUri .clear .zoom
      return (userId, uri) : Service (Id × String)) =
        .ok ("a1", "https://api.example.com/api/meetings/callback/ZOOM") := by
    rw [accepted]
    decide +kernel
  have completed : (MeetingAccountsService.completeConnection .clear granting.draw
      granting.endpoints .zoom "code" token foxConsents.world.db).result = .ok () := by
    unfold MeetingAccountsService.completeConnection
    rw [prepared]
    decide +kernel
  have whole : (MeetingsController.given none || !MeetingsController.given (some "code") ||
      !MeetingsController.given (some token)) = false := by
    simp [MeetingsController.given, shown]
  have parsed : MeetingsController.parse "ZOOM" = .ok .zoom := rfl
  unfold MeetingsController.callback
  rw [whole, parsed]
  simp only [Bool.false_eq_true, if_false, Option.getD_some, completed]
  rfl

theorem stateFor_ne_empty (now : Instant) (user : User) (provider : MeetingProvider) :
    MeetingAccountsService.stateFor .clear now user provider ≠ "" := by
  intro empty
  have read : JwtService.clear.decode (MeetingAccountsService.stateFor .clear now user provider) =
      some (JwtService.payloadOf now MeetingAccountsService.stateTtlSeconds
        (.connect user.id provider)) := JwtService.clear.decode_encode _
  rw [empty] at read
  have unread : JwtService.clear.decode "" = none := by decide +kernel
  rw [unread] at read
  cases read

/-- The admin asks, and is back a minute later. -/
theorem fox_consents : ∃ after, ConsentRun .clear .clear "foxacademy://settings" foxConsents after ∧
    (∃ back ∈ after.returns,
      back.landing.location = "foxacademy://settings?meeting=ZOOM&status=connected") ∧
    after.Consented "foxacademy://settings" ∧
    ∀ back ∈ after.returns, back.Answers "foxacademy://settings" after.asked := by
  have named : foxAdmin.id ≠ "" := by decide
  have caller : foxAdmin ∈ foxConsents.world.db.users.rows := by decide +kernel
  obtain ⟨url, answered⟩ : ∃ url, MeetingsController.connect .clear .clear 1772359200000 foxAdmin
      "ZOOM" = .ok url := ⟨_, rfl⟩
  let token := MeetingAccountsService.stateFor .clear 1772359200000 foxAdmin .zoom
  have accepted : MeetingAccountsService.stateUser .clear granting.draw.now .zoom token =
      .ok "a1" := by
    rw [MeetingAccountsService.stateUser_stateFor Platform.clear_checks named]
    decide
  have presentable : JwtService.clear.Presentable [JwtService.payloadOf 1772359200000
      MeetingAccountsService.stateTtlSeconds (.connect foxAdmin.id .zoom)] token :=
    JwtService.presentable_sign List.mem_cons_self
  have told := fox_lands (stateFor_ne_empty 1772359200000 foxAdmin .zoom) accepted
  generalize landed : MeetingsController.callback .clear "foxacademy://settings" granting.draw
    granting.endpoints "ZOOM" (some "code") (some token) none foxConsents.world.db = landing at told
  have run : ConsentRun .clear .clear "foxacademy://settings" foxConsents _ :=
    .head (.ask caller rfl answered) <| .single <|
      .land granting "ZOOM" (some "code") (some token) none
        (fun _ same => Option.mem_some_iff.mp same ▸ presentable) landed
  obtain ⟨consented, read⟩ := connections_are_consented Platform.clear_checks foxConsents_fresh
    ⟨by decide, by decide⟩ run
  refine ⟨_, run, ⟨_, List.mem_cons_self, told⟩, consented, fun back member => ?_⟩
  obtain rfl := List.mem_singleton.mp member
  refine (read _ member (MeetingProvider.toText_plain .zoom)).mp ?_
  rw [told]
  decide

end TutorApp
