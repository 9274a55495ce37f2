import TutorApp.Consent
import TutorApp.FcmCredentials

set_option autoImplicit false

namespace TutorApp

open Js (Instant)

inductive NodeEnv where
  | development
  | test
  | production
  deriving Repr, DecidableEq

inductive MailTransport where
  | log
  | resend
  deriving Repr, DecidableEq

inductive StorageDriver where
  | local
  | s3
  deriving Repr, DecidableEq

/-- The variables that are demanded of a deployment by what else it sets. -/
inductive EnvKey where
  | resendApiKey
  | mailFrom
  | s3Bucket
  | s3AccessKeyId
  | s3SecretAccessKey
  | fcmServiceAccount
  | zoomClientId
  | zoomClientSecret
  | googleClientId
  | googleClientSecret
  | publicApiUrl
  | meetingTokenSecret
  deriving Repr, DecidableEq

def EnvKey.toText : EnvKey → String
  | resendApiKey => "RESEND_API_KEY"
  | mailFrom => "MAIL_FROM"
  | s3Bucket => "S3_BUCKET"
  | s3AccessKeyId => "S3_ACCESS_KEY_ID"
  | s3SecretAccessKey => "S3_SECRET_ACCESS_KEY"
  | fcmServiceAccount => "FCM_SERVICE_ACCOUNT"
  | zoomClientId => "ZOOM_CLIENT_ID"
  | zoomClientSecret => "ZOOM_CLIENT_SECRET"
  | googleClientId => "GOOGLE_CLIENT_ID"
  | googleClientSecret => "GOOGLE_CLIENT_SECRET"
  | publicApiUrl => "PUBLIC_API_URL"
  | meetingTokenSecret => "MEETING_TOKEN_SECRET"

/-- What the schema finds wrong, and where. -/
structure EnvIssue where
  path : List String
  message : String
  deriving Repr, DecidableEq

def EnvIssue.line (issue : EnvIssue) : String :=
  let place := ".".intercalate issue.path
  (if place = "" then "(root)" else place) ++ ": " ++ issue.message

/-- What the schema makes of the environment: the choices, and the variables some choice demands. -/
structure Settings where
  nodeEnv : NodeEnv := .development
  corsOrigins : Option String := none
  mailTransport : MailTransport := .log
  pushTransport : PushTransport := .log
  storageDriver : StorageDriver := .local
  resendApiKey : Option String := none
  mailFrom : Option String := none
  s3Bucket : Option String := none
  s3AccessKeyId : Option String := none
  s3SecretAccessKey : Option String := none
  fcmServiceAccount : Option String := none
  zoomClientId : Option String := none
  zoomClientSecret : Option String := none
  googleClientId : Option String := none
  googleClientSecret : Option String := none
  publicApiUrl : Option String := none
  meetingTokenSecret : Option String := none

/-- The settings with the origins a browser may call from. -/
structure Env where
  settings : Settings
  corsOrigins : String

namespace Settings

variable (settings : Settings)

/-- `data[key]`, where a blank one is as good as none. -/
def get (key : EnvKey) : Option String :=
  let value := match key with
    | .resendApiKey => settings.resendApiKey
    | .mailFrom => settings.mailFrom
    | .s3Bucket => settings.s3Bucket
    | .s3AccessKeyId => settings.s3AccessKeyId
    | .s3SecretAccessKey => settings.s3SecretAccessKey
    | .fcmServiceAccount => settings.fcmServiceAccount
    | .zoomClientId => settings.zoomClientId
    | .zoomClientSecret => settings.zoomClientSecret
    | .googleClientId => settings.googleClientId
    | .googleClientSecret => settings.googleClientSecret
    | .publicApiUrl => settings.publicApiUrl
    | .meetingTokenSecret => settings.meetingTokenSecret
  value.filter (· ≠ "")

def has (key : EnvKey) : Bool := (settings.get key).isSome

/-- A line for each of these keys that is missing. -/
def missing (keys : List EnvKey) (reason : String) : List String :=
  (keys.filter fun key => !settings.has key).map fun key => key.toText ++ ": " ++ reason

/-- OAuth apps, as the pairs they have to be configured in. -/
def meetingOauthPairs : List (EnvKey × EnvKey) :=
  [(.zoomClientId, .zoomClientSecret), (.googleClientId, .googleClientSecret)]

/-- A line for each pair with one half. -/
def halfPairs : List String :=
  (meetingOauthPairs.filter fun pair => settings.has pair.1 != settings.has pair.2).map
    fun pair => pair.1.toText ++ " and " ++ pair.2.toText ++ ": set both, or neither"

def configuredProviders : Bool := meetingOauthPairs.any fun pair => settings.has pair.1

end Settings

/-- Production closes, development opens. -/
def corsOriginsFor (configured : Option String) (nodeEnv : NodeEnv) : String :=
  configured.getD (if nodeEnv = .production then "" else "*")

def invalid (lines : List String) : String :=
  "Invalid environment configuration:\n" ++ "\n".intercalate (lines.map fun line => "  - " ++ line)

/-- No start with something to complain about. -/
def complain (lines : List String) : Except String Unit :=
  if lines = [] then .ok () else .error (invalid lines)

/-- What the variables of the settings have to be besides what the schema makes sure of. -/
def crossChecks (settings : Settings) : Except String Unit := do
  complain (if settings.pushTransport = .fcm then
    settings.missing [.fcmServiceAccount] "required when PUSH_TRANSPORT=fcm" else [])
  complain (if settings.mailTransport = .resend then
    settings.missing [.resendApiKey, .mailFrom] "required when MAIL_TRANSPORT=resend" else [])
  complain (if settings.storageDriver = .s3 then
    settings.missing [.s3Bucket, .s3AccessKeyId, .s3SecretAccessKey]
      "required when STORAGE_DRIVER=s3" else [])
  complain settings.halfPairs
  complain (if settings.configuredProviders then
    settings.missing [.publicApiUrl, .meetingTokenSecret]
      "required once a meeting provider is configured" else [])

/-- The schema's `safeParse` is whatever reads a raw environment. -/
def validateEnv {ρ : Type} (safeParse : ρ → Except (List EnvIssue) Settings) (raw : ρ) :
    Except String Env :=
  match safeParse raw with
  | .error issues => .error (invalid (issues.map EnvIssue.line))
  | .ok settings => do
      crossChecks settings
      return ⟨settings, corsOriginsFor settings.corsOrigins settings.nodeEnv⟩

/-- The `origin` that `enableCors` is given: `true`, a list, or `false`. -/
inductive CorsOrigin where
  | all
  | only (origins : List String)
  | closed
  deriving Repr, DecidableEq

def configureApp (env : Env) : Except String CorsOrigin :=
  if env.settings.nodeEnv = .production ∧ Js.trim env.corsOrigins = "*" then
    .error "CORS_ORIGINS must list the allowed origins in production, not \"*\"."
  else
    let allowed := ((Js.split ',' env.corsOrigins).map Js.trim).filter (· ≠ "")
    .ok (if Js.trim env.corsOrigins = "*" then .all
      else if allowed ≠ [] then .only allowed else .closed)

/-- From the environment to a service that listens. -/
def start {ρ : Type} (safeParse : ρ → Except (List EnvIssue) Settings) (raw : ρ) :
    Except String (Env × CorsOrigin) := do
  let env ← validateEnv safeParse raw
  let cors ← configureApp env
  return (env, cors)

/-- The providers this deployment can offer at all. -/
def MeetingAccountsService.availableProviders (platform : Platform) : List MeetingProvider :=
  [.zoom, .googleMeet].filter fun provider => (credentialsFor platform provider).isSome

def Settings.client (settings : Settings) (id secret : EnvKey) : Option Credentials :=
  match settings.get id, settings.get secret with
  | some clientId, some clientSecret => some ⟨clientId, clientSecret⟩
  | _, _ => none

/-- The deployment reads these settings. -/
structure Platform.Reads (platform : Platform) (settings : Settings) : Prop where
  zoom : platform.zoomClient = settings.client .zoomClientId .zoomClientSecret
  google : platform.googleClient = settings.client .googleClientId .googleClientSecret
  cipher : platform.cipher.isSome = settings.has .meetingTokenSecret
  url : platform.publicApiUrl = settings.get .publicApiUrl

/-- Whatever is chosen has what it needs. -/
structure Settings.Complete (settings : Settings) : Prop where
  push : settings.pushTransport = .fcm → settings.has .fcmServiceAccount = true
  mail : settings.mailTransport = .resend →
    settings.has .resendApiKey = true ∧ settings.has .mailFrom = true
  storage : settings.storageDriver = .s3 → settings.has .s3Bucket = true ∧
    settings.has .s3AccessKeyId = true ∧ settings.has .s3SecretAccessKey = true
  pairs : ∀ pair ∈ meetingOauthPairs, settings.has pair.1 = settings.has pair.2
  providers : ∀ pair ∈ meetingOauthPairs, settings.has pair.1 = true →
    settings.has .publicApiUrl = true ∧ settings.has .meetingTokenSecret = true

section

variable {ρ : Type} {safeParse : ρ → Except (List EnvIssue) Settings} {raw : ρ}
variable {settings : Settings} {platform : Platform} {env : Env} {cors : CorsOrigin}

theorem complain_ok {lines : List String} : complain lines = .ok () ↔ lines = [] := by
  unfold complain
  split
  · rename_i quiet
    exact iff_of_true rfl quiet
  · rename_i loud
    exact iff_of_false (fun done => by cases done) loud

theorem seq_ok {first : Except String Unit} {next : Except String Unit} :
    (do first; next) = .ok () ↔ first = .ok () ∧ next = .ok () := by
  cases first <;> simp [bind, Except.bind]

theorem missing_eq_nil {keys : List EnvKey} {reason : String} :
    settings.missing keys reason = [] ↔ ∀ key ∈ keys, settings.has key = true := by
  simp [Settings.missing, List.filter_eq_nil_iff]

theorem halfPairs_eq_nil : settings.halfPairs = [] ↔
    ∀ pair ∈ Settings.meetingOauthPairs, settings.has pair.1 = settings.has pair.2 := by
  simp only [Settings.halfPairs, List.map_eq_nil_iff, List.filter_eq_nil_iff, bne_iff_ne,
    Decidable.not_not]

theorem ite_eq_nil {p : Prop} [Decidable p] {lines : List String} :
    (if p then lines else []) = [] ↔ (p → lines = []) := by
  split <;> simp [*]

theorem crossChecks_ok : crossChecks settings = .ok () ↔ settings.Complete := by
  simp only [crossChecks, seq_ok, complain_ok, ite_eq_nil, missing_eq_nil, halfPairs_eq_nil,
    Settings.configuredProviders, List.any_eq_true]
  constructor
  · rintro ⟨push, mail, storage, pairs, providers⟩
    refine ⟨fun fcm => push fcm _ (by simp), fun resend => ?_, fun s3 => ?_, pairs,
      fun pair member given => ?_⟩
    · exact ⟨mail resend _ (by simp), mail resend _ (by simp)⟩
    · exact ⟨storage s3 _ (by simp), storage s3 _ (by simp), storage s3 _ (by simp)⟩
    · have both := providers ⟨pair, member, given⟩
      exact ⟨both _ (by simp), both _ (by simp)⟩
  · intro complete
    refine ⟨fun fcm key listed => ?_, fun resend key listed => ?_, fun s3 key listed => ?_,
      complete.pairs, ?_⟩
    · obtain rfl := List.mem_singleton.mp listed
      exact complete.push fcm
    · obtain ⟨apiKey, sender⟩ := complete.mail resend
      simp only [List.mem_cons, List.not_mem_nil, or_false] at listed
      rcases listed with rfl | rfl
      · exact apiKey
      · exact sender
    · obtain ⟨bucket, access, secret⟩ := complete.storage s3
      simp only [List.mem_cons, List.not_mem_nil, or_false] at listed
      rcases listed with rfl | rfl | rfl
      · exact bucket
      · exact access
      · exact secret
    · rintro ⟨pair, member, given⟩ key listed
      obtain ⟨url, secret⟩ := complete.providers pair member given
      simp only [List.mem_cons, List.not_mem_nil, or_false] at listed
      rcases listed with rfl | rfl
      · exact url
      · exact secret

theorem validateEnv_ok : validateEnv safeParse raw = .ok env ↔
    ∃ settings, safeParse raw = .ok settings ∧ settings.Complete ∧
      env = ⟨settings, corsOriginsFor settings.corsOrigins settings.nodeEnv⟩ := by
  unfold validateEnv
  cases safeParse raw with
  | error issues =>
      refine iff_of_false (fun done => by cases done) ?_
      rintro ⟨settings, refused, -⟩
      cases refused
  | ok settings =>
      simp only [Except.ok.injEq, exists_eq_left', ← crossChecks_ok]
      cases crossChecks settings <;> simp [bind, Except.bind, pure, Except.pure, eq_comm]

theorem start_ok : start safeParse raw = .ok (env, cors) ↔
    validateEnv safeParse raw = .ok env ∧ configureApp env = .ok cors := by
  unfold start
  cases validateEnv safeParse raw with
  | error reason => simp [bind, Except.bind]
  | ok checked =>
      cases configured : configureApp checked with
      | error reason =>
          simp only [bind, Except.bind, configured, Except.ok.injEq]
          constructor
          · intro stuck
            cases stuck
          · rintro ⟨rfl, granted⟩
            rw [configured] at granted
            cases granted
      | ok granted =>
          simp only [bind, Except.bind, configured, pure, Except.pure, Except.ok.injEq,
            Prod.mk.injEq]
          constructor
          · rintro ⟨rfl, rfl⟩
            exact ⟨rfl, configured⟩
          · rintro ⟨rfl, same⟩
            rw [configured] at same
            cases same
            exact ⟨rfl, rfl⟩

open MeetingAccountsService

theorem client_isSome {id secret : EnvKey} :
    (settings.client id secret).isSome = (settings.has id && settings.has secret) := by
  unfold Settings.client Settings.has
  cases settings.get id <;> cases settings.get secret <;> rfl

theorem mem_availableProviders {provider : MeetingProvider} :
    provider ∈ availableProviders platform ↔ (credentialsFor platform provider).isSome = true := by
  cases provider <;> simp [availableProviders, credentialsFor]

/-- A provider is offered once its client has an id. -/
theorem credentialsFor_isSome (complete : settings.Complete) (reads : platform.Reads settings)
    {provider : MeetingProvider} : (credentialsFor platform provider).isSome = match provider with
      | .zoom => settings.has .zoomClientId
      | .googleMeet => settings.has .googleClientId
      | .jitsi => false := by
  have zoom := complete.pairs (.zoomClientId, .zoomClientSecret) (by decide)
  have google := complete.pairs (.googleClientId, .googleClientSecret) (by decide)
  cases provider with
  | zoom => rw [credentialsFor, reads.zoom, client_isSome, ← zoom, Bool.and_self]
  | googleMeet => rw [credentialsFor, reads.google, client_isSome, ← google, Bool.and_self]
  | jitsi => rfl

/-- Where a provider is offered, there is an address to come back to and a key to keep tokens under. -/
theorem offered_has (complete : settings.Complete) (reads : platform.Reads settings)
    {provider : MeetingProvider} (offered : provider ∈ availableProviders platform) :
    platform.publicApiUrl.isSome = true ∧ platform.cipher.isSome = true := by
  rw [mem_availableProviders, credentialsFor_isSome complete reads] at offered
  rw [reads.url, reads.cipher]
  cases provider with
  | zoom => exact complete.providers (.zoomClientId, .zoomClientSecret) (by decide) offered
  | googleMeet => exact complete.providers (.googleClientId, .googleClientSecret) (by decide) offered
  | jitsi => cases offered

/-- In production the origins that get in are listed one by one. -/
theorem configureApp_listed (configured : configureApp env = .ok cors)
    (deployed : env.settings.nodeEnv = .production) :
    cors ≠ .all ∧ ∀ origins, cors = .only origins → ∀ origin ∈ origins,
      origin ∈ (Js.split ',' env.corsOrigins).map Js.trim ∧ origin ≠ "" := by
  unfold configureApp at configured
  split at configured
  · cases configured
  · rename_i narrow
    have closed : Js.trim env.corsOrigins ≠ "*" := fun wide => narrow ⟨deployed, wide⟩
    simp only [if_neg closed, Except.ok.injEq] at configured
    split at configured
    · subst configured
      refine ⟨CorsOrigin.noConfusion, ?_⟩
      rintro _ ⟨⟩ origin listed
      simpa using listed
    · subst configured
      exact ⟨CorsOrigin.noConfusion, fun _ => CorsOrigin.noConfusion⟩

theorem configureApp_ok : (∃ cors, configureApp env = .ok cors) ↔
    ¬ (env.settings.nodeEnv = .production ∧ Js.trim env.corsOrigins = "*") := by
  unfold configureApp
  split
  · rename_i wide
    constructor
    · rintro ⟨cors, refused⟩
      cases refused
    · exact fun narrow => absurd wide narrow
  · rename_i narrow
    exact ⟨fun _ => narrow, fun _ => ⟨_, rfl⟩⟩

/-- A service starts when the schema takes its environment, the settings are complete and it is not
wide open in production. -/
theorem starts_iff : (∃ env cors, start safeParse raw = .ok (env, cors)) ↔
    ∃ settings, safeParse raw = .ok settings ∧ settings.Complete ∧
      ¬ (settings.nodeEnv = .production ∧ Js.trim (settings.corsOrigins.getD "") = "*") := by
  have origins : ∀ settings : Settings, settings.nodeEnv = .production →
      corsOriginsFor settings.corsOrigins settings.nodeEnv = settings.corsOrigins.getD "" := by
    intro settings deployed
    rw [corsOriginsFor, if_pos deployed]
  simp only [start_ok, exists_and_left, configureApp_ok, validateEnv_ok]
  constructor
  · rintro ⟨_, ⟨settings, parsed, complete, rfl⟩, narrow⟩
    refine ⟨settings, parsed, complete, fun wide => narrow ⟨wide.1, ?_⟩⟩
    rw [origins settings wide.1]
    exact wide.2
  · rintro ⟨settings, parsed, complete, narrow⟩
    refine ⟨_, ⟨settings, parsed, complete, rfl⟩, fun wide => narrow ⟨wide.1, ?_⟩⟩
    rw [← origins settings wide.1]
    exact wide.2

/-- A key that is set is never reported as missing, whatever is made of it. -/
theorem resolveCredentials_set {raw : Option Js.Json} :
    PushService.resolveCredentials (some raw) none ≠ .error "FCM_SERVICE_ACCOUNT is not set." := by
  intro missing
  have parsed : FcmCredentials.parseServiceAccount raw =
      .error "FCM_SERVICE_ACCOUNT is not set." := missing
  unfold FcmCredentials.parseServiceAccount at parsed
  split at parsed
  · exact absurd (Except.error.inj parsed) (by decide)
  · exact absurd (Except.error.inj parsed) (by decide)
  · split at parsed
    · cases parsed
    · have letters := congrArg String.toList (Except.error.inj parsed)
      simp [toString] at letters

theorem authorizeUrlFor_refused {jwt : JwtService} {now : Instant} {user : User}
    {provider : MeetingProvider} (missing : provider ∉ availableProviders platform) :
    authorizeUrlFor platform jwt now user provider =
      .error (.badRequest "That provider cannot be connected on this server") := by
  rw [mem_availableProviders, Option.not_isSome_iff_eq_none] at missing
  rw [authorizeUrlFor, requireCredentials, missing]
  rfl

/-- A service starts exactly when the schema takes its environment, the settings are complete and it
is not wide open in production. A started one offers no provider that cannot be connected: every
demand a connection makes of the settings is met. Pushes find a key, and in production the origins
that get in are listed one by one. -/
theorem started_services_are_complete :
    ((∃ env cors, start safeParse raw = .ok (env, cors)) ↔
      ∃ settings, safeParse raw = .ok settings ∧ settings.Complete ∧
        ¬ (settings.nodeEnv = .production ∧ Js.trim (settings.corsOrigins.getD "") = "*")) ∧
    ∀ env cors, start safeParse raw = .ok (env, cors) → ∀ platform : Platform,
      platform.Reads env.settings →
      (∀ provider ∈ availableProviders platform, ∀ jwt now user nonce value,
        (∃ url, authorizeUrlFor platform jwt now user provider = .ok url) ∧
        (∃ credentials, requireCredentials platform provider = .ok credentials) ∧
        (∃ uri, redirectUri platform provider = .ok uri) ∧
        ∃ stored, encrypt platform nonce value = .ok stored) ∧
      (∀ provider ∉ availableProviders platform, ∀ jwt now user,
        authorizeUrlFor platform jwt now user provider =
          .error (.badRequest "That provider cannot be connected on this server")) ∧
      (env.settings.pushTransport = .fcm → ∀ parse : String → Option Js.Json,
        PushService.resolveCredentials ((env.settings.get .fcmServiceAccount).map parse) none ≠
          .error "FCM_SERVICE_ACCOUNT is not set.") ∧
      (env.settings.nodeEnv = .production → cors ≠ .all ∧
        ∀ origins, cors = .only origins → ∀ origin ∈ origins, origin ≠ "" ∧
          ∃ configured, env.settings.corsOrigins = some configured ∧
            origin ∈ (Js.split ',' configured).map Js.trim) := by
  refine ⟨starts_iff, fun env cors started platform reads => ?_⟩
  obtain ⟨valid, configured⟩ := start_ok.mp started
  obtain ⟨settings, -, complete, rfl⟩ := validateEnv_ok.mp valid
  refine ⟨fun provider offered jwt now user nonce value => ?connects,
    fun provider missing jwt now user => authorizeUrlFor_refused missing, ?pushes, ?pages⟩
  case connects =>
    obtain ⟨address, key⟩ := offered_has complete reads offered
    obtain ⟨base, based⟩ := Option.isSome_iff_exists.mp address
    obtain ⟨cipher, keyed⟩ := Option.isSome_iff_exists.mp key
    obtain ⟨credentials, found⟩ :=
      Option.isSome_iff_exists.mp (mem_availableProviders.mp offered)
    have required : requireCredentials platform provider = .ok credentials := by
      rw [requireCredentials, found, keyed]
    obtain ⟨uri, redirects⟩ : ∃ uri, redirectUri platform provider = .ok uri := by
      rw [redirectUri, based]
      exact ⟨_, rfl⟩
    refine ⟨?_, ⟨credentials, required⟩, ⟨uri, redirects⟩, ?_⟩
    · rw [authorizeUrlFor, required, redirects]
      exact ⟨_, rfl⟩
    · rw [encrypt, keyed]
      exact ⟨_, rfl⟩
  case pushes =>
    intro fcm parse
    obtain ⟨raw, given⟩ := Option.isSome_iff_exists.mp (complete.push fcm)
    rw [given]
    exact resolveCredentials_set
  case pages =>
    intro deployed
    obtain ⟨narrow, listed⟩ := configureApp_listed configured deployed
    refine ⟨narrow, fun origins only origin member => ?_⟩
    obtain ⟨named, nonempty⟩ := listed origins only origin member
    rw [corsOriginsFor, if_pos deployed] at named
    refine ⟨nonempty, ?_⟩
    cases given : settings.corsOrigins with
    | none =>
        -- With nothing configured the list is one blank name.
        rw [given] at named
        exact absurd (by simpa [Js.split, Js.splitList, Js.trim, Js.trimList] using named) nonempty
    | some configured =>
        rw [given] at named
        exact ⟨configured, rfl, named⟩

end

/-- Zoom, and pushes, for the pages of one origin. -/
def deployedSettings : Settings where
  nodeEnv := .production
  corsOrigins := some "https://app.example.com, https://www.example.com"
  pushTransport := .fcm
  fcmServiceAccount := some "{}"
  zoomClientId := some "client"
  zoomClientSecret := some "secret"
  publicApiUrl := some "https://api.example.com"
  meetingTokenSecret := some "0123456789abcdef0123456789abcdef"

/-- A schema that looks at one variable. -/
def secretChecked (settings : Settings) : Except (List EnvIssue) Settings :=
  if settings.meetingTokenSecret.any fun secret => secret.length < 32 then
    .error [⟨["MEETING_TOKEN_SECRET"], "MEETING_TOKEN_SECRET must be at least 32 characters"⟩]
  else .ok settings

theorem plain_reads : Platform.plain.Reads deployedSettings where
  zoom := by decide
  google := by decide
  cipher := by decide
  url := by decide

/-- It starts and Zoom can be connected; without the secret it does not start, nor with a short
one. -/
theorem deployed_starts : (∃ env cors, start secretChecked deployedSettings = .ok (env, cors)) ∧
    (∀ jwt now user, ∃ url, MeetingAccountsService.authorizeUrlFor .plain jwt now user .zoom =
      .ok url) ∧
    start secretChecked { deployedSettings with meetingTokenSecret := none } =
      .error ("Invalid environment configuration:\n" ++
        "  - MEETING_TOKEN_SECRET: required once a meeting provider is configured") ∧
    start secretChecked { deployedSettings with meetingTokenSecret := some "password" } =
      .error ("Invalid environment configuration:\n" ++
        "  - MEETING_TOKEN_SECRET: MEETING_TOKEN_SECRET must be at least 32 characters") := by
  have complete : deployedSettings.Complete :=
    ⟨by decide, by decide, by decide, by decide, by decide⟩
  obtain ⟨starts, works⟩ := @started_services_are_complete _ secretChecked deployedSettings
  obtain ⟨env, cors, started⟩ := starts.mpr ⟨deployedSettings, rfl, complete, by decide⟩
  have own : env.settings = deployedSettings := by
    obtain ⟨settings, parsed, -, rfl⟩ := validateEnv_ok.mp (start_ok.mp started).1
    exact (Except.ok.inj parsed).symm
  refine ⟨⟨env, cors, started⟩, fun jwt now user => ?_, rfl, rfl⟩
  exact ((works env cors started .plain (own ▸ plain_reads)).1 .zoom (by decide) jwt now user ""
    "").1

end TutorApp
