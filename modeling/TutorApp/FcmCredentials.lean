import TutorApp.ExpiringCache
import TutorApp.PushDelivery

set_option autoImplicit false

namespace TutorApp

open ExpiringCache
open Js (Instant)

/-- The parts of a Google service-account key that matter here. -/
structure ServiceAccount where
  projectId : String
  clientEmail : String
  privateKey : String
  deriving Repr, DecidableEq

/-- What an access token is asked for with. -/
structure Assertion where
  iss : String
  scope : String
  aud : String
  iat : Int
  exp : Int
  deriving Repr, DecidableEq

/-- How the token endpoint answers; what throws on the way to it, or in reading it, is a cause. -/
inductive TokenAnswer where
  | failed (cause : String)
  | refused (code : Nat) (text : String)
  | payload (accessToken : Option String) (expiresIn : Option ℚ)

namespace FcmCredentials

/-- `SCOPE`. -/
def scope : String := "https://www.googleapis.com/auth/firebase.messaging"

/-- `TOKEN_URL`, and `AUDIENCE`. -/
def tokenUrl : String := "https://oauth2.googleapis.com/token"

/-- `LIFETIME_SECONDS`. -/
def lifetimeSeconds : Int := 3600

/-- `RENEW_MARGIN_MS`. -/
def renewMarginMs : Int := 5 * 60 * 1000

/-- The text under a key of a parsed value, unless it is empty. -/
def textUnder (account : Js.Json) (name : String) : Option String :=
  match account.get? name with
  | some (.str text) => if text = "" then none else some text
  | _ => none

/-- `privateKey.replace(/\n/g, '\n')`: a line break for each line break. -/
def unescaped (privateKey : String) : String :=
  String.ofList (privateKey.toList.map fun c => if c = '\n' then '\n' else c)

def accountKeys : List String := ["project_id", "client_email", "private_key"]

/-- Of what `JSON.parse` makes of the text, `none` where it throws. -/
def parseServiceAccount : Option Js.Json → Except String ServiceAccount
  | none => .error "FCM_SERVICE_ACCOUNT is not valid JSON."
  | some .null => .error "Cannot read properties of null (reading 'project_id')"
  | some account =>
      match textUnder account "project_id", textUnder account "client_email",
        textUnder account "private_key" with
      | some projectId, some clientEmail, some privateKey =>
          .ok ⟨projectId, clientEmail, unescaped privateKey⟩
      | _, _, _ =>
          let missing := ", ".intercalate
            (accountKeys.filter fun name => (textUnder account name).isNone)
          .error (s!"FCM_SERVICE_ACCOUNT is missing: {missing}. " ++
            "Use the whole JSON key from Firebase → Project settings → Service accounts.")

/-- What the endpoint is shown for a token asked for at a time. -/
def assertionFor (account : ServiceAccount) (now : Instant) : Assertion :=
  let issued := now / 1000
  ⟨account.clientEmail, scope, tokenUrl, issued, issued + lifetimeSeconds⟩

/-- The token in an answer, and for how many milliseconds it is reckoned to be good. -/
def readAnswer : TokenAnswer → Except String (String × ℚ)
  | .failed cause => .error cause
  | .refused code text => .error s!"Could not get an FCM access token ({code}): {text}"
  | .payload accessToken expiresIn =>
      let token := accessToken.getD ""
      if token = "" then .error "The token endpoint answered without an access token."
      else .ok (token, expiresIn.getD lifetimeSeconds * 1000)

end FcmCredentials

open FcmCredentials

/-- The credentials kept since their first use, or those that are configured. -/
def PushService.resolveCredentials (configured : Option (Option Js.Json))
    (credentials : Option ServiceAccount) : Except String ServiceAccount :=
  match credentials, configured with
  | some account, _ => .ok account
  | none, none => .error "FCM_SERVICE_ACCOUNT is not set."
  | none, some raw => parseServiceAccount raw

/-- Where a send stands before its loop: its token is on the way, or it goes on with what it needs,
or it ends with nothing retired. -/
inductive AuthPhase where
  | starting
  | getting (account : ServiceAccount)
  | authorised (access : FcmAccess)
  | unauthorised (cause : String)

/-- The push service: its credentials, its token cache with the calls to it, what the endpoint was
asked and when, and the sends. -/
structure PushProcess (τ : Type) where
  credentials : Option ServiceAccount
  tokens : ExpiringCache.State String τ
  asked : List (Instant × Assertion)
  sends : τ → AuthPhase

section

variable {τ : Type} [DecidableEq τ]

def PushProcess.put (state : PushProcess τ) (t : τ) (phase : AuthPhase) : PushProcess τ :=
  { state with sends := Function.update state.sends t phase }

/-- A step of one send. The endpoint's tokens last as long as it says they do, or an hour where it
does not say. -/
inductive AuthStep (configured : Option (Option Js.Json)) (t : τ) (state : PushProcess τ) :
    PushProcess τ → Prop where
  | wait (later : Instant) (forward : state.tokens.clock ≤ later) :
      AuthStep configured t state { state with tokens := { state.tokens with clock := later } }
  | begin (finished : ∀ account, state.sends t ≠ .getting account) :
      AuthStep configured t state (state.put t .starting)
  | misconfigured {cause : String} (starting : state.sends t = .starting)
      (unresolved : PushService.resolveCredentials configured state.credentials = .error cause) :
      AuthStep configured t state (state.put t (.unauthorised cause))
  | cached {account : ServiceAccount} {token : String} (starting : state.sends t = .starting)
      (resolved : PushService.resolveCredentials configured state.credentials = .ok account)
      (found : state.tokens.cache.lookup renewMarginMs state.tokens.clock = some token) :
      AuthStep configured t state ({ state with
        credentials := some account
        tokens := state.tokens.put t (.served token none state.tokens.clock) }.put t
          (.authorised ⟨account.projectId, token⟩))
  | ask {account : ServiceAccount} {now : Instant} (starting : state.sends t = .starting)
      (resolved : PushService.resolveCredentials configured state.credentials = .ok account)
      (missing : state.tokens.cache.lookup renewMarginMs state.tokens.clock = none)
      (clock : state.tokens.clock = now) :
      AuthStep configured t state ({ state with
        credentials := some account
        tokens := state.tokens.put t (.asking state.tokens.clock)
        asked := (now, assertionFor account now) :: state.asked }.put t (.getting account))
  | granted {since : ℚ} {token : String} {lifetime : ℚ} (answer : TokenAnswer) (expires : ℚ)
      (asking : state.tokens.calls t = .asking since)
      (reads : readAnswer answer = .ok (token, lifetime))
      (lasts : state.tokens.clock + lifetime ≤ expires) :
      AuthStep configured t state { state with
        tokens := { state.tokens with
          grants := ⟨token, state.tokens.clock, expires⟩ :: state.tokens.grants }.put t
            (.answered since token lifetime) }
  | stored {account : ServiceAccount} {since : ℚ} {token : String} {lifetime : ℚ}
      (getting : state.sends t = .getting account)
      (answered : state.tokens.calls t = .answered since token lifetime) :
      AuthStep configured t state ({ state with
        tokens := { state.tokens with
          cache := ⟨some token, since + lifetime⟩
          stored := ⟨since, state.tokens.clock⟩ :: state.tokens.stored }.put t
            (.served token (some since) state.tokens.clock) }.put t
          (.authorised ⟨account.projectId, token⟩))
  | failed {account : ServiceAccount} {cause : String} (answer : TokenAnswer)
      (getting : state.sends t = .getting account)
      (busy : (state.tokens.calls t).since ≠ none)
      (unread : readAnswer answer = .error cause) :
      AuthStep configured t state
        ({ state with tokens := state.tokens.put t .failed }.put t (.unauthorised cause))

def AuthRun (configured : Option (Option Js.Json)) : PushProcess τ → PushProcess τ → Prop :=
  Relation.ReflTransGen fun state next => ∃ t, AuthStep configured t state next

end

namespace FcmCredentials

theorem unescaped_eq (privateKey : String) : unescaped privateKey = privateKey := by
  have same : (fun c : Char => if c = '\n' then '\n' else c) = id := by
    funext c
    by_cases line : c = '\n' <;> simp [line]
  rw [unescaped, same, List.map_id, String.ofList_toList]

/-- A key is read when all three texts stand in it, and it is made of just these. -/
theorem parseServiceAccount_ok {parsed : Option Js.Json} {account : ServiceAccount} :
    parseServiceAccount parsed = .ok account ↔ ∃ value, parsed = some value ∧
      textUnder value "project_id" = some account.projectId ∧
      textUnder value "client_email" = some account.clientEmail ∧
      textUnder value "private_key" = some account.privateKey := by
  constructor
  · intro done
    unfold parseServiceAccount at done
    split at done
    · cases done
    · cases done
    · rename_i value _
      split at done
      · rename_i projectId clientEmail privateKey project email key_
        obtain rfl := Except.ok.inj done
        exact ⟨value, rfl, project, email, by rw [unescaped_eq]; exact key_⟩
      · cases done
  · rintro ⟨value, rfl, project, email, key_⟩
    have some : value ≠ .null := by
      rintro rfl
      cases project
    unfold parseServiceAccount
    split
    · rename_i none
      cases none
    · rename_i null
      exact absurd (Option.some.inj null) some
    · rename_i same
      obtain rfl := Option.some.inj same
      rw [project, email, key_]
      simp only [unescaped_eq]

end FcmCredentials

/-- The account the process runs as: the three texts of the configured key. -/
def Configured (configured : Option (Option Js.Json)) (account : ServiceAccount) : Prop :=
  ∃ value, configured = some (some value) ∧
    textUnder value "project_id" = some account.projectId ∧
    textUnder value "client_email" = some account.clientEmail ∧
    textUnder value "private_key" = some account.privateKey

theorem PushService.resolveCredentials_ok {configured : Option (Option Js.Json)}
    {account : ServiceAccount} :
    resolveCredentials configured none = .ok account ↔ Configured configured account := by
  cases configured with
  | none =>
      constructor
      · intro done; cases done
      · rintro ⟨value, same, -⟩; cases same
  | some raw =>
      show parseServiceAccount raw = .ok account ↔ _
      rw [parseServiceAccount_ok]
      constructor
      · rintro ⟨value, rfl, texts⟩
        exact ⟨value, rfl, texts⟩
      · rintro ⟨value, same, texts⟩
        exact ⟨value, Option.some.inj same, texts⟩

/-- Nothing is cached or under way. -/
structure PushProcess.Fresh {τ : Type} (state : PushProcess τ) : Prop where
  credentials : state.credentials = none
  tokens : state.tokens.Fresh
  asked : state.asked = []
  sends : ∀ t, state.sends t = .starting

/-- Whatever is under way is under way for the configured account, and only sends that wait for a
token have a call to the cache under way. -/
structure PushProcess.Sound {τ : Type} (configured : Option (Option Js.Json))
    (state : PushProcess τ) : Prop where
  kept : ∀ account, state.credentials = some account → Configured configured account
  getting : ∀ t account, state.sends t = .getting account → Configured configured account
  authorised : ∀ t access, state.sends t = .authorised access → ∃ account asked now,
    Configured configured account ∧ access.projectId = account.projectId ∧
      state.tokens.calls t = .served access.accessToken asked now
  busy : ∀ t, (state.tokens.calls t).since ≠ none → ∃ account, state.sends t = .getting account
  asked : ∀ ask ∈ state.asked, ∃ account,
    Configured configured account ∧ ask.2 = assertionFor account ask.1

section

variable {τ : Type} {configured : Option (Option Js.Json)} {state next : PushProcess τ} {t : τ}

theorem PushProcess.Fresh.sound (fresh : state.Fresh) : state.Sound configured where
  kept account held := by rw [fresh.credentials] at held; cases held
  getting t account gets := by rw [fresh.sends t] at gets; cases gets
  authorised t access done := by rw [fresh.sends t] at done; cases done
  busy t waits := by rw [fresh.tokens.idle t] at waits; exact absurd rfl waits
  asked ask member := by rw [fresh.asked] at member; cases member

theorem PushProcess.Sound.resolved {account : ServiceAccount} (sound : state.Sound configured)
    (resolved : PushService.resolveCredentials configured state.credentials = .ok account) :
    Configured configured account := by
  cases held : state.credentials with
  | none =>
      rw [held] at resolved
      exact PushService.resolveCredentials_ok.mp resolved
  | some own =>
      rw [held] at resolved
      obtain rfl : own = account := by
        unfold PushService.resolveCredentials at resolved
        exact Except.ok.inj resolved
      exact sound.kept own held

theorem PushProcess.Sound.free (sound : state.Sound configured)
    (waits : ∀ account, state.sends t ≠ .getting account) :
    (state.tokens.calls t).since = none := by
  by_contra busy
  obtain ⟨account, getting⟩ := sound.busy t busy
  exact waits account getting

variable [DecidableEq τ]

@[simp] theorem PushProcess.put_self (phase : AuthPhase) : (state.put t phase).sends t = phase :=
  Function.update_self ..

theorem PushProcess.put_other {other : τ} (phase : AuthPhase) (different : other ≠ t) :
    (state.put t phase).sends other = state.sends other :=
  Function.update_of_ne different ..

/-- A send goes on to a phase that fits its call to the cache, while the others stay. -/
theorem PushProcess.Sound.move {phase : AuthPhase} {credentials : Option ServiceAccount}
    {tokens : ExpiringCache.State String τ} {asked : List (Instant × Assertion)}
    (sound : state.Sound configured)
    (others : ∀ other, other ≠ t → tokens.calls other = state.tokens.calls other)
    (kept : ∀ account, credentials = some account → Configured configured account)
    (getting : ∀ account, phase = .getting account → Configured configured account)
    (authorised : ∀ access, phase = .authorised access → ∃ account asked now,
      Configured configured account ∧ access.projectId = account.projectId ∧
        tokens.calls t = .served access.accessToken asked now)
    (busy : (tokens.calls t).since ≠ none → ∃ account, phase = .getting account)
    (recorded : ∀ ask ∈ asked, ∃ account,
      Configured configured account ∧ ask.2 = assertionFor account ask.1) :
    (({ state with credentials, tokens, asked } : PushProcess τ).put t phase).Sound configured where
  kept := kept
  getting other account gets := by
    by_cases same : other = t
    · rw [same, PushProcess.put_self] at gets
      exact getting account gets
    · rw [PushProcess.put_other phase same] at gets
      exact sound.getting other account gets
  authorised other access done := by
    by_cases same : other = t
    · rw [same, PushProcess.put_self] at done
      obtain ⟨account, asked, now, own, project, served⟩ := authorised access done
      exact ⟨account, asked, now, own, project, by rw [same]; exact served⟩
    · rw [PushProcess.put_other phase same] at done
      obtain ⟨account, asked, now, own, project, served⟩ := sound.authorised other access done
      exact ⟨account, asked, now, own, project, (others other same).trans served⟩
  busy other waits := by
    by_cases same : other = t
    · rw [same, PushProcess.put_self]
      rw [same] at waits
      exact busy waits
    · rw [PushProcess.put_other phase same]
      exact sound.busy other (by rw [← others other same]; exact waits)
  asked := recorded

theorem AuthStep.sound (step : AuthStep configured t state next) (sound : state.Sound configured) :
    next.Sound configured := by
  cases step with
  | wait later forward =>
      exact ⟨sound.kept, sound.getting, sound.authorised, sound.busy, sound.asked⟩
  | begin finished =>
      apply sound.move (fun _ _ => rfl) sound.kept _ _ _ sound.asked
      · intro account same; cases same
      · intro access same; cases same
      · exact fun waits => absurd (sound.free finished) waits
  | misconfigured starting unresolved =>
      apply sound.move (fun _ _ => rfl) sound.kept _ _ _ sound.asked
      · intro account same; cases same
      · intro access same; cases same
      · exact fun waits => absurd (sound.free (by rw [starting]; exact fun _ same => by cases same)) waits
  | @cached account token starting resolved found =>
      have own := sound.resolved resolved
      apply sound.move (fun other different => State.put_other _ different) _ _ _ _ sound.asked
      · intro kept same
        exact Option.some.inj same ▸ own
      · intro account same; cases same
      · intro access same
        cases same
        exact ⟨account, _, _, own, rfl, State.put_self _⟩
      · intro waits
        rw [State.put_self] at waits
        exact absurd rfl waits
  | @ask account now starting resolved missing clock =>
      have own := sound.resolved resolved
      apply sound.move fun other different => State.put_other _ different
      · intro kept same
        exact Option.some.inj same ▸ own
      · intro kept same
        cases same
        exact own
      · intro access same; cases same
      · exact fun _ => ⟨account, rfl⟩
      · intro ask member
        rcases List.mem_cons.mp member with rfl | older
        · exact ⟨account, own, rfl⟩
        · exact sound.asked ask older
  | @granted since token lifetime answer expires asking reads lasts =>
      obtain ⟨account, getting⟩ := sound.busy t (by rw [asking]; exact Option.some_ne_none _)
      have other_calls : ∀ other, other ≠ t → (State.put { state.tokens with
          grants := ⟨token, state.tokens.clock, expires⟩ :: state.tokens.grants } t
            (.answered since token lifetime)).calls other = state.tokens.calls other :=
        fun other different => State.put_other _ different
      refine ⟨sound.kept, sound.getting, fun other access done => ?_, fun other waits => ?_,
        sound.asked⟩
      · have different : other ≠ t := by
          rintro rfl
          have both : AuthPhase.getting account = .authorised access := getting.symm.trans done
          cases both
        obtain ⟨account, asked, now, own, project, served⟩ := sound.authorised other access done
        exact ⟨account, asked, now, own, project, (other_calls other different).trans served⟩
      · by_cases same : other = t
        · exact ⟨account, by rw [same]; exact getting⟩
        · exact sound.busy other (by rw [← other_calls other same]; exact waits)
  | @stored account since token lifetime getting answered =>
      have own := sound.getting t account getting
      apply sound.move _ sound.kept _ _ _ sound.asked
      · exact fun other different => State.put_other _ different
      · intro account same; cases same
      · intro access same
        cases same
        exact ⟨account, _, _, own, rfl, State.put_self _⟩
      · intro waits
        rw [State.put_self] at waits
        exact absurd rfl waits
  | failed answer getting busy unread =>
      apply sound.move (fun other different => State.put_other _ different) sound.kept _ _ _
        sound.asked
      · intro account same; cases same
      · intro access same; cases same
      · intro waits
        rw [State.put_self] at waits
        exact absurd rfl waits

/-- A step is one of the cache, or none. -/
theorem AuthStep.cache (step : AuthStep configured t state next) (sound : state.Sound configured) :
    Step renewMarginMs t state.tokens next.tokens ∨ next.tokens = state.tokens := by
  have free : state.sends t = .starting → (state.tokens.calls t).since = none := fun starting =>
    sound.free (by rw [starting]; exact fun _ same => by cases same)
  cases step with
  | wait later forward => exact .inl (.wait later forward)
  | begin => exact .inr rfl
  | misconfigured => exact .inr rfl
  | cached starting resolved found => exact .inl (.hit (free starting) found)
  | ask starting resolved missing clock => exact .inl (.miss (free starting) missing)
  | granted answer expires asking reads lasts => exact .inl (.grant asking _ _ expires lasts)
  | stored getting answered => exact .inl (.store answered)
  | failed answer getting busy unread => exact .inl (.fail busy)

theorem AuthRun.sound {start : PushProcess τ} (run : AuthRun configured start state)
    (fresh : start.Fresh) :
    state.Sound configured ∧ Run renewMarginMs start.tokens state.tokens := by
  induction run with
  | refl => exact ⟨fresh.sound, .refl⟩
  | tail _ moved ih =>
      obtain ⟨t, step⟩ := moved
      obtain ⟨sound, ran⟩ := ih
      refine ⟨step.sound sound, ?_⟩
      rcases step.cache sound with cached | same
      · exact ran.tail ⟨t, cached⟩
      · rw [same]
        exact ran

/-- A send goes out as the configured account, with the token its own call was served with: one that
was good for five minutes more when it was taken from the cache, or one granted since that call asked
for it. The endpoint is asked only in that account's name, by assertions that are in force and run
for an hour. -/
theorem pushes_are_authorised {start : PushProcess τ} (fresh : start.Fresh)
    (run : AuthRun configured start state) :
    (∀ t access, state.sends t = .authorised access → ∃ account asked now,
      Configured configured account ∧ access.projectId = account.projectId ∧
        state.tokens.calls t = .served access.accessToken asked now ∧ now ≤ state.tokens.clock ∧
        Served (5 * 60 * 1000) state.tokens.grants access.accessToken asked now) ∧
    ∀ ask ∈ state.asked, ∃ account, Configured configured account ∧
      ask.2.iss = account.clientEmail ∧ ask.2.aud = tokenUrl ∧ ask.2.exp = ask.2.iat + 3600 ∧
      1000 * ask.2.iat ≤ ask.1 ∧ ask.1 < 1000 * ask.2.iat + 1000 := by
  obtain ⟨sound, ran⟩ := run.sound fresh
  have backed := ran.backed fresh.tokens
  constructor
  · intro t access authorised
    obtain ⟨account, asked, now, own, project, served⟩ := sound.authorised t access authorised
    obtain ⟨before, good⟩ := backed.served t _ asked now served
    have margin : (renewMarginMs : ℚ) = 5 * 60 * 1000 := by norm_num [renewMarginMs]
    rw [margin] at good
    exact ⟨account, asked, now, own, project, served, before, good⟩
  · intro ask member
    obtain ⟨account, own, same⟩ := sound.asked ask member
    have seconds : ∀ now : Int, 1000 * (now / 1000) ≤ now ∧ now < 1000 * (now / 1000) + 1000 := by
      intro now
      omega
    obtain ⟨after, before⟩ := seconds ask.1
    rw [same]
    exact ⟨account, own, rfl, rfl, rfl, after, before⟩

/-- Sends that take turns at the endpoint, whose tokens last an hour. -/
def AuthInTurn (configured : Option (Option Js.Json)) : PushProcess τ → PushProcess τ → Prop :=
  Relation.ReflTransGen fun state next => ∃ t, AuthStep configured t state next ∧
    InTurn (lifetimeSeconds * 1000) t state.tokens next.tokens

theorem AuthInTurn.serial {start : PushProcess τ} (run : AuthInTurn configured start state)
    (fresh : start.Fresh) : state.Sound configured ∧
      SerialRun renewMarginMs (lifetimeSeconds * 1000) start.tokens state.tokens := by
  induction run with
  | refl => exact ⟨fresh.sound, .refl⟩
  | tail _ moved ih =>
      obtain ⟨t, step, inTurn⟩ := moved
      obtain ⟨sound, ran⟩ := ih
      refine ⟨step.sound sound, ?_⟩
      rcases step.cache sound with cached | same
      · exact ran.tail ⟨t, cached, inTurn⟩
      · rw [same]
        exact ran

theorem AuthInTurn.run {start : PushProcess τ} (run : AuthInTurn configured start state) :
    AuthRun configured start state :=
  Relation.ReflTransGen.mono (fun _ _ ⟨t, step, _⟩ => ⟨t, step⟩) _ _ run

/-- However many sends there are, those that renew the token ask for it fifty-five minutes apart at
least, and after the one before is written. -/
theorem access_tokens_are_reused {start : PushProcess τ} (fresh : start.Fresh)
    (run : AuthInTurn configured start state) :
    (state.tokens.stored.Pairwise fun later earlier =>
      earlier.asked + 55 * 60 * 1000 ≤ later.asked ∧ earlier.written ≤ later.asked) ∧
    ∀ renewal ∈ state.tokens.stored, renewal.asked ≤ renewal.written := by
  obtain ⟨-, serial⟩ := run.serial fresh
  have spaced := serial.spaced fresh.tokens
  refine ⟨spaced.spaced.imp fun {later earlier} settled => ⟨?_, settled.written⟩,
    fun renewal member => (spaced.past renewal member).1⟩
  have hour : (lifetimeSeconds : ℚ) = 3600 := by norm_num [lifetimeSeconds]
  have margin : (renewMarginMs : ℚ) = 300000 := by norm_num [renewMarginMs]
  have apart := settled.asked
  rw [hour, margin] at apart
  linarith

end

def foxKey : Option (Option Js.Json) :=
  some (some (.obj [("project_id", .str "fox"), ("client_email", .str "push@fox"),
    ("private_key", .str "key")]))

def foxCredentials : ServiceAccount := ⟨"fox", "push@fox", "key"⟩

theorem foxKey_read : PushService.resolveCredentials foxKey none = .ok foxCredentials := rfl

/-- Two sends about to start, and an empty cache. -/
def twoSends : PushProcess Bool :=
  ⟨none, ⟨.empty, (1000000 : Instant), [], [], fun _ => .idle⟩, [], fun _ => .starting⟩

theorem twoSends_fresh : twoSends.Fresh := ⟨rfl, ⟨rfl, rfl, fun _ => rfl⟩, rfl, fun _ => rfl⟩

theorem margin_eq : (renewMarginMs : ℚ) = 300000 := by norm_num [renewMarginMs]

theorem hour_eq : (lifetimeSeconds : ℚ) * 1000 = 3600000 := by norm_num [lifetimeSeconds]

def tokenGranted : TokenAnswer := .payload (some "ya29") none

theorem tokenGranted_read : readAnswer tokenGranted = .ok ("ya29", lifetimeSeconds * 1000) := rfl

theorem nothing_cached : twoSends.tokens.cache.lookup renewMarginMs twoSends.tokens.clock = none := by
  unfold Cache.lookup
  split <;> rfl

theorem granted_lasts (now expires : Instant) (late : now + 3600000 ≤ expires) :
    (now : ℚ) + lifetimeSeconds * 1000 ≤ expires := by
  rw [hour_eq]
  exact_mod_cast late

/-- The first send fetches a token, and ten minutes later the second goes out with it. -/
theorem second_send_authorised : ∃ state, AuthRun foxKey twoSends state ∧
    state.sends false = .authorised ⟨"fox", "ya29"⟩ ∧ ∃ now,
      state.tokens.calls false = .served "ya29" none now ∧
        Served (5 * 60 * 1000) state.tokens.grants "ya29" none now := by
  obtain ⟨state, run, sent, kept⟩ : ∃ state, AuthRun foxKey twoSends state ∧
      state.sends false = .authorised ⟨"fox", "ya29"⟩ ∧
      state.tokens.calls false = .served "ya29" none ((1600000 : Instant) : ℚ) := by
    refine ⟨_, .head ⟨true, .ask rfl foxKey_read nothing_cached rfl⟩ <|
      .head ⟨true, .granted tokenGranted (4600000 : Instant) rfl tokenGranted_read
        (granted_lasts 1000000 4600000 (by decide))⟩ <|
      .head ⟨true, .stored rfl rfl⟩ <| .head ⟨true, .wait 1600000 ?_⟩ <|
      .single ⟨false, .cached rfl rfl (Cache.lookup_eq_some.mpr ⟨?_, rfl⟩)⟩, rfl, rfl⟩
    · show ((1000000 : Instant) : ℚ) ≤ (1600000 : Instant)
      norm_num
    · show ((1600000 : Instant) : ℚ) <
        ((1000000 : Instant) : ℚ) + lifetimeSeconds * 1000 - renewMarginMs
      rw [hour_eq, margin_eq]
      norm_num
  obtain ⟨account, asked, now, -, -, taken, -, served⟩ :=
    (pushes_are_authorised twoSends_fresh run).1 false _ sent
  obtain ⟨-, rfl, rfl⟩ := Phase.served.inj (kept.symm.trans taken)
  exact ⟨state, run, sent, _, kept, served⟩

/-- The second send comes late enough to fetch a token of its own. -/
theorem late_send_renews : ∃ state, AuthInTurn foxKey twoSends state ∧
    state.tokens.stored = [⟨(4400000 : Instant), (4400000 : Instant)⟩,
      ⟨(1000000 : Instant), (1600000 : Instant)⟩] ∧
    state.tokens.stored.Pairwise fun later earlier =>
      earlier.asked + 55 * 60 * 1000 ≤ later.asked ∧ earlier.written ≤ later.asked := by
  obtain ⟨state, run, stored⟩ : ∃ state, AuthInTurn foxKey twoSends state ∧
      state.tokens.stored = [⟨(4400000 : Instant), (4400000 : Instant)⟩,
        ⟨(1000000 : Instant), (1600000 : Instant)⟩] := by
    have calm : ∀ {t : Bool} {state next : ExpiringCache.State String Bool},
        (∀ since, next.calls t ≠ .asking since) →
        (∀ since value lifetime, next.calls t ≠ .answered since value lifetime) →
        InTurn (lifetimeSeconds * 1000) t state next := fun asks answers =>
      ⟨fun _ since same => absurd same (asks since), fun since value lifetime same =>
        absurd same (answers since value lifetime)⟩
    have lasting : ∀ {t : Bool} {since : ℚ} {state next : ExpiringCache.State String Bool},
        next.calls t = .answered since "ya29" (lifetimeSeconds * 1000) →
        InTurn (lifetimeSeconds * 1000) t state next := by
      intro t since state next answered
      constructor
      · intro _ since same
        rw [answered] at same
        cases same
      · intro since value lifetime same
        rw [answered] at same
        cases same
        exact le_rfl
    refine ⟨_, .head ⟨true, .ask rfl foxKey_read nothing_cached rfl,
        ⟨fun _ _ _ _ => rfl, fun _ _ _ same => nomatch same⟩⟩ <|
      .head ⟨false, .wait (1600000 : Instant) ?_,
        calm (fun _ same => nomatch same) fun _ _ _ same => nomatch same⟩ <|
      .head ⟨true, .granted tokenGranted (5200000 : Instant) rfl tokenGranted_read
        (granted_lasts 1600000 5200000 (by decide)), lasting rfl⟩ <|
      .head ⟨true, .stored rfl rfl, calm (fun _ same => nomatch same) fun _ _ _ same => nomatch same⟩ <|
      .head ⟨true, .wait (4400000 : Instant) ?_,
        calm (fun _ same => nomatch same) fun _ _ _ same => nomatch same⟩ <|
      .head ⟨false, .ask rfl rfl ?_ (rfl : _ = ((4400000 : Instant) : ℚ)),
        ⟨fun _ _ _ other => ?_, fun _ _ _ same => nomatch same⟩⟩ <|
      .head ⟨false, .granted tokenGranted (8000000 : Instant) rfl tokenGranted_read
        (granted_lasts 4400000 8000000 (by decide)), lasting rfl⟩ <|
      .single ⟨false, .stored rfl rfl,
        calm (fun _ same => nomatch same) fun _ _ _ same => nomatch same⟩, rfl⟩
    · show ((1000000 : Instant) : ℚ) ≤ (1600000 : Instant)
      norm_num
    · show ((1600000 : Instant) : ℚ) ≤ (4400000 : Instant)
      norm_num
    · show (if ((4400000 : Instant) : ℚ) <
        ((1000000 : Instant) : ℚ) + lifetimeSeconds * 1000 - renewMarginMs then _ else _) = none
      rw [hour_eq, margin_eq, if_neg (by norm_num)]
    · cases other <;> rfl
  exact ⟨state, run, stored, (access_tokens_are_reused twoSends_fresh run).1⟩

end TutorApp
