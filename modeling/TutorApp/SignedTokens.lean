import TutorApp.PercentEncoding
import TutorApp.System
import Mathlib.Logic.Equiv.Nat

set_option autoImplicit false

namespace TutorApp

open Js (Instant)

/-- Claims carried in the access token. -/
structure JwtClaims where
  sub : Id
  email : String
  schoolId : Id
  role : UserRole
  /-- A token from before there were versions carries none. -/
  ver : Option Nat
  deriving Repr, DecidableEq

/-- What is signed with the deployment's one secret: sessions, and requests to connect an account. -/
inductive TokenClaims where
  | session (claims : JwtClaims)
  | connect (sub : Id) (provider : MeetingProvider)
  deriving Repr, DecidableEq

/-- What the callback reads of a token; a session names neither a provider nor a use. -/
def TokenClaims.connectClaims : TokenClaims → ConnectClaims
  | session claims => ⟨some claims.sub, none, none⟩
  | connect sub provider => ⟨some sub, some provider.toText, some "meeting-connect"⟩

/-- Whose a token is. -/
def TokenClaims.sub : TokenClaims → Id
  | session claims => claims.sub
  | connect sub _ => sub

/-- The claims with the seconds a token is issued and runs out at. -/
structure TokenPayload where
  claims : TokenClaims
  iat : Int
  exp : Int
  deriving Repr, DecidableEq

/-- The token of a payload, and the payload of a text whose signature holds. -/
structure JwtService where
  encode : TokenPayload → String
  decode : String → Option TokenPayload
  decode_encode : ∀ payload, decode (encode payload) = some payload

namespace JwtService

variable (jwt : JwtService)

def payloadOf (now : Instant) (expiresIn : Nat) (claims : TokenClaims) : TokenPayload :=
  ⟨claims, now / 1000, now / 1000 + expiresIn⟩

def sign (now : Instant) (expiresIn : Nat) (claims : TokenClaims) : String :=
  jwt.encode (payloadOf now expiresIn claims)

def verify (now : Instant) (token : String) : Option TokenClaims :=
  (jwt.decode token).bind fun payload =>
    if now / 1000 < payload.exp then some payload.claims else none

/-- What an outsider can hand in: a text that reads as a payload only if that payload was signed. -/
def Presentable (signed : List TokenPayload) (token : String) : Prop :=
  ∀ payload, jwt.decode token = some payload → payload ∈ signed

variable {jwt} {now later : Instant} {expiresIn : Nat} {claims : TokenClaims} {token : String}
  {signed : List TokenPayload}

/-- A signed token verifies until it runs out, and never after. -/
theorem verify_sign : jwt.verify later (jwt.sign now expiresIn claims) =
    if later / 1000 < now / 1000 + expiresIn then some claims else none := by
  rw [verify, sign, jwt.decode_encode]
  rfl

/-- Whoever was given a token can hand it in. -/
theorem presentable_sign (listed : payloadOf now expiresIn claims ∈ signed) :
    jwt.Presentable signed (jwt.sign now expiresIn claims) := by
  intro payload decoded
  rw [sign, jwt.decode_encode, Option.some.injEq] at decoded
  exact decoded ▸ listed

theorem verify_eq_some (verified : jwt.verify now token = some claims) :
    ∃ payload, jwt.decode token = some payload ∧ now / 1000 < payload.exp ∧
      payload.claims = claims := by
  obtain ⟨payload, decoded, unexpired⟩ := Option.bind_eq_some_iff.mp verified
  by_cases early : now / 1000 < payload.exp
  · rw [if_pos early, Option.some.injEq] at unexpired
    exact ⟨payload, decoded, early, unexpired⟩
  · rw [if_neg early] at unexpired
    cases unexpired

/-- A token that verifies carries a payload that was signed and has not run out. -/
theorem Presentable.signed_of_verify (presentable : jwt.Presentable signed token)
    (verified : jwt.verify now token = some claims) :
    ∃ payload ∈ signed, now / 1000 < payload.exp ∧ payload.claims = claims := by
  obtain ⟨payload, decoded, unexpired, same⟩ := verify_eq_some verified
  exact ⟨payload, presentable payload decoded, unexpired, same⟩

end JwtService

/-- The deployment checks its tokens with this service. -/
def Platform.ChecksWith (platform : Platform) (jwt : JwtService) : Prop :=
  ∀ now token, platform.verifyState now token = (jwt.verify now token).map TokenClaims.connectClaims

namespace JwtService

/-- A number as that many strokes. -/
def strokes (n : Nat) : String := String.ofList (List.replicate n '1')

theorem length_strokes (n : Nat) : (strokes n).length = n := by
  rw [strokes, String.length_ofList, List.length_replicate]

def secondsText (seconds : Int) : String := strokes (Equiv.intEquivNat seconds)

def secondsRead (text : String) : Int := Equiv.intEquivNat.symm text.length

theorem secondsRead_secondsText (seconds : Int) : secondsRead (secondsText seconds) = seconds := by
  rw [secondsRead, secondsText, length_strokes, Equiv.symm_apply_apply]

def roleText : UserRole → String
  | .admin => "ADMIN"
  | .tutor => "TUTOR"

def roleRead (text : String) : UserRole := if text = "ADMIN" then .admin else .tutor

def providerRead (text : String) : MeetingProvider :=
  if text = "ZOOM" then .zoom else if text = "GOOGLE_MEET" then .googleMeet else .jitsi

def fieldsOf (payload : TokenPayload) : List (String × String) :=
  let times := [("iat", secondsText payload.iat), ("exp", secondsText payload.exp)]
  match payload.claims with
  | .session claims => times ++ [("sub", claims.sub), ("email", claims.email),
      ("schoolId", claims.schoolId), ("role", roleText claims.role),
      ("ver", strokes (claims.ver.elim 0 Nat.succ))]
  | .connect sub provider => times ++ [("sub", sub), ("provider", provider.toText)]

def payloadRead : List (String × String) → Option TokenPayload
  | [(_, iat), (_, exp), (_, sub), (_, email), (_, schoolId), (_, role), (_, ver)] =>
      let ver := if ver.length = 0 then none else some (ver.length - 1)
      some ⟨.session ⟨sub, email, schoolId, roleRead role, ver⟩, secondsRead iat, secondsRead exp⟩
  | [(_, iat), (_, exp), (_, sub), (_, provider)] =>
      some ⟨.connect sub (providerRead provider), secondsRead iat, secondsRead exp⟩
  | _ => none

theorem payloadRead_fieldsOf (payload : TokenPayload) :
    payloadRead (fieldsOf payload) = some payload := by
  obtain ⟨claims, iat, exp⟩ := payload
  cases claims with
  | session claims =>
      obtain ⟨sub, email, schoolId, role, ver⟩ := claims
      have roles : roleRead (roleText role) = role := by cases role <;> decide
      cases ver <;> simp [fieldsOf, payloadRead, secondsRead_secondsText, length_strokes, roles]
  | connect sub provider =>
      have providers : providerRead provider.toText = provider := by cases provider <;> decide
      simp [fieldsOf, payloadRead, secondsRead_secondsText, providers]

/-- Tokens in the clear, as form-encoded payloads. -/
def clear : JwtService where
  encode payload := PercentEncoding.writeQuery (fieldsOf payload)
  decode text := (PercentEncoding.readQuery text).bind payloadRead
  decode_encode payload := by
    rw [PercentEncoding.readQuery_writeQuery, Option.bind_some, payloadRead_fieldsOf]

end JwtService

/-- A deployment that checks the tokens it hands out in the clear. -/
def Platform.clear : Platform :=
  { Platform.plain with
    verifyState := fun now token =>
      (JwtService.clear.verify now token).map TokenClaims.connectClaims }

theorem Platform.clear_checks : Platform.clear.ChecksWith .clear := fun _ _ => rfl

end TutorApp
