import TutorApp.Prisma

set_option autoImplicit false

namespace TutorApp

open Relational
open Js (Instant)

inductive DevicePlatform where
  | android
  | ios
  | web
  deriving Repr, DecidableEq

/-- A device that can be notified; one row for each token. -/
structure PushToken where
  token : String
  platform : DevicePlatform
  createdAt : Instant
  lastSeenAt : Instant
  userId : Id
  deriving Repr, DecidableEq

instance : Keyed PushToken String := ⟨PushToken.token⟩

namespace DevicesService

/-- The upsert on the token: a device that is known moves to the caller. -/
def register (user : User) (token : String) (platform : DevicePlatform) (now : Instant)
    (tokens : Table PushToken) : Table PushToken :=
  tokens.upsert ⟨token, platform, now, now, user.id⟩
    (fun row => { row with userId := user.id, platform, lastSeenAt := now }) fun _ => rfl

def unregister (user : User) (token : String) (tokens : Table PushToken) : Table PushToken :=
  tokens.delete fun row => row.token == token && row.userId == user.id

/-- Every device of any of the users; `reached` says whether the database answers. -/
def tokensFor (reached : Bool) (userIds : List Id) (tokens : Table PushToken) :
    Service (List PushToken) :=
  if userIds.isEmpty then .ok []
  else do
    require reached .internal
    return tokens.select fun row => userIds.contains row.userId

def retire (reached : Bool) (dead : List String) (tokens : Table PushToken) :
    Service (Table PushToken) :=
  if dead.isEmpty then .ok tokens
  else do
    require reached .internal
    return tokens.delete fun row => dead.contains row.token

end DevicesService

/-- One notification, addressed to one device. -/
structure PushMessage where
  token : String
  title : String
  body : String
  data : List (String × String)
  channelId : Option String
  deriving Repr, DecidableEq

inductive PushTransport where
  | log
  | fcm
  deriving Repr, DecidableEq

/-- What resolving the credentials and exchanging them comes to. -/
structure FcmAccess where
  projectId : String
  accessToken : String
  deriving Repr, DecidableEq

/-- A message in FCM's shape. -/
structure FcmMessage where
  token : String
  title : String
  body : String
  priority : String
  channelId : Option String
  data : List (String × String)
  deriving Repr, DecidableEq

structure FcmRequest where
  url : String
  authorization : String
  message : FcmMessage
  deriving Repr, DecidableEq

/-- How FCM answers: `status` is what the body of a rejection names, if it reads and names one. -/
inductive FcmAnswer where
  | unreachable
  | delivered
  | rejected (code : Nat) (status : Option String)
  deriving Repr, DecidableEq

/-- What a push meets outside: how it is configured, and which of its calls go through. -/
structure PushOutside where
  transport : PushTransport
  access : Option FcmAccess
  answer : FcmRequest → FcmAnswer
  readsTokens : Bool
  dropsTokens : Bool

namespace PushService

/-- `CONCURRENCY`. -/
def concurrency : Nat := 10

/-- `DEAD_TOKEN_ERRORS`. -/
def deadTokenErrors : List String := ["NOT_FOUND", "UNREGISTERED", "INVALID_ARGUMENT"]

def bodyFor (message : PushMessage) : FcmMessage :=
  ⟨message.token, message.title, message.body, "high", message.channelId, message.data⟩

def requestFor (access : FcmAccess) (message : PushMessage) : FcmRequest where
  url := s!"https://fcm.googleapis.com/v1/projects/{access.projectId}/messages:send"
  authorization := s!"Bearer {access.accessToken}"
  message := bodyFor message

/-- The token to retire, or `none` when there is nothing to act on. -/
def sendOne (answer : FcmRequest → FcmAnswer) (access : FcmAccess) (message : PushMessage) :
    Option String :=
  match answer (requestFor access message) with
  | .unreachable => none
  | .delivered => none
  | .rejected code status =>
      if deadTokenErrors.contains (status.getD (toString code)) then some message.token else none

/-- The rounds the messages go out in. -/
def slices (messages : List PushMessage) : List (List PushMessage) :=
  (List.range ((messages.length + concurrency - 1) / concurrency)).map fun round =>
    (messages.drop (concurrency * round)).take concurrency

/-- The tokens that have died; a failure to deliver is never thrown. -/
def send (outside : PushOutside) (messages : List PushMessage) : List String :=
  if messages.isEmpty then []
  else match outside.transport, outside.access with
    | .log, _ => []
    | .fcm, none => []
    | .fcm, some access =>
        (slices messages).flatMap fun slice => slice.filterMap (sendOne outside.answer access)

end PushService

/-- The user a token is registered to. -/
def holderOf (tokens : Table PushToken) (token : String) : Option Id :=
  (tokens.find token).map PushToken.userId

section

variable {tokens left : Table PushToken} {user : User} {token other : String}

@[simp] theorem holderOf_empty : holderOf .empty token = none := rfl

theorem holderOf_register {platform : DevicePlatform} {now : Instant} :
    holderOf (DevicesService.register user token platform now tokens) other =
      if token = other then some user.id else holderOf tokens other := by
  rw [holderOf, DevicesService.register, Table.find_upsert]
  by_cases same : token = other
  · have keyed : key (⟨token, platform, now, now, user.id⟩ : PushToken) = other := same
    rw [if_pos keyed, if_pos same]
    cases tokens.find other <;> rfl
  · have keyed : key (⟨token, platform, now, now, user.id⟩ : PushToken) ≠ other := same
    rw [if_neg keyed, if_neg same, holderOf]

/-- A deletion takes the tokens of the rows it hits. -/
theorem holderOf_delete {hit : PushToken → Bool} {holder : Id} :
    holderOf (tokens.delete hit) other = some holder ↔
      ∃ row, tokens.find other = some row ∧ row.userId = holder ∧ hit row = false := by
  rw [holderOf, Table.find_delete, Option.map_eq_some_iff]
  simp only [Option.filter_eq_some_iff, Bool.not_eq_true']
  constructor
  · rintro ⟨row, ⟨found, kept⟩, held⟩
    exact ⟨row, found, held, kept⟩
  · rintro ⟨row, found, held, kept⟩
    exact ⟨row, ⟨found, kept⟩, held⟩

theorem holderOf_unregister {holder : Id} :
    holderOf (DevicesService.unregister user token tokens) other = some holder ↔
      holderOf tokens other = some holder ∧ ¬ (other = token ∧ holder = user.id) := by
  rw [DevicesService.unregister, holderOf_delete, holderOf, Option.map_eq_some_iff]
  constructor
  · rintro ⟨row, found, rfl, kept⟩
    refine ⟨⟨row, found, rfl⟩, fun hit => ?_⟩
    have named : row.token = other := (Table.find_eq_some.mp found).2
    simp only [named, hit.1, hit.2, beq_self_eq_true, Bool.and_self, Bool.true_eq_false] at kept
  · rintro ⟨⟨row, found, rfl⟩, kept⟩
    refine ⟨row, found, rfl, ?_⟩
    have named : row.token = other := (Table.find_eq_some.mp found).2
    rw [named, Bool.and_eq_false_iff, beq_eq_false_iff_ne, beq_eq_false_iff_ne]
    exact not_and_or.mp kept

theorem holderOf_retire {dead : List String} {reached : Bool} {holder : Id}
    (done : DevicesService.retire reached dead tokens = .ok left) :
    holderOf left other = some holder ↔ holderOf tokens other = some holder ∧ other ∉ dead := by
  unfold DevicesService.retire at done
  split at done
  · rename_i nothing
    obtain rfl := Except.ok.inj done
    rw [List.isEmpty_iff.mp nothing]
    simp only [List.not_mem_nil, not_false_eq_true, and_true]
  · simp only [bind_ok, pure_ok] at done
    obtain ⟨_, -, rfl⟩ := done
    rw [holderOf_delete, holderOf, Option.map_eq_some_iff]
    constructor
    · rintro ⟨row, found, rfl, kept⟩
      have named : row.token = other := (Table.find_eq_some.mp found).2
      rw [named, List.contains_eq_mem, decide_eq_false_iff_not] at kept
      exact ⟨⟨row, found, rfl⟩, kept⟩
    · rintro ⟨⟨row, found, rfl⟩, kept⟩
      have named : row.token = other := (Table.find_eq_some.mp found).2
      exact ⟨row, found, rfl, by rw [named, List.contains_eq_mem, decide_eq_false kept]⟩

end

namespace PushService

theorem flatten_slices (messages : List PushMessage) : (slices messages).flatten = messages := by
  have rounds (n : Nat) : ((List.range n).map fun round =>
      (messages.drop (concurrency * round)).take concurrency).flatten =
        messages.take (concurrency * n) := by
    induction n with
    | zero => rfl
    | succ n ih =>
        rw [List.range_succ, List.map_append, List.flatten_append, ih, List.map_singleton,
          List.flatten_singleton, Nat.mul_succ, List.take_add]
  have enough : messages.length ≤
      concurrency * ((messages.length + concurrency - 1) / concurrency) := by
    simp only [concurrency]
    omega
  rw [slices, rounds, List.take_of_length_le enough]

/-- FCM is asked, and calls the token of the message dead. -/
def CallsDead (outside : PushOutside) (message : PushMessage) : Prop :=
  outside.transport = .fcm ∧ ∃ access, outside.access = some access ∧
    ∃ code status, outside.answer (requestFor access message) = .rejected code status ∧
      status.getD (toString code) ∈ deadTokenErrors

theorem sendOne_eq_some {answer : FcmRequest → FcmAnswer} {access : FcmAccess}
    {message : PushMessage} {token : String} :
    sendOne answer access message = some token ↔ message.token = token ∧
      ∃ code status, answer (requestFor access message) = .rejected code status ∧
        status.getD (toString code) ∈ deadTokenErrors := by
  unfold sendOne
  split
  · rename_i silent
    simp only [silent, reduceCtorEq, false_and, exists_false, and_false]
  · rename_i delivered
    simp only [delivered, reduceCtorEq, false_and, exists_false, and_false]
  · rename_i code status rejected
    simp only [rejected, FcmAnswer.rejected.injEq, List.contains_eq_mem, decide_eq_true_eq,
      Option.ite_none_right_eq_some, Option.some.injEq]
    constructor
    · rintro ⟨dead, same⟩
      exact ⟨same, code, status, ⟨rfl, rfl⟩, dead⟩
    · rintro ⟨same, _, _, ⟨rfl, rfl⟩, dead⟩
      exact ⟨dead, same⟩

/-- Whatever the size of a round, each message is sent once, in its turn. -/
theorem send_eq_filterMap {outside : PushOutside} {access : FcmAccess}
    (asked : outside.transport = .fcm) (opened : outside.access = some access)
    (messages : List PushMessage) :
    send outside messages = messages.filterMap (sendOne outside.answer access) := by
  unfold send
  split
  · rename_i none
    rw [List.isEmpty_iff.mp none, List.filterMap_nil]
  · rw [asked, opened]
    calc (slices messages).flatMap (fun slice => slice.filterMap (sendOne outside.answer access))
        = (slices messages).flatten.filterMap (sendOne outside.answer access) := by
          rw [List.flatMap_def, ← List.filterMap_flatten]
      _ = messages.filterMap (sendOne outside.answer access) := by rw [flatten_slices]

theorem send_silent {outside : PushOutside} {messages : List PushMessage}
    (silent : outside.transport = .log ∨ outside.access = none) : send outside messages = [] := by
  unfold send
  split
  · rfl
  · rcases silent with logged | locked
    · rw [logged]
    · rw [locked]
      cases outside.transport <;> rfl

/-- The tokens to retire are those FCM calls dead. -/
theorem mem_send {outside : PushOutside} {messages : List PushMessage} {token : String} :
    token ∈ send outside messages ↔
      ∃ message ∈ messages, message.token = token ∧ CallsDead outside message := by
  cases asked : outside.transport with
  | log =>
      rw [send_silent (.inl asked)]
      simp only [CallsDead, asked, List.not_mem_nil, reduceCtorEq, false_and, and_false,
        exists_false]
  | fcm =>
      cases opened : outside.access with
      | none =>
          rw [send_silent (.inr opened)]
          simp only [CallsDead, opened, List.not_mem_nil, reduceCtorEq, false_and, and_false,
            exists_false]
      | some access =>
          rw [send_eq_filterMap asked opened, List.mem_filterMap]
          simp only [sendOne_eq_some, CallsDead, asked, opened, Option.some.injEq, exists_eq_left',
            true_and]

end PushService

end TutorApp
