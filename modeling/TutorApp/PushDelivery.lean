import TutorApp.Devices
import TutorApp.Rounds

set_option autoImplicit false

namespace Js

mutual

/-- Whether `String(value)` gives a text: an object with a `toString` of its own is converted by
calling it, and nothing in JSON can be called. -/
def Json.hasText : Json → Bool
  | .obj fields => fields.all fun field => field.1 != "toString"
  | .arr items => Json.haveTexts items
  | .null => true
  | .bool _ => true
  | .num _ => true
  | .str _ => true

/-- An array is converted by joining the texts of its elements. -/
def Json.haveTexts : List Json → Bool
  | [] => true
  | item :: rest => Json.hasText item && Json.haveTexts rest

end

/-- Whether a value counts as true in a condition. -/
def Json.truthy : Json → Bool
  | .null => false
  | .bool value => value
  | .num value => value != 0
  | .str text => text != ""
  | .arr _ => true
  | .obj _ => true

end Js

namespace TutorApp

/-- What `fetch` comes to: it throws, or it gives a response, whose body may not be JSON. -/
inductive FcmReply where
  | unreachable
  | response (code : Nat) (body : Option Js.Json)
  deriving DecidableEq

namespace PushDelivery

/-- `response.ok`. -/
def isOk (code : Nat) : Bool := 200 ≤ code && code ≤ 299

/-- `payload?.error?.[name]`, where `none` is `undefined`. -/
def errorField (payload : Option Js.Json) (name : String) : Option Js.Json :=
  (payload.bind fun value => value.get? "error").bind fun error => error.get? name

/-- `payload?.error?.status ?? String(response.status)`. -/
def statusOf (code : Nat) (payload : Option Js.Json) : Js.Json :=
  match errorField payload "status" with
  | none => .str (toString code)
  | some .null => .str (toString code)
  | some status => status

/-- Whether the line that reports a rejection can be put together. -/
def logs (code : Nat) (payload : Option Js.Json) : Bool :=
  (statusOf code payload).hasText &&
    (errorField payload "message").all fun text => !text.truthy || text.hasText

/-- What an attempt to send can throw. -/
inductive Fault where
  | unreachable
  | unprintable
  deriving Repr, DecidableEq

/-- What stands inside `try`. -/
def attempt (message : PushMessage) : FcmReply → Except Fault (Option String)
  | .unreachable => throw .unreachable
  | .response code payload =>
      if isOk code then return none
      else do
        unless logs code payload do throw .unprintable
        return if PushService.deadTokenErrors.any (statusOf code payload == .str ·) then
          some message.token
        else none

/-- The token to retire, or `none` when there is nothing to act on. -/
def sendOne (message : PushMessage) (reply : FcmReply) : Except Fault (Option String) :=
  tryCatch (attempt message reply) fun _ => return none

/-- A send at work: each message stands beside its place in the list. -/
abbrev Sending := Rounds.State (PushMessage × Nat) String Fault

def finished : Sending := ⟨0, [], [], .ended (.ok [])⟩

/-- Where a send stands at its loop, or when it returns before it. -/
def send (transport : PushTransport) (access : Option FcmAccess) (messages : List PushMessage) :
    Sending :=
  if messages.isEmpty then finished
  else match transport, access with
    | .log, _ => finished
    | .fcm, none => finished
    | .fcm, some _ => .initial

/-- The requests made so far. -/
def requests (access : FcmAccess) (sending : Sending) : List FcmRequest :=
  sending.started.map fun sent => PushService.requestFor access sent.1

/-- A response is an error whose body names one of the errors that mean the token is dead. -/
def namesDead : FcmReply → Bool
  | .unreachable => false
  | .response _ none => false
  | .response code (some payload) =>
      !isOk code &&
        match (payload.get? "error").bind fun error => error.get? "status" with
        | some (.str status) => PushService.deadTokenErrors.contains status
        | _ => false

/-- The error of a reply has a `message` that no text can be made of. -/
def Unprintable : FcmReply → Prop
  | .response _ (some payload) =>
      ∃ error message, payload.get? "error" = some error ∧ error.get? "message" = some message ∧
        message.hasText = false
  | _ => False

section

variable (messages : List PushMessage) (replies : Nat → FcmReply)

/-- One step of a send, each request answered as the place of its message says. -/
def Step : Sending → Sending → Prop :=
  Rounds.Step PushService.concurrency messages.zipIdx fun sent => sendOne sent.1 (replies sent.2)

def Runs : Sending → Sending → Prop :=
  Rounds.Runs PushService.concurrency messages.zipIdx fun sent => sendOne sent.1 (replies sent.2)

end

section

variable {message : PushMessage} {reply : FcmReply} {code : Nat} {payload : Option Js.Json}

/-- A code is written in digits, and no dead-token error is. -/
theorem code_not_dead (code : Nat) : toString code ∉ PushService.deadTokenErrors := by
  intro dead
  have worded : (PushService.deadTokenErrors.all fun error =>
      error.toList.any fun c => !c.isDigit) = true := by decide
  obtain ⟨c, member, letter⟩ := List.any_eq_true.mp (List.all_eq_true.mp worded _ dead)
  have written : c ∈ Nat.toDigits 10 code := by
    rw [← Nat.toList_repr]
    exact member
  have digit := Nat.isDigit_of_mem_toDigits (by decide) (by decide) written
  rw [digit] at letter
  cases letter

theorem any_str (text : String) :
    PushService.deadTokenErrors.any (Js.Json.str text == .str ·) =
      PushService.deadTokenErrors.contains text := by
  rw [List.contains_eq_any_beq]
  congr 1
  funext error
  rw [Bool.eq_iff_iff, beq_iff_eq, beq_iff_eq, Js.Json.str.injEq]

theorem any_not_str {value : Js.Json} (other : ∀ text, value ≠ .str text) :
    PushService.deadTokenErrors.any (value == .str ·) = false :=
  List.any_eq_false.mpr fun error _ same => other error (beq_iff_eq.mp same)

theorem contains_code (code : Nat) :
    PushService.deadTokenErrors.contains (toString code) = false := by
  rw [List.contains_eq_mem, decide_eq_false (code_not_dead code)]

theorem any_code (code : Nat) :
    PushService.deadTokenErrors.any (Js.Json.str (toString code) == .str ·) = false := by
  rw [any_str, contains_code]

/-- A status the body does not name is the code, which is never a dead-token error. -/
theorem any_statusOf (failed : isOk code = false) :
    PushService.deadTokenErrors.any (statusOf code payload == .str ·) =
      namesDead (.response code payload) := by
  cases payload with
  | none => exact any_code code
  | some body =>
      rw [namesDead, failed, Bool.not_false, Bool.true_and]
      cases named : (body.get? "error").bind fun error => error.get? "status" with
      | none => rw [statusOf, errorField, Option.bind_some, named, any_code]
      | some status =>
          rw [statusOf, errorField, Option.bind_some, named]
          cases status with
          | null => exact any_code code
          | str text => exact any_str text
          | bool value => exact any_not_str fun _ => Js.Json.noConfusion
          | num value => exact any_not_str fun _ => Js.Json.noConfusion
          | arr items => exact any_not_str fun _ => Js.Json.noConfusion
          | obj fields => exact any_not_str fun _ => Js.Json.noConfusion

theorem namesDead_delivered (delivered : isOk code = true) :
    namesDead (.response code payload) = false := by
  cases payload with
  | none => rfl
  | some body => rw [namesDead, delivered, Bool.not_true, Bool.false_and]

theorem namesDead_iff {body : Js.Json} : namesDead (.response code (some body)) = true ↔
    isOk code = false ∧ ∃ error status, body.get? "error" = some error ∧
      error.get? "status" = some (.str status) ∧ status ∈ PushService.deadTokenErrors := by
  rw [namesDead, Bool.and_eq_true, Bool.not_eq_true']
  refine and_congr_right fun _ => ?_
  constructor
  · intro dead
    split at dead
    · rename_i status named
      obtain ⟨error, held, stated⟩ := Option.bind_eq_some_iff.mp named
      rw [List.contains_eq_mem, decide_eq_true_eq] at dead
      exact ⟨error, status, held, stated, dead⟩
    · cases dead
  · rintro ⟨error, status, held, stated, dead⟩
    rw [held, Option.bind_some, stated]
    exact List.contains_iff_mem.mpr dead

theorem truthy_of_no_text {value : Js.Json} (unprintable : value.hasText = false) :
    value.truthy = true := by
  cases value with
  | obj fields => rfl
  | arr items => rfl
  | null | bool _ | num _ | str _ => cases unprintable

/-- The rejection of a dead token is reported unless its error is one that cannot be printed. -/
theorem logs_iff_of_dead (dead : namesDead (.response code payload) = true) :
    logs code payload = true ↔ ¬ Unprintable (.response code payload) := by
  cases payload with
  | none => cases dead
  | some body =>
      obtain ⟨-, error, status, held, stated, -⟩ := namesDead_iff.mp dead
      have named : statusOf code (some body) = .str status := by
        rw [statusOf, errorField, Option.bind_some, held, Option.bind_some, stated]
      rw [logs, named, Js.Json.hasText, Bool.true_and, errorField, Option.bind_some, held,
        Option.bind_some, Option.all_eq_true]
      constructor
      · rintro printable ⟨_, message, same, written, unprintable⟩
        obtain rfl := Option.some.inj (held.symm.trans same)
        have shown := printable message written
        rw [truthy_of_no_text unprintable, unprintable] at shown
        cases shown
      · intro printable message written
        cases texted : message.hasText with
        | true => rw [Bool.or_true]
        | false => exact absurd ⟨error, message, held, written, texted⟩ printable

/-- Whether a reply leads to the token being retired. -/
def retires : FcmReply → Bool
  | .unreachable => false
  | .response code payload => namesDead (.response code payload) && logs code payload

/-- An attempt never throws. -/
theorem sendOne_eq (message : PushMessage) (reply : FcmReply) :
    sendOne message reply = .ok (if retires reply then some message.token else none) := by
  cases reply with
  | unreachable => rfl
  | response code payload =>
      cases delivered : isOk code with
      | true =>
          rw [sendOne, attempt, if_pos delivered, retires, namesDead_delivered delivered]
          rfl
      | false =>
          rw [sendOne, attempt, if_neg (Bool.eq_false_iff.mp delivered), retires,
            any_statusOf delivered]
          cases logs code payload with
          | true =>
              rw [Bool.and_true]
              rfl
          | false =>
              rw [Bool.and_false]
              rfl

theorem namesDead_of_retires {reply : FcmReply} (retired : retires reply = true) :
    namesDead reply = true := by
  cases reply with
  | unreachable => cases retired
  | response code payload => exact (Bool.and_eq_true_iff.mp retired).1

theorem retires_iff {reply : FcmReply} :
    retires reply = true ↔ namesDead reply = true ∧ ¬ Unprintable reply := by
  cases reply with
  | unreachable => simp only [retires, namesDead, Bool.false_eq_true, false_and]
  | response code payload =>
      rw [retires, Bool.and_eq_true]
      exact and_congr_right logs_iff_of_dead

end

section

variable {transport : PushTransport} {access : Option FcmAccess} {messages : List PushMessage}
  {replies : Nat → FcmReply} {sending : Sending}

/-- The token a message leads to being retired, by the reply at its place. -/
def outcome (replies : Nat → FcmReply) (sent : PushMessage × Nat) : Option String :=
  if retires (replies sent.2) then some sent.1.token else none

theorem send_fcm (opened : FcmAccess) :
    (send .fcm (some opened) messages).Sound PushService.concurrency messages.zipIdx
      (outcome replies) := by
  unfold send
  cases messages with
  | nil => exact Rounds.sound_ended.mpr ⟨rfl, rfl⟩
  | cons message rest => exact Rounds.initial_sound

theorem runs_send {opened : FcmAccess}
    (runs : Runs messages replies (send .fcm (some opened) messages) sending) :
    sending.Sound PushService.concurrency messages.zipIdx (outcome replies) :=
  Rounds.runs_sound (fun sent => sendOne_eq sent.1 (replies sent.2)) (send_fcm opened) runs

/-- What a send asks of FCM and returns, however its requests are timed. -/
theorem ended_send {opened : FcmAccess} {result : Except Fault (List String)}
    (runs : Runs messages replies (send .fcm (some opened) messages) sending)
    (ended : sending.stage = .ended result) :
    sending.started = messages.zipIdx ∧
      result = .ok (messages.zipIdx.filterMap (outcome replies)) :=
  Rounds.ended_eq_loop (fun sent => sendOne_eq sent.1 (replies sent.2)) (send_fcm opened) runs ended

theorem requests_of_started {opened : FcmAccess} (begun : sending.started = messages.zipIdx) :
    requests opened sending = messages.map (PushService.requestFor opened) := by
  have messages' : messages.zipIdx.map Prod.fst = messages := List.zipIdx_map_fst 0 messages
  rw [requests, begun]
  calc messages.zipIdx.map (fun sent => PushService.requestFor opened sent.1)
      = (messages.zipIdx.map Prod.fst).map (PushService.requestFor opened) := by
        rw [List.map_map]
        rfl
    _ = messages.map (PushService.requestFor opened) := by rw [messages']

/-- The tokens of the messages whose reply calls the token dead, in the order of the messages. -/
def deadTokens (messages : List PushMessage) (replies : Nat → FcmReply) : List String :=
  (messages.zipIdx.filter fun sent => namesDead (replies sent.2)).map fun sent => sent.1.token

theorem outcomes_eq_retired : messages.zipIdx.filterMap (outcome replies) =
    (messages.zipIdx.filter fun sent => retires (replies sent.2)).map fun sent => sent.1.token := by
  rw [← List.filterMap_eq_map', List.filterMap_filter]
  rfl

/-- No reply has the token of another message retired, and none a token it does not call dead. -/
theorem outcomes_sublist :
    (messages.zipIdx.filterMap (outcome replies)).Sublist (deadTokens messages replies) := by
  rw [outcomes_eq_retired, deadTokens]
  exact (List.monotone_filter_right _ fun _ => namesDead_of_retires).map _

/-- Every dead token is retired exactly when the reply of each can be reported. -/
theorem outcomes_eq_iff :
    messages.zipIdx.filterMap (outcome replies) = deadTokens messages replies ↔
      ∀ place < messages.length, namesDead (replies place) = true →
        ¬ Unprintable (replies place) := by
  rw [outcomes_eq_retired, deadTokens]
  constructor
  · intro same place inside dead
    have kept : (messages.zipIdx.filter fun sent => retires (replies sent.2)).Sublist
        (messages.zipIdx.filter fun sent => namesDead (replies sent.2)) :=
      List.monotone_filter_right _ fun _ => namesDead_of_retires
    have lengths := congrArg List.length same
    rw [List.length_map, List.length_map] at lengths
    have member : (messages[place], place) ∈
        messages.zipIdx.filter fun sent => namesDead (replies sent.2) :=
      List.mem_filter.mpr ⟨List.mk_mem_zipIdx_iff_getElem?.mpr (List.getElem?_eq_getElem inside),
        dead⟩
    rw [← kept.eq_of_length lengths] at member
    exact (retires_iff.mp (List.mem_filter.mp member).2).2
  · intro reported
    congr 1
    apply List.filter_congr
    rintro ⟨message, place⟩ member
    have placed : messages[place]? = some message := List.mk_mem_zipIdx_iff_getElem?.mp member
    obtain ⟨inside, -⟩ := List.getElem?_eq_some_iff.mp placed
    rw [Bool.eq_iff_iff, retires_iff]
    exact and_iff_left_of_imp (reported place inside)

/-- The status a body names, where it is a text. -/
def statusNamed (payload : Option Js.Json) : Option String :=
  match errorField payload "status" with
  | some (.str status) => some status
  | _ => none

/-- What is left of a reply for the loop of single answers. -/
def toAnswer : FcmReply → FcmAnswer
  | .unreachable => .unreachable
  | .response code payload =>
      if isOk code then .delivered
      else if logs code payload then .rejected code (statusNamed payload)
      else .unreachable

theorem contains_statusNamed {code : Nat} (failed : isOk code = false)
    (payload : Option Js.Json) :
    PushService.deadTokenErrors.contains ((statusNamed payload).getD (toString code)) =
      namesDead (.response code payload) := by
  cases payload with
  | none => exact contains_code code
  | some body =>
      rw [namesDead, failed, Bool.not_false, Bool.true_and, statusNamed, errorField,
        Option.bind_some]
      split
      · rw [Option.getD_some]
      · exact contains_code code

theorem sendOne_toAnswer {answer : FcmRequest → FcmAnswer} {opened : FcmAccess}
    {message : PushMessage} {reply : FcmReply}
    (answers : answer (PushService.requestFor opened message) = toAnswer reply) :
    PushService.sendOne answer opened message =
      if retires reply then some message.token else none := by
  rw [PushService.sendOne, answers]
  cases reply with
  | unreachable => rfl
  | response code payload =>
      cases delivered : isOk code with
      | true =>
          rw [toAnswer, if_pos delivered, retires, namesDead_delivered delivered]
          rfl
      | false =>
          rw [toAnswer, if_neg (Bool.eq_false_iff.mp delivered), retires]
          cases logs code payload with
          | true =>
              rw [if_pos rfl, Bool.and_true, ← contains_statusNamed delivered]
          | false =>
              rw [Bool.and_false]
              rfl

/-- Rounds of requests sent side by side retire what the loop of single answers does. -/
theorem ended_eq_send {outside : PushOutside} {result : Except Fault (List String)}
    (answers : ∀ sent ∈ messages.zipIdx, ∀ opened ∈ outside.access,
      outside.answer (PushService.requestFor opened sent.1) = toAnswer (replies sent.2))
    (runs : Runs messages replies (send outside.transport outside.access messages) sending)
    (ended : sending.stage = .ended result) :
    result = .ok (PushService.send outside messages) := by
  have returned (silent : outside.transport = .log ∨ outside.access = none)
      (before : send outside.transport outside.access messages = finished) :
      result = .ok (PushService.send outside messages) := by
    rw [before] at runs
    rw [Rounds.runs_ended rfl runs] at ended
    rw [PushService.send_silent silent]
    exact (Rounds.Stage.ended.inj ended).symm
  cases asked : outside.transport with
  | log =>
      refine returned (.inl asked) ?_
      rw [asked, send, ite_self]
  | fcm =>
      cases unlocked : outside.access with
      | none =>
          refine returned (.inr unlocked) ?_
          rw [asked, unlocked, send, ite_self]
      | some opened =>
          rw [asked, unlocked] at runs
          obtain ⟨-, rfl⟩ := ended_send runs ended
          rw [PushService.send_eq_filterMap asked unlocked]
          have singly : messages = messages.zipIdx.map Prod.fst :=
            (List.zipIdx_map_fst 0 messages).symm
          nth_rewrite 2 [singly]
          rw [List.filterMap_map]
          congr 1
          apply List.filterMap_congr
          intro sent member
          exact (sendOne_toAnswer (answers sent member opened unlocked)).symm

/-- A send with the credentials at hand makes one request for each message, in their order, and
comes to an end whatever the requests come to. It does not throw, and no reply has the token of
another message retired, or one that it does not call dead. -/
theorem send_attempts_all (opened : FcmAccess) (messages : List PushMessage)
    (replies : Nat → FcmReply) :
    (∀ sending, Runs messages replies (send .fcm (some opened) messages) sending →
      sending.started <+: messages.zipIdx ∧
        (∀ result, sending.stage = .ended result →
          sending.started = messages.zipIdx ∧
            requests opened sending = messages.map (PushService.requestFor opened) ∧
            ∃ tokens, result = .ok tokens ∧ tokens.Sublist (deadTokens messages replies)) ∧
        ((∀ next, ¬ Step messages replies sending next) →
          ∃ result, sending.stage = .ended result)) ∧
      ∀ states : Nat → Sending, ¬ ∀ n, Step messages replies (states n) (states (n + 1)) := by
  refine ⟨fun sending runs => ⟨?_, ?_, ?_⟩, ?_⟩
  · exact (runs_send runs).started_in_order
  · intro result ended
    obtain ⟨begun, given⟩ := ended_send runs ended
    exact ⟨begun, requests_of_started begun, _, given, outcomes_sublist⟩
  · exact Rounds.stuck_ended
  · exact Rounds.no_endless_run (by decide)

/-- A send that is the plain loop: however its requests are timed it attempts each message once and
in order, ends, does not throw, and returns the tokens of the messages whose own reply names a
dead-token error. -/
structure PlainLoop (opened : FcmAccess) (messages : List PushMessage) (replies : Nat → FcmReply) :
    Prop where
  attempts : ∀ sending, Runs messages replies (send .fcm (some opened) messages) sending →
    sending.started <+: messages.zipIdx
  returns : ∀ sending, Runs messages replies (send .fcm (some opened) messages) sending →
    ∀ result, sending.stage = .ended result → sending.started = messages.zipIdx ∧
      requests opened sending = messages.map (PushService.requestFor opened) ∧
      result = .ok (deadTokens messages replies)
  goesOn : ∀ sending, Runs messages replies (send .fcm (some opened) messages) sending →
    (∀ next, ¬ Step messages replies sending next) → ∃ result, sending.stage = .ended result
  ends : ∀ states : Nat → Sending, ¬ ∀ n, Step messages replies (states n) (states (n + 1))

/-- A send is the plain loop exactly when no reply that names a dead-token error has a `message` the
report of it cannot be made of. -/
theorem send_eq_loop (opened : FcmAccess) (messages : List PushMessage)
    (replies : Nat → FcmReply) :
    PlainLoop opened messages replies ↔
      ∀ place < messages.length, namesDead (replies place) = true →
        ¬ Unprintable (replies place) := by
  obtain ⟨every, ends⟩ := send_attempts_all opened messages replies
  rw [← outcomes_eq_iff]
  constructor
  · intro plain
    obtain ⟨last, result, runs, ended⟩ : ∃ last result,
        Runs messages replies (send .fcm (some opened) messages) last ∧
          last.stage = .ended result := Rounds.exists_ended (by decide) _
    obtain ⟨-, given⟩ := ended_send runs ended
    exact Except.ok.inj (given.symm.trans (plain.returns last runs result ended).2.2)
  · intro retired
    refine ⟨fun sending runs => (every sending runs).1, fun sending runs result ended => ?_,
      fun sending runs => (every sending runs).2.2, ends⟩
    obtain ⟨begun, asked, -⟩ := (every sending runs).2.1 result ended
    exact ⟨begun, asked, retired ▸ (ended_send runs ended).2⟩

end

/-- FCM's answer for a token it no longer knows. -/
def notRegistered : FcmReply :=
  .response 404 (some (.obj [("error", .obj [("status", .str "NOT_FOUND"),
    ("message", .str "NotRegistered")])]))

theorem notRegistered_printable : ¬ Unprintable notRegistered := by
  rintro ⟨error, message, held, written, unprintable⟩
  cases held
  cases written
  cases unprintable

/-- The same token twice, and FCM out of reach for the second message. -/
def lessonPushes : List PushMessage :=
  [⟨"fox-phone", "Lesson", "Algebra at ten", [], none⟩,
    ⟨"owl-phone", "Lesson", "Algebra at ten", [], none⟩,
    ⟨"fox-phone", "Lesson", "Geometry at noon", [], none⟩]

def lessonReplies (place : Nat) : FcmReply := if place = 1 then .unreachable else notRegistered

theorem send_eq_loop_lessons :
    deadTokens lessonPushes lessonReplies = ["fox-phone", "fox-phone"] ∧
      PlainLoop ⟨"tutor", "key"⟩ lessonPushes lessonReplies := by
  refine ⟨by decide, (send_eq_loop ⟨"tutor", "key"⟩ lessonPushes lessonReplies).mpr ?_⟩
  intro place _ dead
  unfold lessonReplies at dead ⊢
  split at dead
  · cases dead
  · rename_i other
    rw [if_neg other]
    exact notRegistered_printable

/-- The same answer with a `message` that has a `toString` of its own. -/
def notRegisteredAtAll : FcmReply :=
  .response 404 (some (.obj [("error", .obj [("status", .str "NOT_FOUND"),
    ("message", .obj [("toString", .str "NotRegistered")])])]))

/-- The report of the rejection throws, and the token that FCM calls dead is kept. -/
theorem unprintable_rejection_keeps_token :
    deadTokens [⟨"fox-phone", "Lesson", "Algebra at ten", [], none⟩] (fun _ => notRegisteredAtAll) =
      ["fox-phone"] ∧
    (∃ last, Runs [⟨"fox-phone", "Lesson", "Algebra at ten", [], none⟩]
        (fun _ => notRegisteredAtAll) (send .fcm (some ⟨"tutor", "key"⟩)
          [⟨"fox-phone", "Lesson", "Algebra at ten", [], none⟩]) last ∧
      last.stage = .ended (.ok [])) ∧
    ¬ PlainLoop ⟨"tutor", "key"⟩ [⟨"fox-phone", "Lesson", "Algebra at ten", [], none⟩]
      (fun _ => notRegisteredAtAll) := by
  obtain ⟨last, result, runs, ended⟩ : ∃ last result,
      Runs [⟨"fox-phone", "Lesson", "Algebra at ten", [], none⟩] (fun _ => notRegisteredAtAll)
        (send .fcm (some ⟨"tutor", "key"⟩)
          [⟨"fox-phone", "Lesson", "Algebra at ten", [], none⟩]) last ∧
        last.stage = .ended result := Rounds.exists_ended (by decide) _
  obtain rfl : result = .ok [] := (ended_send runs ended).2
  refine ⟨by decide, ⟨last, runs, ended⟩, fun plain => ?_⟩
  have kept := (plain.returns last runs _ ended).2.2
  cases kept

end PushDelivery

end TutorApp
