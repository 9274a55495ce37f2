import TutorApp.Devices
import TutorApp.Possession
import TutorApp.System

set_option autoImplicit false

namespace TutorApp

open Relational
open Js (Instant)

/-- The service, and beside its tables the registered devices. -/
structure PushWorld where
  world : World
  tokens : Table PushToken

structure AnnounceResult where
  recipients : Nat
  devices : Int
  deriving Repr, DecidableEq

/-- What a push leaves: the devices it reckons with, the tokens left, and what it handed over and
took back on the way. -/
structure PushRound where
  devices : Int
  tokens : Table PushToken
  handed : List PushMessage
  retired : List String

/-- What an announcement comes to. -/
structure Announced where
  result : Service AnnounceResult
  after : PushWorld
  handed : List PushMessage
  retired : List String

namespace NotificationsService

/-- `ANNOUNCEMENT_CHANNEL_ID`. -/
def announcementChannelId : String := "announcements"

def announcementFor (title body : String) (device : PushToken) : PushMessage :=
  ⟨device.token, title, body, [("kind", "ADMIN_ANNOUNCEMENT")], some announcementChannelId⟩

/-- Whatever is thrown on the way is caught, and no device is reckoned with. -/
def pushAnnouncement (outside : PushOutside) (recipientIds : List Id) (schoolName text : String)
    (tokens : Table PushToken) : PushRound :=
  match DevicesService.tokensFor outside.readsTokens recipientIds tokens with
  | .error _ => ⟨0, tokens, [], []⟩
  | .ok devices =>
      if devices.isEmpty then ⟨0, tokens, [], []⟩
      else
        let messages := devices.map (announcementFor schoolName text)
        let dead := PushService.send outside messages
        match DevicesService.retire outside.dropsTokens dead tokens with
        | .error _ => ⟨0, tokens, messages, []⟩
        | .ok left => ⟨devices.length - dead.length, left, messages, dead⟩

/-- A row for everybody in the school, and then a push. -/
def announce (sender : User) (text : String) (now : Instant) (outside : PushOutside)
    (before : PushWorld) : Announced :=
  let db := before.world.db
  let recipients := db.users.select fun row => row.schoolId == sender.schoolId
  let school := db.schools.find sender.schoolId
  let trimmed := Js.trim text
  let stored := db.createNotifications (recipients.map fun recipient =>
    ⟨.adminAnnouncement, sender.name, some trimmed, recipient.id, now⟩)
  let round := pushAnnouncement outside (recipients.map User.id)
    ((school.map School.name).getD sender.name) trimmed before.tokens
  { result := .ok ⟨recipients.length, round.devices⟩
    after := ⟨{ before.world with db := stored }, round.tokens⟩
    handed := round.handed
    retired := round.retired }

end NotificationsService

/-- What one call of a run did to the devices. -/
inductive DeviceEvent where
  | requested
  | registered (userId : Id) (token : String)
  | unregistered (userId : Id) (token : String)
  | retired (tokens : List String)
  | announced (senderId : Id) (retired : List String)

namespace DeviceEvent

/-- Whom an event registers a token to. -/
def registers : DeviceEvent → String → Option Id
  | registered userId known, token => if known = token then some userId else none
  | _, _ => none

/-- Whether an event takes a token away from its holder. -/
def releases : DeviceEvent → String → Id → Prop
  | unregistered userId known, token, holder => token = known ∧ holder = userId
  | retired tokens, token, _ => token ∈ tokens
  | announced _ tokens, token, _ => token ∈ tokens
  | _, _, _ => False

def rules : Possession.Rules DeviceEvent String Id := ⟨registers, releases⟩

end DeviceEvent

/-- One call: a request to the rest of the service, or one to the devices. -/
inductive DeviceStep (platform : Platform) (before : PushWorld) : DeviceEvent → PushWorld → Prop where
  | request (outside : Outside) (request : Request) : DeviceStep platform before .requested
      { before with world := (request.serve platform outside before.world).world }
  | register {user : User} {userId : Id} (token : String) (device : DevicePlatform) (now : Instant)
      (found : before.world.db.users.find userId = some user) :
      DeviceStep platform before (.registered userId token)
        { before with tokens := DevicesService.register user token device now before.tokens }
  | unregister {user : User} {userId : Id} (token : String)
      (found : before.world.db.users.find userId = some user) :
      DeviceStep platform before (.unregistered userId token)
        { before with tokens := DevicesService.unregister user token before.tokens }
  | retire {dead : List String} {left : Table PushToken} (reached : Bool)
      (done : DevicesService.retire reached dead before.tokens = .ok left) :
      DeviceStep platform before (.retired dead) { before with tokens := left }
  | announce {sender : User} {senderId : Id} (text : String) (now : Instant) (outside : PushOutside)
      (found : before.world.db.users.find senderId = some sender) :
      DeviceStep platform before
        (.announced senderId
          (NotificationsService.announce sender text now outside before).retired)
        (NotificationsService.announce sender text now outside before).after

inductive DeviceRun (platform : Platform) (start : PushWorld) :
    List DeviceEvent → PushWorld → Prop where
  | start : DeviceRun platform start [] start
  | next {history : List DeviceEvent} {before after : PushWorld} {event : DeviceEvent}
      (run : DeviceRun platform start history before)
      (step : DeviceStep platform before event after) :
      DeviceRun platform start (history ++ [event]) after

section

variable {platform : Platform} {outside : PushOutside} {tokens : Table PushToken}
  {recipientIds : List Id} {schoolName text : String} {start before after : PushWorld}
  {history : List DeviceEvent} {event : DeviceEvent}

theorem DevicesService.mem_tokensFor {reached : Bool} {devices : List PushToken}
    (done : tokensFor reached recipientIds tokens = .ok devices) {device : PushToken} :
    device ∈ devices ↔ device ∈ tokens.rows ∧ device.userId ∈ recipientIds := by
  unfold tokensFor at done
  split at done
  · rename_i nobody
    obtain rfl := Except.ok.inj done
    rw [List.isEmpty_iff.mp nobody]
    simp only [List.not_mem_nil, and_false]
  · simp only [bind_ok, pure_ok] at done
    obtain ⟨_, -, rfl⟩ := done
    simp only [Table.mem_select, List.contains_eq_mem, decide_eq_true_eq]

theorem DevicesService.nodup_tokensFor {reached : Bool} {devices : List PushToken}
    (done : tokensFor reached recipientIds tokens = .ok devices) :
    (devices.map PushToken.token).Nodup := by
  unfold tokensFor at done
  split at done
  · obtain rfl := Except.ok.inj done
    exact List.nodup_nil
  · simp only [bind_ok, pure_ok] at done
    obtain ⟨_, -, rfl⟩ := done
    exact tokens.unique.sublist (List.filter_sublist.map _)

theorem DevicesService.tokensFor_error {reached : Bool} {reason : HttpError}
    (failed : tokensFor reached recipientIds tokens = .error reason) : reached = false := by
  unfold tokensFor at failed
  split at failed
  · cases failed
  · cases reached with
    | false => rfl
    | true => cases failed

theorem DevicesService.tokensFor_reached {reached : Bool} {devices : List PushToken}
    (done : tokensFor reached recipientIds tokens = .ok devices) (some : devices ≠ []) :
    reached = true := by
  unfold tokensFor at done
  split at done
  · exact absurd (Except.ok.inj done).symm some
  · simp only [bind_ok, require_ok] at done
    obtain ⟨_, reads, -⟩ := done
    exact reads

theorem announcementFor_tokens (devices : List PushToken) :
    (devices.map (NotificationsService.announcementFor schoolName text)).map PushMessage.token =
      devices.map PushToken.token := by
  rw [List.map_map]
  rfl

/-- What holds of every push, whichever of its calls fail. -/
structure PushRound.Sound (round : PushRound) (outside : PushOutside) (recipientIds : List Id)
    (tokens : Table PushToken) : Prop where
  handed : ∀ token, token ∈ round.handed.map PushMessage.token ↔ outside.readsTokens = true ∧
    ∃ userId ∈ recipientIds, holderOf tokens token = some userId
  once : (round.handed.map PushMessage.token).Nodup
  left : ∀ token userId, holderOf round.tokens token = some userId ↔
    holderOf tokens token = some userId ∧ token ∉ round.retired
  dead : ∀ token ∈ round.retired, ∃ message ∈ round.handed, message.token = token ∧
    PushService.CallsDead outside message

theorem holderOf_eq_some {token : String} {userId : Id} :
    holderOf tokens token = some userId ↔
      ∃ device ∈ tokens.rows, device.token = token ∧ device.userId = userId := by
  rw [holderOf, Option.map_eq_some_iff]
  constructor
  · rintro ⟨device, found, held⟩
    obtain ⟨member, named⟩ := Table.find_eq_some.mp found
    exact ⟨device, member, named, held⟩
  · rintro ⟨device, member, named, held⟩
    exact ⟨device, Table.find_eq_some.mpr ⟨member, named⟩, held⟩

/-- Nothing is handed over when there is nobody to hand it to. -/
theorem PushRound.sound_idle (nobody : outside.readsTokens = true →
      ∀ device ∈ tokens.rows, device.userId ∉ recipientIds) :
    (⟨0, tokens, [], []⟩ : PushRound).Sound outside recipientIds tokens where
  handed token := by
    refine ⟨fun member => absurd member List.not_mem_nil, ?_⟩
    rintro ⟨reads, userId, asked, held⟩
    obtain ⟨device, member, -, rfl⟩ := holderOf_eq_some.mp held
    exact absurd asked (nobody reads device member)
  once := List.nodup_nil
  left token userId := by simp only [List.not_mem_nil, not_false_eq_true, and_true]
  dead token member := absurd member List.not_mem_nil

/-- Where devices were found, all of them are handed over. -/
theorem PushRound.sound_sent {devices : List PushToken} {left : Table PushToken} {count : Int}
    {retired : List String}
    (found : DevicesService.tokensFor outside.readsTokens recipientIds tokens = .ok devices)
    (some : devices ≠ [])
    (kept : ∀ token userId, holderOf left token = .some userId ↔
      holderOf tokens token = .some userId ∧ token ∉ retired)
    (dead : ∀ token ∈ retired,
      ∃ message ∈ devices.map (NotificationsService.announcementFor schoolName text),
        message.token = token ∧ PushService.CallsDead outside message) :
    (⟨count, left, devices.map (NotificationsService.announcementFor schoolName text),
      retired⟩ : PushRound).Sound outside recipientIds tokens where
  handed token := by
    rw [announcementFor_tokens, List.mem_map]
    constructor
    · rintro ⟨device, listed, rfl⟩
      obtain ⟨member, asked⟩ := (DevicesService.mem_tokensFor found).mp listed
      refine ⟨DevicesService.tokensFor_reached found some, device.userId, asked, ?_⟩
      exact holderOf_eq_some.mpr ⟨device, member, rfl, rfl⟩
    · rintro ⟨-, userId, asked, held⟩
      obtain ⟨device, member, rfl, rfl⟩ := holderOf_eq_some.mp held
      exact ⟨device, (DevicesService.mem_tokensFor found).mpr ⟨member, asked⟩, rfl⟩
  once := by
    rw [announcementFor_tokens]
    exact DevicesService.nodup_tokensFor found
  left := kept
  dead := dead

theorem pushAnnouncement_sound :
    (NotificationsService.pushAnnouncement outside recipientIds schoolName text tokens).Sound outside
      recipientIds tokens := by
  unfold NotificationsService.pushAnnouncement
  split
  · rename_i failed
    apply PushRound.sound_idle
    intro reads
    rw [DevicesService.tokensFor_error failed] at reads
    cases reads
  · rename_i devices found
    split
    · rename_i none
      apply PushRound.sound_idle
      intro _ device member asked
      have listed := (DevicesService.mem_tokensFor found).mpr ⟨member, asked⟩
      rw [List.isEmpty_iff.mp none] at listed
      exact absurd listed List.not_mem_nil
    · rename_i some
      have listed : devices ≠ [] := fun none => some (List.isEmpty_iff.mpr none)
      dsimp only
      split
      · apply PushRound.sound_sent found listed
        · intro token userId
          simp only [List.not_mem_nil, not_false_eq_true, and_true]
        · exact fun token member => absurd member List.not_mem_nil
      · rename_i left retired
        apply PushRound.sound_sent found listed
        · exact fun token userId => holderOf_retire retired
        · exact fun token member => PushService.mem_send.mp member

theorem DeviceStep.moves (step : DeviceStep platform before event after) :
    DeviceEvent.rules.Moves event (holderOf before.tokens) (holderOf after.tokens) := by
  intro token holder
  cases step with
  | request outside request =>
      simp only [DeviceEvent.rules, DeviceEvent.registers, DeviceEvent.releases, reduceCtorEq,
        not_false_eq_true, and_true, true_and, false_or]
  | @register user userId known device now found =>
      have caller : user.id = userId := (Table.find_eq_some.mp found).2
      dsimp only [DeviceEvent.rules, DeviceEvent.registers, DeviceEvent.releases]
      rw [holderOf_register, caller]
      by_cases same : known = token
      · simp only [if_pos same, reduceCtorEq, false_and, or_false]
      · simp only [if_neg same, reduceCtorEq, not_false_eq_true, and_true, true_and, false_or]
  | @unregister user userId known found =>
      have caller : user.id = userId := (Table.find_eq_some.mp found).2
      dsimp only [DeviceEvent.rules, DeviceEvent.registers, DeviceEvent.releases]
      rw [holderOf_unregister, caller]
      simp only [reduceCtorEq, true_and, false_or]
  | retire reached done =>
      dsimp only [DeviceEvent.rules, DeviceEvent.registers, DeviceEvent.releases]
      rw [holderOf_retire done]
      simp only [reduceCtorEq, true_and, false_or]
  | announce text now outside found =>
      dsimp only [DeviceEvent.rules, DeviceEvent.registers, DeviceEvent.releases]
      simp only [reduceCtorEq, true_and, false_or]
      exact pushAnnouncement_sound.left token holder

theorem DeviceRun.held (run : DeviceRun platform start history after) (fresh : start.tokens = .empty)
    (token : String) (holder : Id) : holderOf after.tokens token = some holder ↔
      DeviceEvent.rules.Held history token holder := by
  induction run generalizing token holder with
  | start =>
      rw [fresh, holderOf_empty]
      exact ⟨fun none => (by cases none), fun held => absurd held Possession.Rules.not_held_nil⟩
  | next _ step ih => exact step.moves.held ih token holder

/-- A row for each member of the sender's school, and a push to each device that is a member's. -/
structure Announced.Reaches (outcome : Announced) (history : List DeviceEvent) (before : PushWorld)
    (sender : User) (text : String) (outside : PushOutside) : Prop where
  succeeds : ∃ answer, outcome.result = .ok answer
  rows : ∃ rows,
    outcome.after.world = { before.world with db := before.world.db.createNotifications rows } ∧
    (rows.map Notification.recipientId).Nodup ∧
    (∀ id, id ∈ rows.map Notification.recipientId ↔
      ∃ user ∈ before.world.db.users.rows, user.id = id ∧ user.schoolId = sender.schoolId) ∧
    ∀ row ∈ rows, row.kind = .adminAnnouncement ∧ row.personName = sender.name ∧
      row.text = some (Js.trim text)
  devices : ∀ token, token ∈ outcome.handed.map PushMessage.token ↔ outside.readsTokens = true ∧
    ∃ user ∈ before.world.db.users.rows, user.schoolId = sender.schoolId ∧
      DeviceEvent.rules.Held history token user.id
  once : (outcome.handed.map PushMessage.token).Nodup
  home : ∀ token ∈ outcome.handed.map PushMessage.token, ∀ holder later,
    DeviceEvent.rules.GivenLast history token holder later →
      ∃ user ∈ before.world.db.users.rows, user.id = holder ∧ user.schoolId = sender.schoolId
  retired : ∀ token ∈ outcome.retired, ∃ message ∈ outcome.handed, message.token = token ∧
    PushService.CallsDead outside message

theorem mem_recipients {db : Db} {schoolId id : Id} :
    id ∈ (db.users.select fun row => row.schoolId == schoolId).map User.id ↔
      ∃ user ∈ db.users.rows, user.id = id ∧ user.schoolId = schoolId := by
  simp only [List.mem_map, Table.mem_select, beq_iff_eq]
  constructor
  · rintro ⟨user, ⟨member, home⟩, named⟩
    exact ⟨user, member, named, home⟩
  · rintro ⟨user, member, named, home⟩
    exact ⟨user, ⟨member, home⟩, named⟩

theorem announcement_reaches_school {sender : User} (fresh : start.tokens = .empty)
    (run : DeviceRun platform start history before) (text : String) (now : Instant)
    (outside : PushOutside) : (NotificationsService.announce sender text now outside before).Reaches
      history before sender text outside := by
  have sound := @pushAnnouncement_sound outside before.tokens
    ((before.world.db.users.select fun row => row.schoolId == sender.schoolId).map User.id)
    (((before.world.db.schools.find sender.schoolId).map School.name).getD sender.name)
    (Js.trim text)
  have devices (token : String) : token ∈ (NotificationsService.announce sender text now outside
      before).handed.map PushMessage.token ↔ outside.readsTokens = true ∧
        ∃ user ∈ before.world.db.users.rows, user.schoolId = sender.schoolId ∧
          DeviceEvent.rules.Held history token user.id := by
    refine (sound.handed token).trans (and_congr_right fun _ => ?_)
    simp only [mem_recipients, run.held fresh]
    constructor
    · rintro ⟨_, ⟨user, member, rfl, home⟩, held⟩
      exact ⟨user, member, home, held⟩
    · rintro ⟨user, member, home, held⟩
      exact ⟨user.id, ⟨user, member, rfl, home⟩, held⟩
  constructor
  · exact ⟨_, rfl⟩
  · refine ⟨_, rfl, ?_, fun id => ?_, fun row listed => ?_⟩
    · rw [List.map_map]
      exact before.world.db.users.unique.sublist (List.filter_sublist.map _)
    · rw [List.map_map]
      exact mem_recipients
    · obtain ⟨recipient, -, rfl⟩ := List.mem_map.mp listed
      exact ⟨rfl, rfl, rfl⟩
  · exact devices
  · exact sound.once
  · intro token handed holder later last
    obtain ⟨-, user, member, home, later', last', -⟩ := (devices token).mp handed
    exact ⟨user, member, last'.unique last, home⟩
  · exact sound.dead

end

def twoStaffRooms : PushWorld := ⟨World.empty.after .plain [foxSchool, owlSchool], .empty⟩

/-- FCM answers that no token it is asked about is known. -/
def forgetful : PushOutside where
  transport := .fcm
  access := some ⟨"fox", "secret"⟩
  answer _ := .rejected 404 (some "NOT_FOUND")
  readsTokens := true
  dropsTokens := true

/-- Ann's phone goes to Bob's school, and what she announces reaches her tablet alone. -/
theorem phone_follows_bob : ∃ history before, DeviceRun .plain twoStaffRooms history before ∧
    (NotificationsService.announce foxAdmin "No lessons on Friday" 0 forgetful before).handed.map
      PushMessage.token = ["tablet"] ∧
    (NotificationsService.announce foxAdmin "No lessons on Friday" 0 forgetful before).Reaches
      history before foxAdmin "No lessons on Friday" forgetful := by
  have ann : twoStaffRooms.world.db.users.find "a1" = some foxAdmin := by decide +kernel
  have bob : twoStaffRooms.world.db.users.find "a2" = some owlAdmin := by decide +kernel
  have run := (((@DeviceRun.start .plain twoStaffRooms).next (.register "phone" .android 0 ann)).next
    (.register "tablet" .ios 0 ann)).next (.register "phone" .android 0 bob)
  exact ⟨_, _, run, by decide +kernel, announcement_reaches_school rfl run _ 0 forgetful⟩

end TutorApp
