import TutorApp.Announcements
import TutorApp.Footprints

set_option autoImplicit false

namespace TutorApp

open Relational
open Js (Instant)

/-- A row of `notifications` with the columns of the feed: its id, and when it was read. -/
structure FeedEntry where
  id : Id
  notification : Notification
  readAt : Option Instant
  deriving Repr, DecidableEq

instance : Keyed FeedEntry Id := ⟨FeedEntry.id⟩

/-- The service with its devices, and the feed its notifications are read from. -/
structure FeedWorld where
  push : PushWorld
  feed : Table FeedEntry

namespace NotificationsService

def defaultLimit : Nat := 50

/-- The rows of a `createMany`, unread under the ids that are drawn for them. -/
def unread (ids : List Id) (rows : List Notification) : List FeedEntry :=
  List.zipWith (fun id row => ⟨id, row, none⟩) ids rows

def list (user : User) (limit : Nat) (feed : Table FeedEntry) : List FeedEntry :=
  (sortByTimeDesc (fun entry => entry.notification.createdAt)
    (feed.select fun entry => entry.notification.recipientId == user.id)).take limit

/-- Idempotent: what has been read is passed over. -/
def markRead (user : User) (id : Id) (now : Instant) (feed : Table FeedEntry) : Table FeedEntry :=
  feed.update
    (fun entry => entry.id == id && entry.notification.recipientId == user.id && entry.readAt.isNone)
    (fun entry => { entry with readAt := some now }) fun _ => rfl

def markAllRead (user : User) (now : Instant) (feed : Table FeedEntry) : Table FeedEntry :=
  feed.update (fun entry => entry.notification.recipientId == user.id && entry.readAt.isNone)
    (fun entry => { entry with readAt := some now }) fun _ => rfl

end NotificationsService

/-- What one call did to the feeds. -/
inductive FeedEvent where
  | stored (entries : List FeedEntry)
  | marked (userId id : Id) (now : Instant)
  | markedAll (userId : Id) (now : Instant)

/-- When an event reads an entry: by its recipient, and by its id unless everything is read. -/
def FeedEvent.reads (entry : FeedEntry) : FeedEvent → Option Instant
  | stored _ => none
  | marked userId id now =>
      if entry.id = id ∧ entry.notification.recipientId = userId then some now else none
  | markedAll userId now => if entry.notification.recipientId = userId then some now else none

/-- One call of a serial run: one that the feed is not read by, with the ids the rows it stores are
drawn under, or one that marks. -/
inductive FeedStep (platform : Platform) (before : FeedWorld) : FeedEvent → FeedWorld → Prop where
  | call {event : DeviceEvent} {push : PushWorld} {feed : Table FeedEntry}
      (step : DeviceStep platform before.push event push) (ids : List Id) (rows : List Notification)
      (appended : push.world.db.notifications = before.push.world.db.notifications ++ rows)
      (enough : ids.length = rows.length)
      (inserted : feed.rows = before.feed.rows ++ NotificationsService.unread ids rows) :
      FeedStep platform before (.stored (NotificationsService.unread ids rows)) ⟨push, feed⟩
  | markRead {user : User} {userId : Id} (id : Id) (now : Instant)
      (found : before.push.world.db.users.find userId = some user) :
      FeedStep platform before (.marked userId id now)
        { before with feed := NotificationsService.markRead user id now before.feed }
  | markAllRead {user : User} {userId : Id} (now : Instant)
      (found : before.push.world.db.users.find userId = some user) :
      FeedStep platform before (.markedAll userId now)
        { before with feed := NotificationsService.markAllRead user now before.feed }

inductive FeedRun (platform : Platform) (start : FeedWorld) :
    List FeedEvent → FeedWorld → Prop where
  | start : FeedRun platform start [] start
  | next {history : List FeedEvent} {before after : FeedWorld} {event : FeedEvent}
      (run : FeedRun platform start history before)
      (step : FeedStep platform before event after) :
      FeedRun platform start (history ++ [event]) after

/-- An entry was stored unread, and was read at the first event since that reads it. -/
def FeedEntry.Dated (history : List FeedEvent) (entry : FeedEntry) : Prop :=
  ∃ earlier entries later, history = earlier ++ .stored entries :: later ∧
    { entry with readAt := none } ∈ entries ∧ entry.readAt = later.findSome? (FeedEvent.reads entry)

section

variable {platform : Platform} {outside : Outside} {world : World} {start before after : FeedWorld}
  {history : List FeedEvent} {event : FeedEvent} {user : User} {feed : Table FeedEntry}
  {entry : FeedEntry}

theorem Request.serve_appends (request : Request) : ∃ rows,
    (request.serve platform outside world).world.db.notifications =
      world.db.notifications ++ rows := by
  have unchanged : ∀ {next : Db}, next.notifications = world.db.notifications →
      ∃ rows, next.notifications = world.db.notifications ++ rows :=
    fun same => ⟨[], by rw [same, List.append_nil]⟩
  cases request with
  | query userId asked =>
      apply unchanged
      unfold serve
      dsimp only
      split <;> rfl
  | command userId asked =>
      unfold serve
      dsimp only
      split
      · exact unchanged rfl
      · exact unchanged (asked.run_only .notifications (by cases asked <;> simp [Command.footprint,
          studentCascade, groupCascade]))
  | anonymous call =>
      by_cases accepts : ∃ token name, call = .acceptInvitation token name
      · obtain ⟨token, name, rfl⟩ := accepts
        refine World.commit_keeps (fun db => ∃ rows, db.notifications = world.db.notifications ++ rows)
          (unchanged rfl) fun account db done => ?_
        obtain ⟨_, -, -, stored, created, -, rfl⟩ := InvitationsService.accept_ok.mp done
        obtain ⟨-, -, users, -, rfl⟩ := Db.createUser_ok.mp created
        exact ⟨_, rfl⟩
      · refine unchanged (call.run_only .notifications ?_)
        cases call with
        | acceptInvitation token name => exact absurd ⟨token, name, rfl⟩ accepts
        | _ => simp [PublicCall.footprint]

theorem DeviceStep.appends {event : DeviceEvent} {push next : PushWorld}
    (step : DeviceStep platform push event next) : ∃ rows,
      next.world.db.notifications = push.world.db.notifications ++ rows := by
  cases step with
  | request outside request => exact request.serve_appends
  | announce text now outside found => exact ⟨_, rfl⟩
  | _ => exact ⟨[], by simp⟩

theorem mem_markRead {id : Id} {now : Instant}
    (member : entry ∈ (NotificationsService.markRead user id now feed).rows) :
    ∃ old ∈ feed.rows, entry.id = old.id ∧ entry.notification = old.notification ∧
      entry.readAt = old.readAt.or ((FeedEvent.marked user.id id now).reads old) := by
  obtain ⟨old, present, rfl⟩ := List.mem_map.mp member
  refine ⟨old, present, ?_⟩
  cases read : old.readAt with
  | some earlier => simp [read]
  | none =>
      by_cases own : old.id = id ∧ old.notification.recipientId = user.id
      · simp [read, FeedEvent.reads, own]
      · have passed : (old.id == id && old.notification.recipientId == user.id) = false := by
          simpa using own
        simp [read, FeedEvent.reads, own, passed]

theorem mem_markAllRead {now : Instant}
    (member : entry ∈ (NotificationsService.markAllRead user now feed).rows) :
    ∃ old ∈ feed.rows, entry.id = old.id ∧ entry.notification = old.notification ∧
      entry.readAt = old.readAt.or ((FeedEvent.markedAll user.id now).reads old) := by
  obtain ⟨old, present, rfl⟩ := List.mem_map.mp member
  refine ⟨old, present, ?_⟩
  cases read : old.readAt with
  | some earlier => simp [read]
  | none =>
      by_cases own : old.notification.recipientId = user.id
      · simp [read, FeedEvent.reads, own]
      · simp [read, FeedEvent.reads, own]

/-- What was dated by a history is dated by a longer one, read or not by its last event. -/
theorem FeedEntry.Dated.extend {old : FeedEntry} (dated : old.Dated history)
    (id : entry.id = old.id) (notification : entry.notification = old.notification)
    (read : entry.readAt = old.readAt.or (event.reads old)) : entry.Dated (history ++ [event]) := by
  obtain ⟨earlier, entries, later, rfl, stored, readAt⟩ := dated
  have same : ∀ event : FeedEvent, event.reads entry = event.reads old := by
    intro event
    cases event <;> simp only [FeedEvent.reads, id, notification]
  refine ⟨earlier, entries, later ++ [event], by simp, ?_, ?_⟩
  · rw [show ({ entry with readAt := none } : FeedEntry) = { old with readAt := none } by
      rw [id, notification]]
    exact stored
  · have last : [event].findSome? (FeedEvent.reads old) = event.reads old := by
      rw [List.findSome?_cons]
      cases event.reads old <;> rfl
    rw [read, readAt, funext same, List.findSome?_append, last]

theorem mem_unread {ids : List Id} {rows : List Notification}
    (member : entry ∈ NotificationsService.unread ids rows) : entry.readAt = none := by
  induction ids generalizing rows with
  | nil => cases member
  | cons id rest ih =>
      cases rows with
      | nil => cases member
      | cons row others =>
          rcases List.mem_cons.mp member with rfl | later
          · rfl
          · exact ih later

theorem unread_notifications {ids : List Id} {rows : List Notification}
    (enough : ids.length = rows.length) :
    (NotificationsService.unread ids rows).map FeedEntry.notification = rows := by
  induction ids generalizing rows with
  | nil => exact (List.length_eq_zero_iff.mp enough.symm).symm
  | cons id rest ih =>
      cases rows with
      | nil => cases enough
      | cons row others =>
          have same := ih (Nat.succ.inj enough)
          exact congrArg (row :: ·) same

theorem unread_ids {ids : List Id} {rows : List Notification} (enough : ids.length = rows.length) :
    (NotificationsService.unread ids rows).map FeedEntry.id = ids := by
  induction ids generalizing rows with
  | nil => rfl
  | cons id rest ih =>
      cases rows with
      | nil => cases enough
      | cons row others =>
          have same := ih (Nat.succ.inj enough)
          exact congrArg (id :: ·) same

/-- The feed follows every call, under any ids that are not taken. -/
theorem DeviceStep.followed {event : DeviceEvent} {push : PushWorld}
    (step : DeviceStep platform before.push event push) : ∃ rows, ∀ ids : List Id,
      ids.length = rows.length → (before.feed.rows.map FeedEntry.id ++ ids).Nodup →
      ∃ feed, FeedStep platform before (.stored (NotificationsService.unread ids rows))
        ⟨push, feed⟩ := by
  obtain ⟨rows, appended⟩ := step.appends
  refine ⟨rows, fun ids enough free => ?_⟩
  have unique : ((before.feed.rows ++ NotificationsService.unread ids rows).map key).Nodup := by
    show (List.map FeedEntry.id _).Nodup
    rw [List.map_append, unread_ids enough]
    exact free
  exact ⟨⟨_, unique⟩, .call step ids rows appended enough rfl⟩

structure FeedWorld.Fresh (start : FeedWorld) : Prop where
  feed : start.feed.rows = []
  notifications : start.push.world.db.notifications = []

/-- The feed is the table of notifications, each with the time it was read. -/
structure FeedWorld.Sound (history : List FeedEvent) (state : FeedWorld) : Prop where
  shows : state.feed.rows.map FeedEntry.notification = state.push.world.db.notifications
  dated : ∀ entry ∈ state.feed.rows, entry.Dated history

theorem FeedStep.sound (step : FeedStep platform before event after)
    (sound : before.Sound history) : after.Sound (history ++ [event]) := by
  cases step with
  | call called ids rows appended enough inserted =>
      constructor
      · rw [inserted, List.map_append, sound.shows, unread_notifications enough, appended]
      · intro entry member
        rw [inserted] at member
        rcases List.mem_append.mp member with old | new
        · exact (sound.dated entry old).extend rfl rfl (by simp [FeedEvent.reads])
        · have none := mem_unread new
          refine ⟨history, _, [], rfl, ?_, none⟩
          rw [show ({ entry with readAt := Option.none } : FeedEntry) = entry by rw [← none]]
          exact new
  | @markRead user userId id now found =>
      obtain rfl : user.id = userId := (Table.find_eq_some.mp found).2
      constructor
      · have same : (NotificationsService.markRead user id now before.feed).rows.map FeedEntry.notification =
            before.feed.rows.map FeedEntry.notification := by
          apply Table.map_rows_update
          exact fun _ => rfl
        exact same.trans sound.shows
      · intro entry member
        obtain ⟨old, present, same, notification, read⟩ := mem_markRead member
        exact (sound.dated old present).extend same notification read
  | @markAllRead user userId now found =>
      obtain rfl : user.id = userId := (Table.find_eq_some.mp found).2
      constructor
      · have same : (NotificationsService.markAllRead user now before.feed).rows.map FeedEntry.notification =
            before.feed.rows.map FeedEntry.notification := by
          apply Table.map_rows_update
          exact fun _ => rfl
        exact same.trans sound.shows
      · intro entry member
        obtain ⟨old, present, same, notification, read⟩ := mem_markAllRead member
        exact (sound.dated old present).extend same notification read

theorem FeedRun.sound (run : FeedRun platform start history after) (fresh : start.Fresh) :
    after.Sound history := by
  induction run with
  | start =>
      constructor
      · rw [fresh.feed, fresh.notifications]
        rfl
      · intro entry member
        rw [fresh.feed] at member
        cases member
  | next _ step ih => exact step.sound ih

/-- The first rows by time are newest first, and leave out nothing that is newer. -/
theorem newest_first {α : Type} (column : α → Instant) (limit : Nat) (rows : List α) :
    let newest := (sortByTimeDesc column rows).take limit
    newest.Pairwise (fun first second => column second ≤ column first) ∧
      ∀ row ∈ rows, row ∈ newest ∨
        newest.length = limit ∧ ∀ other ∈ newest, column row ≤ column other := by
  have total : Std.Total fun left right : α => column right ≤ column left :=
    ⟨fun left right => le_total (column right) (column left)⟩
  have trans : IsTrans α fun left right => column right ≤ column left :=
    ⟨fun _ _ _ first second => le_trans second first⟩
  have sorted : (sortByTimeDesc column rows).Pairwise fun left right => column right ≤ column left :=
    List.pairwise_insertionSort _ rows
  have split := List.take_append_drop limit (sortByTimeDesc column rows)
  refine ⟨sorted.sublist (List.take_sublist ..), fun row member => ?_⟩
  have listed := (@mem_sortByTimeDesc α column rows row).mpr member
  rw [← split] at listed sorted
  rcases List.mem_append.mp listed with shown | left
  · exact .inl shown
  · refine .inr ⟨?_, fun other shown => ?_⟩
    · have long : limit < (sortByTimeDesc column rows).length := by
        by_contra short
        rw [List.drop_eq_nil_of_le (not_lt.mp short)] at left
        cases left
      exact List.length_take_of_le long.le
    · exact (List.pairwise_append.mp sorted).2.2 other shown row left

/-- What a feed lists for a user: of what the user was sent, the newest. -/
structure Lists (user : User) (limit : Nat) (feed : Table FeedEntry) (listed : List FeedEntry) :
    Prop where
  own : ∀ entry ∈ listed, entry ∈ feed.rows ∧ entry.notification.recipientId = user.id
  ordered : listed.Pairwise fun first second =>
    second.notification.createdAt ≤ first.notification.createdAt
  complete : ∀ entry ∈ feed.rows, entry.notification.recipientId = user.id → entry ∈ listed ∨
    listed.length = limit ∧
      ∀ other ∈ listed, entry.notification.createdAt ≤ other.notification.createdAt

theorem NotificationsService.list_lists (user : User) (limit : Nat) (feed : Table FeedEntry) :
    Lists user limit feed (list user limit feed) := by
  let own := feed.select fun entry => entry.notification.recipientId == user.id
  have mine : ∀ entry, entry ∈ own ↔
      entry ∈ feed.rows ∧ entry.notification.recipientId = user.id := by
    intro entry
    rw [Table.mem_select, beq_iff_eq]
  obtain ⟨ordered, complete⟩ :=
    newest_first (fun entry : FeedEntry => entry.notification.createdAt) limit own
  constructor
  case own =>
    intro entry member
    exact (mine entry).mp (mem_sortByTimeDesc.mp (List.mem_of_mem_take member))
  case ordered => exact ordered
  case complete =>
    intro entry member recipient
    exact complete entry ((mine entry).mpr ⟨member, recipient⟩)

/-- Over any run, a feed lists the newest of what its user was sent, as the service sent it, and
an entry was read when its own recipient first marked it or everything. -/
theorem feeds_show_what_was_read (run : FeedRun platform start history after)
    (fresh : start.Fresh) :
    after.feed.rows.map FeedEntry.notification = after.push.world.db.notifications ∧
      (∀ entry ∈ after.feed.rows, entry.Dated history) ∧
        ∀ user limit, Lists user limit after.feed (NotificationsService.list user limit after.feed) :=
  ⟨(run.sound fresh).shows, (run.sound fresh).dated, fun user limit =>
    NotificationsService.list_lists user limit after.feed⟩

end

def quietRooms : FeedWorld := ⟨twoStaffRooms, .empty⟩

/-- What Ann is sent of her own announcement. -/
def fridayNotice : Notification :=
  ⟨.adminAnnouncement, "Ann", some "No lessons on Friday", "a1", 0⟩

/-- The notice is stored for Ann, and nobody else is in her school. -/
def noticed : FeedWorld where
  push := (NotificationsService.announce foxAdmin "No lessons on Friday" 0 forgetful
    twoStaffRooms).after
  feed := ⟨[⟨"n1", fridayNotice, none⟩], by decide⟩

/-- Ann reads everything once and then again, and her notice keeps the time she read it first. -/
theorem ann_reads_her_notice : ∃ history after, FeedRun .plain quietRooms history after ∧
    NotificationsService.list foxAdmin NotificationsService.defaultLimit after.feed =
      [⟨"n1", fridayNotice, some 5⟩] ∧
    ∀ entry ∈ after.feed.rows, entry.Dated history := by
  have ann : twoStaffRooms.world.db.users.find "a1" = some foxAdmin := by decide +kernel
  have still : noticed.push.world.db.users.find "a1" = some foxAdmin := by decide +kernel
  have fresh : quietRooms.Fresh := ⟨rfl, by decide +kernel⟩
  have appended : noticed.push.world.db.notifications =
      twoStaffRooms.world.db.notifications ++ [fridayNotice] := by decide +kernel
  have told : FeedStep .plain quietRooms
      (.stored (NotificationsService.unread ["n1"] [fridayNotice])) noticed :=
    .call (.announce "No lessons on Friday" 0 forgetful ann) ["n1"] [fridayNotice] appended rfl rfl
  have run := ((FeedRun.start.next told).next (.markAllRead 5 still)).next (.markAllRead 9 still)
  exact ⟨_, _, run, by decide +kernel, (feeds_show_what_was_read run fresh).2.1⟩

end TutorApp
