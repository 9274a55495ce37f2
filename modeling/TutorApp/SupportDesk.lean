import TutorApp.NotificationFeed

set_option autoImplicit false

namespace TutorApp

open Relational
open Js (Instant)

/-- A row of `support_requests`, as far as the service writes it. -/
structure SupportRequest where
  id : Id
  message : String
  createdAt : Instant
  notifiedAt : Option Instant
  userId : Id
  schoolId : Id
  deriving Repr, DecidableEq

instance : Keyed SupportRequest Id := ⟨SupportRequest.id⟩

structure SupportEmail where
  requestId : Id
  fromName : String
  fromEmail : String
  schoolId : Id
  message : String
  deriving Repr, DecidableEq

namespace SupportService

/-- The row of a message; the column defaults to not notified. -/
def requestOf (user : User) (message : String) (id : Id) (now : Instant) : SupportRequest :=
  ⟨id, Js.trim message, now, none, user.id, user.schoolId⟩

def mailOf (user : User) (request : SupportRequest) : SupportEmail :=
  ⟨request.id, user.name, user.email, user.schoolId, request.message⟩

def note (id : Id) (now : Instant) (requests : Table SupportRequest) : Table SupportRequest :=
  requests.update (fun request => decide (key request = id))
    (fun request => { request with notifiedAt := some now }) fun _ => rfl

def list (user : User) (requests : Table SupportRequest) : List SupportRequest :=
  (sortByTimeDesc SupportRequest.createdAt
    (requests.select fun request => request.userId == user.id)).take 20

end SupportService

/-- Where a `submit` stands. -/
inductive SupportPhase where
  | submitting (user : User) (message : String)
  | sending (user : User) (request : SupportRequest)
  | noting (user : User) (request : SupportRequest)
  | answered (user : User) (request : SupportRequest)
  | failed

/-- The row a call has written. -/
def SupportPhase.written : SupportPhase → Option Id
  | submitting _ _ | failed => none
  | sending _ request | noting _ request | answered _ request => some request.id

/-- The rows, what the mail service took, and the calls under way. -/
structure SupportDesk (τ : Type) where
  requests : Table SupportRequest
  mailed : List SupportEmail
  calls : τ → SupportPhase

section

variable {τ : Type} [DecidableEq τ]

def SupportDesk.put (state : SupportDesk τ) (t : τ) (phase : SupportPhase) : SupportDesk τ :=
  { state with calls := Function.update state.calls t phase }

/-- A step of one call. What goes wrong after the row is written is only logged. -/
inductive SupportStep (t : τ) (state : SupportDesk τ) : SupportDesk τ → Prop where
  | create {user : User} {message : String} {requests : Table SupportRequest} (id : Id)
      (now : Instant) (submitting : state.calls t = .submitting user message)
      (inserted : state.requests.insert? (SupportService.requestOf user message id now) =
        some requests) :
      SupportStep t state ({ state with requests }.put t
        (.sending user (SupportService.requestOf user message id now)))
  | uncreated {user : User} {message : String}
      (submitting : state.calls t = .submitting user message) :
      SupportStep t state (state.put t .failed)
  | send {user : User} {request : SupportRequest} (sending : state.calls t = .sending user request) :
      SupportStep t state ({ state with
        mailed := SupportService.mailOf user request :: state.mailed }.put t (.noting user request))
  | unsent {user : User} {request : SupportRequest}
      (sending : state.calls t = .sending user request) :
      SupportStep t state (state.put t (.answered user request))
  | note {user : User} {request : SupportRequest} (now : Instant)
      (noting : state.calls t = .noting user request) :
      SupportStep t state ({ state with
        requests := SupportService.note request.id now state.requests }.put t (.answered user request))
  | unnoted {user : User} {request : SupportRequest}
      (noting : state.calls t = .noting user request) :
      SupportStep t state (state.put t (.answered user request))

/-- Any interleaving of the calls' steps. -/
def SupportRun : SupportDesk τ → SupportDesk τ → Prop :=
  Relation.ReflTransGen fun state next => ∃ t, SupportStep t state next

end

/-- Nothing has been submitted yet. -/
structure SupportDesk.Fresh {τ : Type} (start : SupportDesk τ) : Prop where
  empty : start.requests = .empty
  unmailed : start.mailed = []
  waiting : ∀ t, ∃ user message, start.calls t = .submitting user message

/-- The mails about one row. -/
def SupportDesk.mails {τ : Type} (state : SupportDesk τ) (id : Id) : List SupportEmail :=
  state.mailed.filter fun mail => mail.requestId == id

/-- The row is that of what the call was asked to submit. -/
def SupportDesk.Began {τ : Type} (start : SupportDesk τ) (t : τ) (user : User)
    (request : SupportRequest) : Prop :=
  ∃ message, start.calls t = .submitting user message ∧
    request = SupportService.requestOf user message request.id request.createdAt

/-- What is there of a call at each place. -/
def SupportDesk.Fits {τ : Type} (start state : SupportDesk τ) (t : τ) : SupportPhase → Prop
  | .submitting user message => start.calls t = .submitting user message
  | .sending user request => start.Began t user request ∧
      state.requests.find request.id = some request ∧ state.mails request.id = []
  | .noting user request => start.Began t user request ∧
      state.requests.find request.id = some request ∧
      state.mails request.id = [SupportService.mailOf user request]
  | .answered user request => start.Began t user request ∧ ∃ notifiedAt,
      state.requests.find request.id = some { request with notifiedAt } ∧
      (state.mails request.id = [] ∧ notifiedAt = none ∨
        state.mails request.id = [SupportService.mailOf user request])
  | .failed => True

/-- Every row and every mail is of one call, and each call finds its own. -/
structure SupportDesk.Kept {τ : Type} (start state : SupportDesk τ) : Prop where
  fits : ∀ t, start.Fits state t (state.calls t)
  apart : ∀ t other id, (state.calls t).written = some id →
    (state.calls other).written = some id → t = other
  traced : ∀ row ∈ state.requests.rows, ∃ t, (state.calls t).written = some row.id
  addressed : ∀ mail ∈ state.mailed, ∃ t, (state.calls t).written = some mail.requestId

section

variable {τ : Type} {t : τ} {start state next after : SupportDesk τ} {phase : SupportPhase} {id : Id}
  {user : User} {request : SupportRequest}

/-- A row is written before anybody is notified. -/
theorem SupportDesk.Began.unmarked (began : start.Began t user request) :
    { request with notifiedAt := none } = request := by
  obtain ⟨_, _, rowed⟩ := began
  rw [rowed]
  rfl

/-- A call finds its own where its row and the mails about it are as they were. -/
theorem SupportDesk.Fits.same (fits : start.Fits state t phase)
    (found : ∀ id, phase.written = some id →
      next.requests.find id = state.requests.find id ∧ next.mails id = state.mails id) :
    start.Fits next t phase := by
  cases phase with
  | submitting | failed => exact fits
  | sending user request | noting user request =>
      obtain ⟨began, row, mails⟩ := fits
      obtain ⟨rows, mailed⟩ := found request.id rfl
      exact ⟨began, rows.trans row, mailed.trans mails⟩
  | answered user request =>
      obtain ⟨began, notifiedAt, row, mails⟩ := fits
      obtain ⟨rows, mailed⟩ := found request.id rfl
      rw [← mailed] at mails
      exact ⟨began, notifiedAt, rows.trans row, mails⟩

/-- What a call has written is found. -/
theorem SupportDesk.Fits.found (fits : start.Fits state t phase) (written : phase.written = some id) :
    ∃ row, state.requests.find id = some row := by
  cases phase with
  | submitting | failed => cases written
  | sending | noting =>
      cases written
      exact ⟨_, fits.2.1⟩
  | answered =>
      cases written
      obtain ⟨-, _, row, -⟩ := fits
      exact ⟨_, row⟩

theorem SupportDesk.Fresh.kept (fresh : start.Fresh) : start.Kept start where
  fits t := by
    obtain ⟨user, message, waiting⟩ := fresh.waiting t
    rw [waiting]
    exact waiting
  apart t _ _ written := by
    obtain ⟨user, message, waiting⟩ := fresh.waiting t
    rw [waiting] at written
    cases written
  traced row member := by
    rw [fresh.empty] at member
    cases member
  addressed mail member := by
    rw [fresh.unmailed] at member
    cases member

/-- A new row is of no call yet, and no mail is about it. -/
theorem SupportDesk.Kept.unwritten (kept : start.Kept state) (free : state.requests.find id = none) :
    (∀ t, (state.calls t).written ≠ some id) ∧ state.mails id = [] := by
  have unwritten : ∀ t, (state.calls t).written ≠ some id := by
    intro t written
    obtain ⟨row, found⟩ := (kept.fits t).found written
    rw [free] at found
    cases found
  refine ⟨unwritten, ?_⟩
  rw [mails, List.filter_eq_nil_iff]
  intro mail member about
  obtain ⟨t, written⟩ := kept.addressed mail member
  exact unwritten t (written.trans (congrArg some (beq_iff_eq.mp about)))

variable [DecidableEq τ]

/-- A call that goes on with the row it has written leaves the others to theirs. -/
theorem SupportDesk.Kept.goOn (kept : start.Kept state) {requests : Table SupportRequest}
    {mailed : List SupportEmail} (written : phase.written = (state.calls t).written)
    (fits : start.Fits ({ state with requests, mailed }.put t phase) t phase)
    (others : ∀ other, (state.calls t).written ≠ some other →
      requests.find other = state.requests.find other ∧
        mailed.filter (fun mail => mail.requestId == other) = state.mails other)
    (rows : requests.rows.map SupportRequest.id = state.requests.rows.map SupportRequest.id)
    (mails : ∀ mail ∈ mailed, mail ∈ state.mailed ∨
      (state.calls t).written = some mail.requestId) :
    start.Kept ({ state with requests, mailed }.put t phase) := by
  have same : ∀ other, (({ state with requests, mailed } : SupportDesk τ).put t phase).calls other =
      if other = t then phase else state.calls other := by
    intro other
    simp only [put, Function.update_apply]
  have writes : ∀ other,
      ((({ state with requests, mailed } : SupportDesk τ).put t phase).calls other).written =
        (state.calls other).written := by
    intro other
    rw [same]
    split
    · rename_i own
      rw [own, written]
    · rfl
  constructor
  case fits =>
    intro other
    rw [same]
    split
    · rename_i own
      exact own ▸ fits
    · rename_i foreign
      refine (kept.fits other).same fun id found => others id fun own => ?_
      exact foreign (kept.apart other t id found own)
  case apart =>
    intro first second id
    rw [writes, writes]
    exact kept.apart first second id
  case traced =>
    intro row member
    have listed : row.id ∈ state.requests.rows.map SupportRequest.id :=
      rows ▸ List.mem_map_of_mem member
    obtain ⟨old, there, named⟩ := List.mem_map.mp listed
    obtain ⟨owner, wrote⟩ := kept.traced old there
    exact ⟨owner, by rw [writes, wrote, named]⟩
  case addressed =>
    intro mail member
    rcases mails mail member with old | own
    · obtain ⟨owner, wrote⟩ := kept.addressed mail old
      exact ⟨owner, by rw [writes, wrote]⟩
    · exact ⟨t, by rw [writes, own]⟩

/-- A call that writes nothing more leaves every row and every mail as they are. -/
theorem SupportDesk.Kept.settle (kept : start.Kept state)
    (written : phase.written = (state.calls t).written) (fits : start.Fits state t phase) :
    start.Kept (state.put t phase) :=
  kept.goOn written (fits.same fun _ _ => ⟨rfl, rfl⟩) (fun _ _ => ⟨rfl, rfl⟩) rfl
    fun _ member => .inl member

theorem SupportStep.kept (step : SupportStep t state next) (kept : start.Kept state) :
    start.Kept next := by
  have own := kept.fits t
  cases step with
  | @create user message requests id now submitting inserted =>
      rw [submitting] at own
      have free : state.requests.find id = none := (Table.insert?_eq_some.mp inserted).1
      obtain ⟨unwritten, unmailed⟩ := kept.unwritten free
      have found := Table.find_of_insert inserted
      have elsewhere : ∀ {owner other}, (state.calls owner).written = some other → owner ≠ t := by
        rintro _ _ wrote rfl
        rw [submitting] at wrote
        cases wrote
      constructor
      case fits =>
        intro other
        simp only [SupportDesk.put, Function.update_apply]
        split
        · rename_i here
          refine ⟨⟨message, here ▸ own, rfl⟩, ?_, unmailed⟩
          show requests.find id = _
          rw [found]
          exact if_pos rfl
        · refine (kept.fits other).same fun old wrote => ⟨?_, rfl⟩
          show requests.find old = state.requests.find old
          have apart : key (SupportService.requestOf user message id now) ≠ old := by
            rintro rfl
            exact unwritten other wrote
          rw [found, if_neg apart]
      case apart =>
        intro first second old
        simp only [SupportDesk.put, Function.update_apply]
        split <;> split
        · rename_i here there
          exact fun _ _ => here.trans there.symm
        · intro new wrote
          cases new
          exact absurd wrote (unwritten second)
        · intro wrote new
          cases new
          exact absurd wrote (unwritten first)
        · exact kept.apart first second old
      case traced =>
        intro row member
        rcases (Table.mem_insert inserted).mp member with old | rfl
        · obtain ⟨owner, wrote⟩ := kept.traced row old
          refine ⟨owner, ?_⟩
          simpa only [SupportDesk.put, Function.update_of_ne (elsewhere wrote)] using wrote
        · exact ⟨t, by simp only [SupportDesk.put, Function.update_self]; rfl⟩
      case addressed =>
        intro mail member
        obtain ⟨owner, wrote⟩ := kept.addressed mail member
        refine ⟨owner, ?_⟩
        simpa only [SupportDesk.put, Function.update_of_ne (elsewhere wrote)] using wrote
  | uncreated submitting =>
      exact kept.settle (by rw [submitting]; rfl) trivial
  | @send user request sending =>
      rw [sending] at own
      obtain ⟨began, row, unmailed⟩ := own
      have writes : (state.calls t).written = some request.id := by
        rw [sending]
        rfl
      refine kept.goOn writes.symm ⟨began, row, ?_⟩ (fun other foreign => ⟨rfl, ?_⟩) rfl ?_
      · show (SupportService.mailOf user request :: state.mailed).filter _ = _
        rw [List.filter_cons_of_pos (by simp [SupportService.mailOf])]
        exact congrArg _ unmailed
      · apply List.filter_cons_of_neg
        intro about
        exact foreign (writes.trans (congrArg some (beq_iff_eq.mp about)))
      · intro mail member
        rcases List.mem_cons.mp member with rfl | old
        · exact .inr writes
        · exact .inl old
  | unsent sending =>
      rw [sending] at own
      obtain ⟨began, row, unmailed⟩ := own
      exact kept.settle (by rw [sending]; rfl)
        ⟨began, none, by rw [row, began.unmarked], .inl ⟨unmailed, rfl⟩⟩
  | @note user request now noting =>
      rw [noting] at own
      obtain ⟨began, row, mailed⟩ := own
      have writes : (state.calls t).written = some request.id := by
        rw [noting]
        rfl
      have found := Table.find_update_key state.requests request.id
        (fun request => { request with notifiedAt := some now }) (fun _ => rfl)
      refine kept.goOn writes.symm ⟨began, some now, ?_, .inr mailed⟩ (fun other foreign => ⟨?_, rfl⟩)
        ?_ fun _ member => .inl member
      · show (SupportService.note _ _ _).find _ = _
        rw [SupportService.note, found, if_pos rfl, row]
        rfl
      · rw [SupportService.note, found, if_neg]
        rintro rfl
        exact foreign writes
      · rw [SupportService.note]
        apply Table.map_rows_update
        exact fun _ => rfl
  | unnoted noting =>
      rw [noting] at own
      obtain ⟨began, row, mailed⟩ := own
      exact kept.settle (by rw [noting]; rfl)
        ⟨began, none, by rw [row, began.unmarked], .inr mailed⟩

theorem SupportRun.kept (run : SupportRun start after) (fresh : start.Fresh) : start.Kept after := by
  induction run with
  | refl => exact fresh.kept
  | tail _ step ih =>
      obtain ⟨_, moved⟩ := step
      exact moved.kept ih

/-- A row as its call submitted it, and notified only by the one mail about it. -/
def SupportDesk.Holds (start after : SupportDesk τ) (t : τ) (row : SupportRequest) : Prop :=
  ∃ user message, start.calls t = .submitting user message ∧
    row = { SupportService.requestOf user message row.id row.createdAt with
      notifiedAt := row.notifiedAt } ∧
    (after.mails row.id = [] ∧ row.notifiedAt = none ∨
      after.mails row.id = [SupportService.mailOf user row])

omit [DecidableEq τ] in
theorem SupportDesk.Began.holds (began : start.Began t user request) {notifiedAt : Option Instant}
    (mails : after.mails request.id = [] ∧ notifiedAt = none ∨
      after.mails request.id = [SupportService.mailOf user request]) :
    start.Holds after t { request with notifiedAt } := by
  obtain ⟨message, waiting, rowed⟩ := began
  refine ⟨user, message, waiting, ?_, mails⟩
  exact congrArg (fun row : SupportRequest => { row with notifiedAt }) rowed

omit [DecidableEq τ] in
/-- Whatever a call has written is its own request. -/
theorem SupportDesk.Fits.holds (fits : start.Fits after t phase) (written : phase.written = some id) :
    ∃ row, after.requests.find id = some row ∧ start.Holds after t row := by
  cases phase with
  | submitting | failed => cases written
  | sending user request =>
      cases written
      obtain ⟨began, found, unmailed⟩ := fits
      rw [← began.unmarked] at found
      exact ⟨_, found, began.holds (.inl ⟨unmailed, rfl⟩)⟩
  | noting user request =>
      cases written
      obtain ⟨began, found, mailed⟩ := fits
      rw [← began.unmarked] at found
      exact ⟨_, found, began.holds (.inr mailed)⟩
  | answered user request =>
      cases written
      obtain ⟨began, _, found, mailed⟩ := fits
      exact ⟨_, found, began.holds mailed⟩

/-- Over any interleaving of submissions, with any mails lost and any statement after the row
failing: every answered call has its row, every row is of one call and as that was submitted, and a
row says it was notified only if exactly its one mail went out. Each user lists the newest twenty of
its own, newest first. -/
theorem support_requests_are_kept (fresh : start.Fresh) (run : SupportRun start after) :
    (∀ t user request, after.calls t = .answered user request →
      ∃ row, after.requests.find request.id = some row ∧ start.Holds after t row) ∧
    (∀ row ∈ after.requests.rows, ∃ t, (after.calls t).written = some row.id ∧
      (∀ other, (after.calls other).written = some row.id → other = t) ∧ start.Holds after t row) ∧
    (∀ mail ∈ after.mailed, ∃ row ∈ after.requests.rows, after.mails row.id = [mail]) ∧
    ∀ user, (∀ row ∈ SupportService.list user after.requests,
        row ∈ after.requests.rows ∧ row.userId = user.id) ∧
      (SupportService.list user after.requests).Pairwise
        (fun first second => second.createdAt ≤ first.createdAt) ∧
      ∀ row ∈ after.requests.rows, row.userId = user.id →
        row ∈ SupportService.list user after.requests ∨
          (SupportService.list user after.requests).length = 20 ∧
            ∀ other ∈ SupportService.list user after.requests, row.createdAt ≤ other.createdAt := by
  have kept := run.kept fresh
  refine ⟨fun t user request answered => ?answers, fun row member => ?rows, fun mail member => ?mails,
    fun user => ?lists⟩
  case answers =>
    have fits := kept.fits t
    rw [answered] at fits
    exact fits.holds rfl
  case rows =>
    obtain ⟨t, written⟩ := kept.traced row member
    obtain ⟨found, there, holds⟩ := (kept.fits t).holds written
    have same : found = row := Option.some.inj (there.symm.trans (Table.find_key member))
    exact ⟨t, written, fun other wrote => kept.apart other t row.id wrote written, same ▸ holds⟩
  case mails =>
    obtain ⟨t, written⟩ := kept.addressed mail member
    obtain ⟨row, there, _, _, _, _, mailed⟩ := (kept.fits t).holds written
    obtain ⟨listed, named⟩ := Table.find_eq_some.mp there
    have about : mail ∈ after.mails row.id :=
      List.mem_filter.mpr ⟨member, beq_iff_eq.mpr named.symm⟩
    refine ⟨row, listed, ?_⟩
    rcases mailed with ⟨unmailed, -⟩ | once
    · rw [unmailed] at about
      cases about
    · rw [once] at about ⊢
      rw [List.mem_singleton.mp about]
  case lists =>
    obtain ⟨ordered, complete⟩ := newest_first SupportRequest.createdAt 20
      (after.requests.select fun request => request.userId == user.id)
    refine ⟨fun row member => ?_, ordered, fun row member own => ?_⟩
    · have own := mem_sortByTimeDesc.mp (List.mem_of_mem_take member)
      rwa [Table.mem_select, beq_iff_eq] at own
    · exact complete row (Table.mem_select.mpr ⟨member, beq_iff_eq.mpr own⟩)

end

def twoMessages : SupportDesk Bool where
  requests := .empty
  mailed := []
  calls second := .submitting foxAdmin
    (if second then "Thank you very much." else " Where is my invoice? ")

theorem twoMessages_fresh : twoMessages.Fresh where
  empty := rfl
  unmailed := rfl
  waiting _ := ⟨_, _, rfl⟩

/-- The first mail is lost while the second goes out, and the first row still waits for somebody. -/
theorem lost_mail_is_kept : ∃ after, SupportRun twoMessages after ∧ ∃ row,
    after.requests.find "r1" = some row ∧ row.message = "Where is my invoice?" ∧
      row.notifiedAt = none ∧ twoMessages.Holds after false row := by
  obtain ⟨after, run, answered, unnoted⟩ : ∃ after, SupportRun twoMessages after ∧
      after.calls false = .answered foxAdmin
        (SupportService.requestOf foxAdmin " Where is my invoice? " "r1" 0) ∧
      (after.requests.find "r1").bind SupportRequest.notifiedAt = none :=
    ⟨_, .head ⟨false, .create "r1" 0 rfl rfl⟩ <| .head ⟨true, .create "r2" 1 rfl rfl⟩ <|
      .head ⟨true, .send rfl⟩ <| .head ⟨true, .note 2 rfl⟩ <| .single ⟨false, .unsent rfl⟩, rfl, rfl⟩
  obtain ⟨row, found, holds⟩ :=
    (support_requests_are_kept twoMessages_fresh run).1 false foxAdmin _ answered
  have waits : row.notifiedAt = none := by
    rw [show after.requests.find "r1" = some row from found] at unnoted
    exact unnoted
  refine ⟨after, run, row, found, ?_, waits, holds⟩
  obtain ⟨user, message, submitted, rowed, -⟩ := holds
  cases submitted
  rw [rowed]
  show Js.trim " Where is my invoice? " = _
  decide

end TutorApp
