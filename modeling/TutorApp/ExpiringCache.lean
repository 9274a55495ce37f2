import Mathlib.Data.Rat.Floor
import Mathlib.Logic.Relation
import Mathlib.Tactic.Linarith

set_option autoImplicit false

namespace ExpiringCache

/-- A value that was granted, and the moment it is reckoned to run out at. -/
structure Cache (α : Type) where
  value : Option α
  expiresAt : ℚ

/-- What the issuer granted, when, and when it stops accepting it. -/
structure Grant (α : Type) where
  value : α
  grantedAt : ℚ
  expires : ℚ

/-- When a value was asked for that was put into the cache, and when it was put there. -/
structure Renewal where
  asked : ℚ
  written : ℚ

/-- Where a call stands: it waits for the issuer since it asked, or it was served from the cache or
with what it had asked for. -/
inductive Phase (α : Type) where
  | idle
  | asking (since : ℚ)
  | answered (since : ℚ) (value : α) (lifetime : ℚ)
  | served (value : α) (asked : Option ℚ) (now : ℚ)
  | failed

/-- The cache with the clock, what was granted, the renewals, the latest first, and the calls. -/
structure State (α τ : Type) where
  cache : Cache α
  clock : ℚ
  grants : List (Grant α)
  stored : List Renewal
  calls : τ → Phase α

section

variable {α τ : Type}

def Cache.empty : Cache α := ⟨none, 0⟩

/-- The value while it has more than a margin left. -/
def Cache.lookup (margin now : ℚ) (cache : Cache α) : Option α :=
  if now < cache.expiresAt - margin then cache.value else none

/-- Since when a call has been waiting for the issuer, if it is. -/
def Phase.since : Phase α → Option ℚ
  | asking since | answered since _ _ => some since
  | idle | served _ _ _ | failed => none

variable [DecidableEq τ]

def State.put (state : State α τ) (t : τ) (phase : Phase α) : State α τ :=
  { state with calls := Function.update state.calls t phase }

/-- A step of one call, or of the clock: between asking, being granted a value and storing it, a
call is late by as much as the others take. -/
inductive Step (margin : ℚ) (t : τ) (state : State α τ) : State α τ → Prop where
  | wait (later : ℚ) (forward : state.clock ≤ later) : Step margin t state { state with clock := later }
  | hit {value : α} (free : (state.calls t).since = none)
      (found : state.cache.lookup margin state.clock = some value) :
      Step margin t state (state.put t (.served value none state.clock))
  | miss (free : (state.calls t).since = none)
      (missing : state.cache.lookup margin state.clock = none) :
      Step margin t state (state.put t (.asking state.clock))
  | grant {since : ℚ} (asking : state.calls t = .asking since) (value : α) (lifetime expires : ℚ)
      (lasts : state.clock + lifetime ≤ expires) :
      Step margin t state ({ state with
        grants := ⟨value, state.clock, expires⟩ :: state.grants }.put t
          (.answered since value lifetime))
  | store {since : ℚ} {value : α} {lifetime : ℚ}
      (answered : state.calls t = .answered since value lifetime) :
      Step margin t state ({ state with
        cache := ⟨some value, since + lifetime⟩
        stored := ⟨since, state.clock⟩ :: state.stored }.put t
          (.served value (some since) state.clock))
  | fail (busy : (state.calls t).since ≠ none) : Step margin t state (state.put t .failed)

def Run (margin : ℚ) : State α τ → State α τ → Prop :=
  Relation.ReflTransGen fun state next => ∃ t, Step margin t state next

/-- A call begins to ask only while no other waits, and it is granted a value that lasts. -/
structure InTurn (least : ℚ) (t : τ) (state next : State α τ) : Prop where
  alone : (state.calls t).since = none → ∀ since, next.calls t = .asking since →
    ∀ other, (state.calls other).since = none
  lasting : ∀ since value lifetime, next.calls t = .answered since value lifetime →
    least ≤ lifetime

def OneByOne (margin least : ℚ) (state next : State α τ) : Prop :=
  ∃ t, Step margin t state next ∧ InTurn least t state next

def SerialRun (margin least : ℚ) : State α τ → State α τ → Prop :=
  Relation.ReflTransGen (OneByOne margin least)

/-- Nothing is cached yet and no call is under way. -/
structure State.Fresh (state : State α τ) : Prop where
  empty : state.cache.value = none
  nothing : state.stored = []
  idle : ∀ t, state.calls t = .idle

end

section

variable {α τ : Type} {margin least : ℚ} {cache : Cache α} {value : α} {state next : State α τ}
  {grants : List (Grant α)} {t : τ}

theorem Cache.lookup_eq_some {now : ℚ} : cache.lookup margin now = some value ↔
    now < cache.expiresAt - margin ∧ cache.value = some value := by
  unfold Cache.lookup
  by_cases early : now < cache.expiresAt - margin <;> simp [early]

theorem Cache.lookup_eq_none {now : ℚ} (missing : cache.lookup margin now = none) :
    cache.value = none ∨ cache.expiresAt - margin ≤ now := by
  unfold Cache.lookup at missing
  split at missing
  · exact .inl missing
  · rename_i late
    exact .inr (not_lt.mp late)

/-- Among the grants is one of the value, made between two moments and good up to a third. -/
def Granted (grants : List (Grant α)) (value : α) (since now expires : ℚ) : Prop :=
  ∃ grant ∈ grants, grant.value = value ∧ since ≤ grant.grantedAt ∧ grant.grantedAt ≤ now ∧
    expires ≤ grant.expires

theorem Granted.later {since now later expires : ℚ} {more : List (Grant α)}
    (granted : Granted grants value since now expires) (kept : grants ⊆ more) (on : now ≤ later) :
    Granted more value since later expires := by
  obtain ⟨grant, member, same, after, before, good⟩ := granted
  exact ⟨grant, kept member, same, after, before.trans on, good⟩

/-- From the cache a call is served with a value that has a margin left, and else with one granted
since it asked. -/
def Served (margin : ℚ) (grants : List (Grant α)) (value : α) (asked : Option ℚ) (now : ℚ) : Prop :=
  match asked with
  | none => ∃ since expires, Granted grants value since now expires ∧ now + margin < expires
  | some since => ∃ expires, Granted grants value since now expires

/-- The cache and every answer under way rest on grants that last as long as they are reckoned to. -/
structure State.Backed (margin : ℚ) (state : State α τ) : Prop where
  cached : ∀ value, state.cache.value = some value →
    ∃ since, Granted state.grants value since state.clock state.cache.expiresAt
  asked : ∀ t since, state.calls t = .asking since → since ≤ state.clock
  answered : ∀ t since value lifetime, state.calls t = .answered since value lifetime →
    Granted state.grants value since state.clock (since + lifetime)
  served : ∀ t value asked now, state.calls t = .served value asked now →
    now ≤ state.clock ∧ Served margin state.grants value asked now

theorem State.Fresh.backed (fresh : state.Fresh) : state.Backed margin where
  cached value held := by rw [fresh.empty] at held; cases held
  asked t since asks := by rw [fresh.idle t] at asks; cases asks
  answered t since value lifetime answers := by rw [fresh.idle t] at answers; cases answers
  served t value asked now serves := by rw [fresh.idle t] at serves; cases serves

theorem Served.later {asked : Option ℚ} {now : ℚ} {more : List (Grant α)}
    (served : Served margin grants value asked now) (kept : grants ⊆ more) :
    Served margin more value asked now := by
  cases asked with
  | none =>
      obtain ⟨since, expires, granted, left⟩ := served
      exact ⟨since, expires, granted.later kept le_rfl, left⟩
  | some since =>
      obtain ⟨expires, granted⟩ := served
      exact ⟨expires, granted.later kept le_rfl⟩

/-- Time passes and grants are added. -/
theorem State.Backed.later {clock : ℚ} {more : List (Grant α)} (backed : state.Backed margin)
    (kept : state.grants ⊆ more) (on : state.clock ≤ clock) :
    ({ state with clock := clock, grants := more } : State α τ).Backed margin where
  cached value held := by
    obtain ⟨since, granted⟩ := backed.cached value held
    exact ⟨since, granted.later kept on⟩
  asked t since asks := (backed.asked t since asks).trans on
  answered t since value lifetime answers :=
    (backed.answered t since value lifetime answers).later kept on
  served t value asked now serves := by
    obtain ⟨before, good⟩ := backed.served t value asked now serves
    exact ⟨before.trans on, good.later kept⟩

section

variable [DecidableEq τ]

@[simp] theorem State.put_self (phase : Phase α) : (state.put t phase).calls t = phase :=
  Function.update_self ..

theorem State.put_other {other : τ} (phase : Phase α) (different : other ≠ t) :
    (state.put t phase).calls other = state.calls other :=
  Function.update_of_ne different ..

/-- A call goes on to a phase that rests on the grants. -/
theorem State.Backed.put {phase : Phase α} (backed : state.Backed margin)
    (asked : ∀ since, phase = .asking since → since ≤ state.clock)
    (answered : ∀ since value lifetime, phase = .answered since value lifetime →
      Granted state.grants value since state.clock (since + lifetime))
    (served : ∀ value asked now, phase = .served value asked now →
      now ≤ state.clock ∧ Served margin state.grants value asked now) :
    (state.put t phase).Backed margin where
  cached := backed.cached
  asked other since asks := by
    by_cases same : other = t
    · rw [same, State.put_self] at asks
      exact asked since asks
    · rw [State.put_other phase same] at asks
      exact backed.asked other since asks
  answered other since value lifetime answers := by
    by_cases same : other = t
    · rw [same, State.put_self] at answers
      exact answered since value lifetime answers
    · rw [State.put_other phase same] at answers
      exact backed.answered other since value lifetime answers
  served other value asked now serves := by
    by_cases same : other = t
    · rw [same, State.put_self] at serves
      exact served value asked now serves
    · rw [State.put_other phase same] at serves
      exact backed.served other value asked now serves

theorem Step.backed (step : Step margin t state next) (backed : state.Backed margin) :
    next.Backed margin := by
  cases step with
  | wait later forward => exact backed.later (List.Subset.refl _) forward
  | hit free found =>
      obtain ⟨early, held⟩ := Cache.lookup_eq_some.mp found
      obtain ⟨since, granted⟩ := backed.cached _ held
      have left : state.clock + margin < state.cache.expiresAt := by linarith
      apply backed.put
      · intro since same; cases same
      · intro since value lifetime same; cases same
      · intro value asked now same
        cases same
        exact ⟨le_rfl, since, _, granted, left⟩
  | miss free missing =>
      apply backed.put
      · intro since same
        cases same
        exact le_rfl
      · intro since value lifetime same; cases same
      · intro value asked now same; cases same
  | @grant since asking value lifetime expires lasts =>
      have before := backed.asked t since asking
      have kept : state.grants ⊆ ⟨value, state.clock, expires⟩ :: state.grants :=
        List.subset_cons_self ..
      have more := backed.later kept le_rfl
      apply more.put
      · intro since same; cases same
      · intro later value lifetime same
        cases same
        exact ⟨_, List.mem_cons_self, rfl, before, le_rfl, by linarith⟩
      · intro value asked now same; cases same
  | @store since value lifetime answers =>
      have granted := backed.answered t since value lifetime answers
      have kept : ({ state with
          cache := ⟨some value, since + lifetime⟩
          stored := ⟨since, state.clock⟩ :: state.stored } : State α τ).Backed margin := by
        refine ⟨fun held same => ?_, backed.asked, backed.answered, backed.served⟩
        obtain rfl := Option.some.inj same
        exact ⟨since, granted⟩
      apply kept.put
      · intro since same; cases same
      · intro since value lifetime same; cases same
      · intro value asked now same
        cases same
        exact ⟨le_rfl, _, granted⟩
  | fail busy =>
      apply backed.put
      · intro since same; cases same
      · intro since value lifetime same; cases same
      · intro value asked now same; cases same

theorem Run.backed {start : State α τ} (run : Run margin start state) (fresh : start.Fresh) :
    state.Backed margin := by
  induction run with
  | refl => exact fresh.backed
  | tail _ moved ih =>
      obtain ⟨_, step⟩ := moved
      exact step.backed ih

/-- By this moment a renewal is written, and was asked for long enough ago. -/
structure Renewal.Settled (gap : ℚ) (renewal : Renewal) (moment : ℚ) : Prop where
  asked : renewal.asked + gap ≤ moment
  written : renewal.written ≤ moment

/-- Calls that ask one at a time ask again only when the stored value is about to run out. -/
structure State.Spaced (margin least : ℚ) (state : State α τ) : Prop where
  spaced : state.stored.Pairwise fun later earlier => earlier.Settled (least - margin) later.asked
  past : ∀ renewal ∈ state.stored, renewal.asked ≤ renewal.written ∧ renewal.written ≤ state.clock
  held : state.stored ≠ [] → state.cache.value ≠ none
  cached : ∀ latest ∈ state.stored.head?, latest.asked + least ≤ state.cache.expiresAt
  asked : ∀ t since, (state.calls t).since = some since → since ≤ state.clock ∧
    (∀ earlier ∈ state.stored, earlier.Settled (least - margin) since) ∧
      ∀ other, other ≠ t → (state.calls other).since = none
  lasting : ∀ t since value lifetime, state.calls t = .answered since value lifetime →
    least ≤ lifetime

omit [DecidableEq τ] in
theorem State.Fresh.spaced (fresh : state.Fresh) : state.Spaced margin least where
  spaced := by rw [fresh.nothing]; exact .nil
  past renewal member := by rw [fresh.nothing] at member; cases member
  held stored := absurd fresh.nothing stored
  cached latest head := by rw [fresh.nothing] at head; cases head
  asked t since busy := by rw [fresh.idle t] at busy; cases busy
  lasting t since value lifetime answers := by rw [fresh.idle t] at answers; cases answers

omit [DecidableEq τ] in
/-- When nothing good is cached, every stored value had been asked for long enough ago. -/
theorem State.Spaced.renewable (spaced : state.Spaced margin least)
    (missing : state.cache.lookup margin state.clock = none) :
    ∀ earlier ∈ state.stored, earlier.Settled (least - margin) state.clock := by
  intro earlier member
  refine ⟨?_, (spaced.past earlier member).2⟩
  have held := spaced.held (List.ne_nil_of_mem member)
  have late : state.cache.expiresAt - margin ≤ state.clock :=
    (Cache.lookup_eq_none missing).resolve_left held
  cases shape : state.stored with
  | nil =>
      rw [shape] at member
      cases member
  | cons latest rest =>
      have head : latest.asked + least ≤ state.cache.expiresAt :=
        spaced.cached latest (by rw [shape]; rfl)
      have apart := spaced.spaced
      rw [shape, List.pairwise_cons] at apart
      rcases List.mem_cons.mp (shape ▸ member) with rfl | older
      · linarith
      · obtain ⟨asked, written⟩ := spaced.past latest (by rw [shape]; exact List.mem_cons_self)
        have gap := (apart.1 earlier older).asked
        linarith

/-- A call goes on to a phase in which it does not wait for the issuer. -/
theorem State.Spaced.rest {phase : Phase α} (spaced : state.Spaced margin least)
    (rests : phase.since = none) : (state.put t phase).Spaced margin least where
  spaced := spaced.spaced
  past := spaced.past
  held := spaced.held
  cached := spaced.cached
  asked other since busy := by
    have different : other ≠ t := by
      rintro rfl
      rw [State.put_self, rests] at busy
      cases busy
    rw [State.put_other phase different] at busy
    obtain ⟨before, apart, alone⟩ := spaced.asked other since busy
    refine ⟨before, apart, fun third elsewhere => ?_⟩
    by_cases same : third = t
    · rw [same, State.put_self, rests]
    · rw [State.put_other phase same]
      exact alone third elsewhere
  lasting other since value lifetime answers := by
    have different : other ≠ t := by
      rintro rfl
      rw [State.put_self] at answers
      rw [answers] at rests
      cases rests
    rw [State.put_other phase different] at answers
    exact spaced.lasting other since value lifetime answers

/-- The one call that waits for the issuer goes on waiting. -/
theorem State.Spaced.await {phase : Phase α} {since : ℚ} (spaced : state.Spaced margin least)
    (waits : phase.since = some since) (before : since ≤ state.clock)
    (apart : ∀ earlier ∈ state.stored, earlier.Settled (least - margin) since)
    (alone : ∀ other, other ≠ t → (state.calls other).since = none)
    (lasting : ∀ since value lifetime, phase = .answered since value lifetime → least ≤ lifetime) :
    (state.put t phase).Spaced margin least where
  spaced := spaced.spaced
  past := spaced.past
  held := spaced.held
  cached := spaced.cached
  asked other later busy := by
    have own : other = t := by
      by_contra different
      rw [State.put_other phase different, alone other different] at busy
      cases busy
    rw [own, State.put_self, waits] at busy
    obtain rfl := Option.some.inj busy
    refine ⟨before, apart, fun third elsewhere => ?_⟩
    rw [own] at elsewhere
    rw [State.put_other phase elsewhere]
    exact alone third elsewhere
  lasting other later value lifetime answers := by
    by_cases same : other = t
    · rw [same, State.put_self] at answers
      exact lasting later value lifetime answers
    · rw [State.put_other phase same] at answers
      exact spaced.lasting other later value lifetime answers

/-- The one call that was waiting stores what it was granted. -/
theorem State.Spaced.settle {since lifetime : ℚ} (spaced : state.Spaced margin least)
    (answers : state.calls t = .answered since value lifetime) :
    (({ state with
      cache := ⟨some value, since + lifetime⟩
      stored := ⟨since, state.clock⟩ :: state.stored } : State α τ).put t
        (.served value (some since) state.clock)).Spaced margin least := by
  obtain ⟨before, apart, alone⟩ := spaced.asked t since (by rw [answers]; rfl)
  have long := spaced.lasting t since value lifetime answers
  constructor
  case spaced => exact List.pairwise_cons.mpr ⟨apart, spaced.spaced⟩
  case past =>
    intro renewal member
    rcases List.mem_cons.mp member with rfl | older
    · exact ⟨before, le_rfl⟩
    · exact spaced.past renewal older
  case held => exact fun _ none => by cases none
  case cached =>
    intro latest head
    obtain rfl := Option.some.inj head
    show since + least ≤ since + lifetime
    linarith
  case asked =>
    intro other later busy
    by_cases same : other = t
    · rw [same, State.put_self] at busy
      cases busy
    · rw [State.put_other _ same] at busy
      rw [show (state.calls other).since = none from alone other same] at busy
      cases busy
  case lasting =>
    intro other later value lifetime answered
    by_cases same : other = t
    · rw [same, State.put_self] at answered
      cases answered
    · rw [State.put_other _ same] at answered
      exact spaced.lasting other later value lifetime answered

theorem OneByOne.spaced (moved : OneByOne margin least state next)
    (spaced : state.Spaced margin least) : next.Spaced margin least := by
  obtain ⟨t, step, inTurn⟩ := moved
  cases step with
  | wait later forward =>
      refine ⟨spaced.spaced, fun renewal member => ?_, spaced.held, spaced.cached,
        fun t since busy => ?_, spaced.lasting⟩
      · obtain ⟨asked, written⟩ := spaced.past renewal member
        exact ⟨asked, written.trans forward⟩
      · obtain ⟨before, apart, alone⟩ := spaced.asked t since busy
        exact ⟨before.trans forward, apart, alone⟩
  | hit free found => exact spaced.rest rfl
  | miss free missing =>
      have quiet := inTurn.alone free state.clock (State.put_self _)
      apply spaced.await rfl le_rfl (spaced.renewable missing)
      · exact fun other _ => quiet other
      · intro since value lifetime same; cases same
  | @grant since asking value lifetime expires good =>
      obtain ⟨before, apart, alone⟩ := spaced.asked t since (by rw [asking]; rfl)
      have more : ({ state with grants := ⟨value, state.clock, expires⟩ :: state.grants } :
          State α τ).Spaced margin least :=
        ⟨spaced.spaced, spaced.past, spaced.held, spaced.cached, spaced.asked, spaced.lasting⟩
      apply more.await rfl before apart alone
      intro later other span same
      cases same
      exact inTurn.lasting since value lifetime (State.put_self _)
  | @store since value lifetime answers =>
      exact spaced.settle answers
  | fail busy => exact spaced.rest rfl

theorem SerialRun.spaced {start : State α τ} (run : SerialRun margin least start state)
    (fresh : start.Fresh) : state.Spaced margin least := by
  induction run with
  | refl => exact fresh.spaced
  | tail _ moved ih => exact moved.spaced ih

end

end

end ExpiringCache
