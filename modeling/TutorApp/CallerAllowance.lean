import TutorApp.Allowances
import TutorApp.SignedTokens

set_option autoImplicit false

namespace TutorApp

open Js (Instant)

/-- What the guard looks at: whoever an earlier guard put on the request, the header, and the
address as the server and as the socket have it. -/
structure CallerRequest where
  user : Option Id
  authorization : Option String
  ip : Option String
  remoteAddress : Option String

namespace ThrottlerByCallerGuard

/-- What follows `Bearer `. -/
def bearer (header : String) : Option String :=
  if "Bearer ".toList.isPrefixOf header.toList then
    some (Js.trim (String.ofList (header.toList.drop 7)))
  else none

def accountFrom (jwt : JwtService) (now : Instant) (request : CallerRequest) : Option Id :=
  match request.user.filter (· ≠ "") with
  | some id => some id
  | none => (request.authorization.bind bearer).bind fun token =>
      (jwt.verify now token).map fun claims => claims.sub

def addressOf (request : CallerRequest) : String :=
  (request.ip.or request.remoteAddress).getD "unknown"

/-- An account without an id is as good as none. -/
def getTracker (jwt : JwtService) (now : Instant) (request : CallerRequest) : String :=
  match (accountFrom jwt now request).filter (· ≠ "") with
  | some account => "user:" ++ account
  | none => "ip:" ++ addressOf request

end ThrottlerByCallerGuard

open ThrottlerByCallerGuard Allowances

/-- A caller without other tokens than these, and at one of these addresses: the guard is the first
to see its request, and what it sends for a token was given to it or is no signed token. -/
structure CallerRequest.From (jwt : JwtService) (held : List TokenPayload) (addresses : List String)
    (request : CallerRequest) : Prop where
  first : request.user = none
  presents : ∀ token ∈ request.authorization.bind bearer, jwt.Presentable held token
  address : addressOf request ∈ addresses

/-- The counters such a caller can come under: one for each account it has a token of, and one for
each of its addresses. -/
def countersOf (held : List TokenPayload) (addresses : List String) : Finset String :=
  ((held.map fun payload => "user:" ++ payload.claims.sub) ++
    addresses.map fun address => "ip:" ++ address).toFinset

section

variable {jwt : JwtService} {now : Instant} {held : List TokenPayload} {addresses : List String}
  {request : CallerRequest}

theorem mem_countersOf {counter : String} : counter ∈ countersOf held addresses ↔
    (∃ payload ∈ held, "user:" ++ payload.claims.sub = counter) ∨
      ∃ address ∈ addresses, "ip:" ++ address = counter := by
  simp only [countersOf, List.mem_toFinset, List.mem_append, List.mem_map]

/-- No account is counted as an address. -/
theorem user_ne_ip (account address : String) : "user:" ++ account ≠ "ip:" ++ address := by
  intro same
  have characters := congrArg String.toList same
  simp at characters

/-- Whatever such a caller sends, it is counted as itself. -/
theorem getTracker_mem (sent : request.From jwt held addresses) :
    getTracker jwt now request ∈ countersOf held addresses := by
  rw [mem_countersOf]
  unfold getTracker
  cases named : (accountFrom jwt now request).filter (· ≠ "") with
  | none => exact .inr ⟨_, sent.address, rfl⟩
  | some account =>
      obtain ⟨known, -⟩ := Option.filter_eq_some_iff.mp named
      unfold accountFrom at known
      rw [sent.first] at known
      obtain ⟨token, given, verified⟩ := Option.bind_eq_some_iff.mp known
      obtain ⟨claims, passes, rfl⟩ := Option.map_eq_some_iff.mp verified
      obtain ⟨payload, listed, -, rfl⟩ := (sent.presents token given).signed_of_verify passes
      exact .inl ⟨payload, listed, rfl⟩

/-- Whoever shares a counter with such a caller is of an account it has a token of, or has no
account and one of its addresses. -/
theorem shared_counter (shared : getTracker jwt now request ∈ countersOf held addresses) :
    (∃ payload ∈ held, accountFrom jwt now request = some payload.claims.sub) ∨
      (accountFrom jwt now request).filter (· ≠ "") = none ∧ addressOf request ∈ addresses := by
  rw [mem_countersOf] at shared
  unfold getTracker at shared
  cases named : (accountFrom jwt now request).filter (· ≠ "") with
  | none =>
      rw [named] at shared
      rcases shared with ⟨payload, -, same⟩ | ⟨address, listed, same⟩
      · exact absurd same (user_ne_ip _ _)
      · exact .inr ⟨rfl, (String.append_right_inj _).mp same ▸ listed⟩
  | some account =>
      rw [named] at shared
      rcases shared with ⟨payload, listed, same⟩ | ⟨address, -, same⟩
      · obtain ⟨known, -⟩ := Option.filter_eq_some_iff.mp named
        exact .inl ⟨payload, listed, by rw [known, (String.append_right_inj _).mp same]⟩
      · exact absurd same.symm (user_ne_ip _ _)

theorem card_countersOf : (countersOf held addresses).card ≤
    (held.map fun payload => payload.claims.sub).toFinset.card +
      addresses.toFinset.card := by
  have accounts : (held.map fun payload => "user:" ++ payload.claims.sub).toFinset =
      (held.map fun payload => payload.claims.sub).toFinset.image ("user:" ++ ·) := by
    ext counter
    simp
  have places : (addresses.map fun address => "ip:" ++ address).toFinset =
      addresses.toFinset.image ("ip:" ++ ·) := by
    ext counter
    simp
  rw [countersOf, List.toFinset_append, accounts, places]
  exact (Finset.card_union_le _ _).trans (Nat.add_le_add Finset.card_image_le Finset.card_image_le)

/-- A request with the time it comes in, and the route it is for: a handler under one of its
throttlers. -/
structure Arrival (ρ : Type) where
  route : ρ
  now : Instant
  request : CallerRequest

/-- What the limiter counts a request under. -/
def Arrival.counter {ρ : Type} (jwt : JwtService) (arrival : Arrival ρ) : ρ × String :=
  (arrival.route, getTracker jwt arrival.now arrival.request)

/-- Whatever an outsider sends comes under a tracker of its own. On each route the limiter therefore
lets it through no more often than the limit, once for each account it has a token of and once for
each of its addresses, and decides on everybody under another tracker as if the outsider had sent
nothing. Whoever shares a tracker with it is of such an account, or has no account and such an
address. -/
theorem callers_are_counted_apart {ρ : Type} [DecidableEq ρ] {limiter : Limiter (ρ × String)}
    {limits : ρ → Nat} (set : ∀ key, limiter.limit key = limits key.1)
    {arrivals : List (Arrival ρ)} {outsider : Arrival ρ → Bool}
    (sent : ∀ arrival ∈ arrivals, outsider arrival = true →
      arrival.request.From jwt held addresses) :
    let trackers := countersOf held addresses
    let decided := decisions limiter [] (arrivals.map (Arrival.counter jwt))
    (∀ arrival ∈ arrivals, outsider arrival = true → (arrival.counter jwt).2 ∈ trackers) ∧
    (∀ route, (decided.filter fun decision => decide (decision.1.1 = route ∧
        decision.1.2 ∈ trackers)).countP Prod.snd ≤
      ((held.map fun payload => payload.claims.sub).toFinset.card +
        addresses.toFinset.card) * limits route) ∧
    (decided.filter fun decision => decide (decision.1.2 ∉ trackers)) =
      (decisions limiter [] ((arrivals.filter fun arrival => !outsider arrival).map
        (Arrival.counter jwt))).filter (fun decision => decide (decision.1.2 ∉ trackers)) ∧
    ∀ now request, getTracker jwt now request ∈ trackers →
      (∃ payload ∈ held, accountFrom jwt now request = some payload.claims.sub) ∨
        (accountFrom jwt now request).filter (· ≠ "") = none ∧ addressOf request ∈ addresses := by
  intro trackers decided
  have own : ∀ arrival ∈ arrivals, outsider arrival = true →
      (arrival.counter jwt).2 ∈ trackers :=
    fun arrival member outside => getTracker_mem (sent arrival member outside)
  refine ⟨own, fun route => ?_, ?_, fun now request => shared_counter⟩
  · rw [decisions_filter fun key : ρ × String => decide (key.1 = route ∧ key.2 ∈ trackers)]
    have inside : ∀ key ∈ (arrivals.map (Arrival.counter jwt)).filter
        (fun key => decide (key.1 = route ∧ key.2 ∈ trackers)), key ∈ {route} ×ˢ trackers := by
      intro key member
      obtain ⟨here, mine⟩ := of_decide_eq_true (List.mem_filter.mp member).2
      exact Finset.mem_product.mpr ⟨Finset.mem_singleton.mpr here, mine⟩
    have each : ∑ key ∈ {route} ×ˢ trackers, limiter.limit key = trackers.card * limits route := by
      simp [set]
    refine (admitted_le _ inside).trans ?_
    rw [each]
    exact Nat.mul_le_mul_right _ card_countersOf
  · rw [decisions_filter fun key : ρ × String => decide (key.2 ∉ trackers),
      decisions_filter fun key : ρ × String => decide (key.2 ∉ trackers)]
    congr 1
    rw [List.filter_map, List.filter_map, List.filter_filter]
    congr 1
    apply List.filter_congr
    intro arrival member
    cases outside : outsider arrival with
    | false => simp
    | true => simp [own arrival member outside]

end

def forgedRequest (mark : String) : CallerRequest :=
  ⟨none, some ("Bearer forged" ++ mark), some "10.0.0.9", none⟩

/-- Somebody signs in from elsewhere between the second and the third. -/
def flood : List (Arrival String) :=
  [⟨"sign-in", 1772359200000, forgedRequest "1"⟩, ⟨"sign-in", 1772359200001, forgedRequest "2"⟩,
    ⟨"sign-in", 1772359200002, none, none, some "10.0.0.7", none⟩,
    ⟨"sign-in", 1772359200003, forgedRequest "3"⟩]

theorem flood_outside : ∀ arrival ∈ flood,
    decide (arrival.request.ip = some "10.0.0.9") = true →
      arrival.request.From JwtService.clear [] ["10.0.0.9"] := by
  intro arrival member outside
  have unsigned : ∀ arrival ∈ flood, ∀ token ∈ arrival.request.authorization.bind bearer,
      JwtService.clear.decode token = none := by decide
  have placed : ∀ arrival ∈ flood, arrival.request.ip = some "10.0.0.9" →
      arrival.request.user = none ∧ addressOf arrival.request ∈ ["10.0.0.9"] := by decide
  obtain ⟨first, address⟩ := placed arrival member (of_decide_eq_true outside)
  refine ⟨first, fun token presented payload decoded => ?_, address⟩
  rw [unsigned arrival member token presented] at decoded
  cases decoded

/-- The third is turned away, and the one who signs in is not. -/
theorem flood_is_one_caller :
    let limiter : Limiter (String × String) := .counting fun _ => 2
    let decided := decisions limiter [] (flood.map (Arrival.counter .clear))
    decided.map Prod.snd = [true, true, true, false] ∧
    (decided.filter fun decision => decide (decision.1.1 = "sign-in" ∧
      decision.1.2 ∈ countersOf [] ["10.0.0.9"])).countP Prod.snd ≤ 2 := by
  intro limiter decided
  obtain ⟨-, bounded, -⟩ := @callers_are_counted_apart .clear [] ["10.0.0.9"] _ _ limiter
    (fun _ => 2) (fun _ => rfl) flood _ flood_outside
  exact ⟨by decide, bounded "sign-in"⟩

end TutorApp
