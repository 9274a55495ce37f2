import TutorApp.Prisma
import Mathlib.Data.List.Sort

set_option autoImplicit false

namespace TutorApp

open Js (Instant Json)

/-- The parts of a parsed URL that the room check reads. -/
structure Url where
  protocol : String
  username : String
  password : String
  hostname : String
  deriving Repr, DecidableEq

/-- Encryption at rest: a nonce and a text give an envelope, which reads back or not. -/
structure Cipher where
  encrypt : String → String → String
  decrypt : String → Option String

/-- An OAuth client of this deployment. -/
structure Credentials where
  clientId : String
  clientSecret : String
  deriving Repr, DecidableEq

/-- The claims of a connection request, as far as they are read. -/
structure ConnectClaims where
  sub : Option Id
  provider : Option String
  use : Option String
  deriving Repr, DecidableEq

/-- The deployment's configuration, and the functions of the runtime and the database whose
definitions are not in the repository. -/
structure Platform where
  /-- The order of the database's collation. -/
  collate : String → String → Bool
  /-- `equals` with `mode: 'insensitive'`, of a stored text and the text asked for. -/
  equalsInsensitive : String → String → Bool
  toLowerCase : String → String
  /-- `normalize('NFKD')`. -/
  normalize : String → String
  /-- `new Date(text)`, with `none` for an invalid date. -/
  parseDate : String → Option Instant
  parseUrl : String → Option Url
  /-- The first issue a schema reports about values it rejects for their shape. -/
  shapeIssue : List Json → String
  /-- The sign of `localeCompare`. -/
  localeCompare : String → String → Int
  /-- The last local midnight at or before an instant. -/
  startOfDay : Instant → Instant
  maxUploadMb : Nat
  /-- The environment schema refuses to boot beyond this. -/
  maxUploadMb_le : maxUploadMb ≤ 100
  maxSchoolStorageMb : Nat
  inviteTtlHours : Nat
  inviteUrlBase : String
  publicApiUrl : Option String
  zoomClient : Option Credentials
  googleClient : Option Credentials
  /-- Built from `MEETING_TOKEN_SECRET` when that is set. -/
  cipher : Option Cipher
  /-- The claims of a state token whose signature and expiry hold at an instant. -/
  verifyState : Instant → String → Option ConnectClaims

/-- What one request draws from outside: the clock, generated ids and secrets. -/
structure Draw where
  now : Instant
  id : Id
  secondId : Id
  /-- `randomBytes` or `Math.random`, as text. -/
  random : String
  passwordHash : String
  nonce : String
  secondNonce : String
  deriving Repr, DecidableEq

/-- `orderBy: { …: 'asc' }` on a text column; rows that compare equal keep their order. -/
def sortByText {α : Type} (platform : Platform) (column : α → String) (rows : List α) : List α :=
  rows.insertionSort fun left right => platform.collate (column left) (column right) = true

/-- `orderBy: { …: 'asc' }` on a time column. -/
def sortByTime {α : Type} (column : α → Instant) (rows : List α) : List α :=
  rows.insertionSort fun left right => column left ≤ column right

/-- `orderBy: { …: 'desc' }` on a time column. -/
def sortByTimeDesc {α : Type} (column : α → Instant) (rows : List α) : List α :=
  rows.insertionSort fun left right => column right ≤ column left

theorem mem_sortByText {α : Type} {platform : Platform} {column : α → String} {rows : List α}
    {row : α} : row ∈ sortByText platform column rows ↔ row ∈ rows := List.mem_insertionSort _

theorem mem_sortByTime {α : Type} {column : α → Instant} {rows : List α} {row : α} :
    row ∈ sortByTime column rows ↔ row ∈ rows := List.mem_insertionSort _

theorem mem_sortByTimeDesc {α : Type} {column : α → Instant} {rows : List α} {row : α} :
    row ∈ sortByTimeDesc column rows ↔ row ∈ rows := List.mem_insertionSort _

/-- An id a query cannot be asked with: the client refuses `null` before any statement. -/
def queryId : Js.Field Id → Service Id
  | .given id => .ok id
  | _ => .error .internal

def orNotFound {α : Type} (found : Option α) (message : String) : Service α :=
  match found with
  | some value => .ok value
  | none => .error (.notFound message)

theorem orNotFound_ok {α : Type} {found : Option α} {message : String} {value : α} :
    orNotFound found message = .ok value ↔ found = some value := by
  cases found <;> simp [orNotFound]

/-- A timestamp column takes no date before the year one. It takes every later one a `Date` can
hold, also those that `readDate` does not give back. -/
def timestampColumn (date : Option Instant) : Service Instant :=
  match date with
  | some instant => if -62135596800000 ≤ instant then .ok instant else .error .internal
  | none => .error .internal

theorem timestampColumn_ok {date : Option Instant} {instant : Instant}
    (accepted : timestampColumn date = .ok instant) : date = some instant := by
  unfold timestampColumn at accepted
  split at accepted
  · split at accepted
    · rw [Except.ok.inj accepted]
    · cases accepted
  · cases accepted

/-- A stored date as the client reads it back: an invalid one from the year 10000 on. -/
def readDate (stored : Instant) : Option Instant :=
  if stored < 253402300800000 then some stored else none

/-- `toISOString`, which throws on an invalid date. -/
def toISOString (date : Option Instant) : Service Instant :=
  match date with
  | some instant => .ok instant
  | none => .error .internal

/-- `date?.toISOString() ?? null` of a stored date. -/
def isoOrNull : Option Instant → Service (Option Instant)
  | none => .ok none
  | some stored => (toISOString (readDate stored)).map some

end TutorApp
