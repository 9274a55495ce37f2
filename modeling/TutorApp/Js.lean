import Mathlib.Data.Rat.Floor
import Mathlib.Data.Int.Log

set_option autoImplicit false

namespace Js

/-- A property of a request body: not sent, sent as `null`, or sent with a value. -/
inductive Field (α : Type) where
  | absent
  | null
  | given (value : α)
  deriving Repr, DecidableEq

namespace Field

variable {α : Type}

/-- `field ?? fallback`. -/
def getD : Field α → α → α
  | given value, _ => value
  | _, fallback => fallback

/-- The value after `field ?? null`. -/
def toOption : Field α → Option α
  | given value => some value
  | _ => none

def isAbsent : Field α → Bool
  | absent => true
  | _ => false

def map {β : Type} (f : α → β) : Field α → Field β
  | absent => absent
  | null => null
  | given value => given (f value)

@[simp] theorem getD_given (value fallback : α) : (given value).getD fallback = value := rfl

@[simp] theorem getD_absent (fallback : α) : (absent : Field α).getD fallback = fallback := rfl

@[simp] theorem getD_null (fallback : α) : (null : Field α).getD fallback = fallback := rfl

@[simp] theorem isAbsent_map {β : Type} (f : α → β) (field : Field α) :
    (field.map f).isAbsent = field.isAbsent := by
  cases field <;> rfl

@[simp] theorem toOption_map {β : Type} (f : α → β) (field : Field α) :
    (field.map f).toOption = field.toOption.map f := by
  cases field <;> rfl

@[simp] theorem toOption_given (value : α) : (given value).toOption = some value := rfl

end Field

/-- A JSON value; a number is the exact one the text spells. -/
inductive Json where
  | null
  | bool (value : Bool)
  | num (value : ℚ)
  | str (value : String)
  | arr (items : List Json)
  | obj (fields : List (String × Json))

mutual

/-- Whether two values are the same, members in the same order. -/
def Json.beq : Json → Json → Bool
  | .null, .null => true
  | .bool left, .bool right => left == right
  | .num left, .num right => left == right
  | .str left, .str right => left == right
  | .arr left, .arr right => Json.beqItems left right
  | .obj left, .obj right => Json.beqFields left right
  | _, _ => false

def Json.beqItems : List Json → List Json → Bool
  | [], [] => true
  | left :: lefts, right :: rights => Json.beq left right && Json.beqItems lefts rights
  | _, _ => false

def Json.beqFields : List (String × Json) → List (String × Json) → Bool
  | [], [] => true
  | (name, left) :: lefts, (other, right) :: rights =>
      name == other && Json.beq left right && Json.beqFields lefts rights
  | _, _ => false

end

mutual

theorem Json.beq_iff : ∀ left right : Json, Json.beq left right = true ↔ left = right
  | .null, right => by cases right <;> simp [Json.beq]
  | .bool left, right => by cases right <;> simp [Json.beq]
  | .num left, right => by cases right <;> simp [Json.beq]
  | .str left, right => by cases right <;> simp [Json.beq]
  | .arr left, right => by cases right <;> simp [Json.beq, Json.beqItems_iff left]
  | .obj left, right => by cases right <;> simp [Json.beq, Json.beqFields_iff left]

theorem Json.beqItems_iff :
    ∀ left right : List Json, Json.beqItems left right = true ↔ left = right
  | [], right => by cases right <;> simp [Json.beqItems]
  | left :: lefts, right => by
      cases right <;> simp [Json.beqItems, Json.beq_iff left, Json.beqItems_iff lefts]

theorem Json.beqFields_iff :
    ∀ left right : List (String × Json), Json.beqFields left right = true ↔ left = right
  | [], right => by cases right <;> simp [Json.beqFields]
  | (name, left) :: lefts, right => by
      cases right <;> simp [Json.beqFields, Json.beq_iff left, Json.beqFields_iff lefts, Prod.ext_iff]

end

instance : DecidableEq Json := fun left right => decidable_of_iff _ (Json.beq_iff left right)

/-- `value[name]`, where a missing property is `undefined`. -/
def Json.get? : Json → String → Option Json
  | obj fields, name => (fields.find? fun field => field.1 == name).map Prod.snd
  | _, _ => none

/-- WhiteSpace and LineTerminator of the ECMAScript grammar. -/
def isSpace (c : Char) : Bool :=
  (0x9 ≤ c.toNat && c.toNat ≤ 0xd) || c.toNat == 0x20 || c.toNat == 0xa0 || c.toNat == 0x1680 ||
    (0x2000 ≤ c.toNat && c.toNat ≤ 0x200a) || c.toNat == 0x2028 || c.toNat == 0x2029 ||
    c.toNat == 0x202f || c.toNat == 0x205f || c.toNat == 0x3000 || c.toNat == 0xfeff

def trimList (text : List Char) : List Char :=
  ((text.dropWhile isSpace).reverse.dropWhile isSpace).reverse

/-- `String.prototype.trim`. -/
def trim (text : String) : String := String.ofList (trimList text.toList)

/-- The number of UTF-16 code units, which is what `length` counts. -/
def utf16Length (text : String) : Nat :=
  (text.toList.map fun c => if c.toNat < 0x10000 then 1 else 2).sum

/-- `slice(0, limit)` over code units. The lone half of a character cut in two is stored as
U+FFFD, which is what encoding makes of it. -/
def sliceList : Nat → List Char → List Char
  | _, [] => []
  | limit, c :: rest =>
      let width := if c.toNat < 0x10000 then 1 else 2
      if width ≤ limit then c :: sliceList (limit - width) rest
      else if limit = 0 then [] else ['\uFFFD']

def slice (limit : Nat) (text : String) : String := String.ofList (sliceList limit text.toList)

/-- A present text that trims to nothing is `null`, the idiom `text?.trim() || null`. -/
def blankToNull (text : Option String) : Option String :=
  match text.map trim with
  | some trimmed => if trimmed = "" then none else some trimmed
  | none => none

def splitList (separator : Char) : List Char → List (List Char)
  | [] => [[]]
  | c :: rest =>
      match splitList separator rest with
      | [] => [[c]]
      | piece :: pieces => if c = separator then [] :: piece :: pieces else (c :: piece) :: pieces

/-- `split(separator)` by one character. -/
def split (separator : Char) (text : String) : List String :=
  (splitList separator text.toList).map String.ofList

/-- Milliseconds since the epoch. -/
abbrev Instant := Int

/-- The largest magnitude of a time value a `Date` can hold. -/
def maxTimeValue : Int := 8640000000000000

/-- `new Date(ms)`: out of range is an invalid date, a fraction is cut off. -/
def dateOfMs (ms : ℚ) : Option Instant :=
  let whole := if 0 ≤ ms then ⌊ms⌋ else ⌈ms⌉
  if -maxTimeValue ≤ whole && whole ≤ maxTimeValue then some whole else none

/-- The nearest whole number, a tie going to the even one. -/
def roundHalfEven (value : ℚ) : Int :=
  let below := ⌊value⌋
  if value - below < 1 / 2 then below
  else if 1 / 2 < value - below then below + 1
  else below + below % 2

@[simp] theorem roundHalfEven_intCast (whole : Int) : roundHalfEven whole = whole := by
  simp [roundHalfEven]

/-- The nearest double, a tie going to the even one; `none` beyond the largest. -/
def nearestDouble (value : ℚ) : Option ℚ :=
  let unit : ℚ := 2 ^ max (Int.log 2 |value| - 52) (-1074)
  let rounded := roundHalfEven (value / unit) * unit
  if |rounded| < 2 ^ 1024 then some rounded else none

/-- A whole multiple of the unit is a double already. -/
theorem nearestDouble_multiple {value : ℚ} {whole : Int} (small : |value| < 2 ^ 1024)
    (multiple : value = whole * 2 ^ max (Int.log 2 |value| - 52) (-1074)) :
    nearestDouble value = some value := by
  have positive : (0 : ℚ) < 2 ^ max (Int.log 2 |value| - 52) (-1074) := zpow_pos two_pos _
  have units : value / 2 ^ max (Int.log 2 |value| - 52) (-1074) = whole :=
    (div_eq_iff positive.ne').mpr multiple
  simp only [nearestDouble, units, roundHalfEven_intCast, ← multiple, if_pos small]

theorem nearestDouble_intCast {whole : Int} (small : |whole| < 2 ^ 53) :
    nearestDouble whole = some (whole : ℚ) := by
  have bound : |(whole : ℚ)| < 2 ^ 53 := by exact_mod_cast small
  have exponent : max (Int.log 2 |(whole : ℚ)| - 52) (-1074) ≤ 0 := by
    refine max_le ?_ (by norm_num)
    rcases eq_or_ne whole 0 with rfl | nonzero
    · simp
    · have magnitude : (0 : ℚ) < |(whole : ℚ)| := abs_pos.mpr (Int.cast_ne_zero.mpr nonzero)
      have below : Int.log 2 |(whole : ℚ)| < 53 :=
        (Int.lt_zpow_iff_log_lt Nat.one_lt_two magnitude).mp (by exact_mod_cast bound)
      omega
  obtain ⟨steps, down⟩ := Int.le.dest exponent
  have small : |(whole : ℚ)| < 2 ^ 1024 :=
    bound.trans (pow_lt_pow_right₀ one_lt_two (by decide))
  apply nearestDouble_multiple small
  show (whole : ℚ) = (whole * 2 ^ steps : ℤ) * _
  rw [Int.cast_mul, Int.cast_pow, Int.cast_ofNat, mul_assoc, ← zpow_natCast, ← zpow_add₀ two_ne_zero,
    add_comm, down, zpow_zero, mul_one]

def digitValue (c : Char) : Option Nat :=
  if '0' ≤ c ∧ c ≤ '9' then some (c.toNat - '0'.toNat) else none

def hexValue (c : Char) : Option Nat :=
  if '0' ≤ c ∧ c ≤ '9' then some (c.toNat - '0'.toNat)
  else if 'a' ≤ c ∧ c ≤ 'f' then some (c.toNat - 'a'.toNat + 10)
  else if 'A' ≤ c ∧ c ≤ 'F' then some (c.toNat - 'A'.toNat + 10)
  else none

/-- A nonempty run of digits below `base`, read to its end. -/
def radixDigits (base : Nat) : List Char → Nat → Option Nat
  | [], value => some value
  | c :: rest, value =>
      match hexValue c with
      | some digit => if digit < base then radixDigits base rest (value * base + digit) else none
      | none => none

/-- The decimal digits at the front, their value, their count and what follows. -/
def takeDigits : List Char → Nat → Nat → Nat × Nat × List Char
  | [], value, count => (value, count, [])
  | c :: rest, value, count =>
      match digitValue c with
      | some digit => takeDigits rest (value * 10 + digit) (count + 1)
      | none => (value, count, c :: rest)

/-- The exponent part of a decimal literal, to the end of the text. -/
def exponent : List Char → Option Int
  | [] => some 0
  | c :: rest =>
      if c = 'e' ∨ c = 'E' then
        let (negative, digits) : Bool × List Char := match rest with
          | '-' :: digits => (true, digits)
          | '+' :: digits => (false, digits)
          | digits => (false, digits)
        let (value, count, after) := takeDigits digits 0 0
        if count = 0 ∨ after ≠ [] then none
        else some (if negative then -(value : Int) else value)
      else none

/-- An unsigned decimal literal, not rounded yet. -/
def unsignedDecimal (text : List Char) : Option ℚ :=
  let (whole, wholeCount, rest) := takeDigits text 0 0
  let (fraction, fractionCount, after) := match rest with
    | '.' :: digits => takeDigits digits 0 0
    | other => (0, 0, other)
  if wholeCount + fractionCount = 0 then none
  else (exponent after).map fun power =>
    ((whole : ℚ) + fraction / 10 ^ fractionCount) * 10 ^ power

/-- The number a text spells, not rounded yet. -/
def numericText (text : String) : Option ℚ :=
  match trimList text.toList with
  | [] => some 0
  | '0' :: 'x' :: c :: digits | '0' :: 'X' :: c :: digits =>
      (radixDigits 16 (c :: digits) 0).map Nat.cast
  | '0' :: 'o' :: c :: digits | '0' :: 'O' :: c :: digits =>
      (radixDigits 8 (c :: digits) 0).map Nat.cast
  | '0' :: 'b' :: c :: digits | '0' :: 'B' :: c :: digits =>
      (radixDigits 2 (c :: digits) 0).map Nat.cast
  | '-' :: rest => (unsignedDecimal rest).map fun value => -value
  | '+' :: rest => unsignedDecimal rest
  | rest => unsignedDecimal rest

def stringToNumber (text : String) : Option ℚ := (numericText text).bind nearestDouble

example : stringToNumber "1440.0000000000000001" = some 1440 := by decide +kernel

/-- `Number(String(value))` for an element of an array, which joins to the text of
its elements; `null` joins to nothing. -/
def Json.elementNumber : Json → Option ℚ
  | null => some 0
  | bool _ => none
  | num value => nearestDouble value
  | str text => stringToNumber text
  | arr [] => some 0
  | arr [item] => item.elementNumber
  | arr (_ :: _ :: _) => none
  | obj _ => none

/-- `Number(value)`, with `none` for a result that is not a finite number. -/
def Json.toNumber : Json → Option ℚ
  | bool value => some (if value then 1 else 0)
  | other => other.elementNumber

end Js
