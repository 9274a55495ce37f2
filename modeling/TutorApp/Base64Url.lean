import Mathlib.Data.List.TakeWhile

set_option autoImplicit false

/-! Bytes as text in the URL-safe alphabet, without padding, and the lenient way back. -/

namespace Base64Url

/-- Six bits at a time; what is left over is filled up with zeros. -/
def sextets : List UInt8 → List Nat
  | [] => []
  | [a] => [a.toNat / 4, a.toNat % 4 * 16]
  | [a, b] => [a.toNat / 4, a.toNat % 4 * 16 + b.toNat / 16, b.toNat % 16 * 4]
  | a :: b :: c :: rest =>
      a.toNat / 4 :: (a.toNat % 4 * 16 + b.toNat / 16) :: (b.toNat % 16 * 4 + c.toNat / 64) ::
        c.toNat % 64 :: sextets rest

/-- Eight bits at a time; what does not make up a byte is dropped. -/
def octets : List Nat → List UInt8
  | w :: x :: y :: z :: rest =>
      UInt8.ofNat (w * 4 + x / 16) :: UInt8.ofNat (x % 16 * 16 + y / 4) ::
        UInt8.ofNat (y % 4 * 64 + z) :: octets rest
  | [w, x, y] => [UInt8.ofNat (w * 4 + x / 16), UInt8.ofNat (x % 16 * 16 + y / 4)]
  | [w, x] => [UInt8.ofNat (w * 4 + x / 16)]
  | _ => []

theorem ofNat_eq {n : Nat} (byte : UInt8) (same : n = byte.toNat) : UInt8.ofNat n = byte := by
  rw [same, UInt8.ofNat_toNat]

theorem octets_sextets (bytes : List UInt8) : octets (sextets bytes) = bytes := by
  fun_induction sextets bytes with
  | case1 => rfl
  | case2 a =>
      have first := a.toNat_lt
      rw [octets, ofNat_eq a (by omega)]
  | case3 a b =>
      have first := a.toNat_lt
      have second := b.toNat_lt
      rw [octets, ofNat_eq a (by omega), ofNat_eq b (by omega)]
  | case4 a b c rest ih =>
      have first := a.toNat_lt
      have second := b.toNat_lt
      have third := c.toNat_lt
      rw [octets, ih, ofNat_eq a (by omega), ofNat_eq b (by omega), ofNat_eq c (by omega)]

theorem sextets_lt (bytes : List UInt8) : ∀ n ∈ sextets bytes, n < 64 := by
  fun_induction sextets bytes with
  | case1 => nofun
  | case2 a =>
      have first := a.toNat_lt
      simp only [List.mem_cons, List.not_mem_nil, or_false, forall_eq_or_imp, forall_eq]
      omega
  | case3 a b =>
      have first := a.toNat_lt
      have second := b.toNat_lt
      simp only [List.mem_cons, List.not_mem_nil, or_false, forall_eq_or_imp, forall_eq]
      omega
  | case4 a b c rest ih =>
      have first := a.toNat_lt
      have second := b.toNat_lt
      have third := c.toNat_lt
      simp only [List.mem_cons, forall_eq_or_imp]
      exact ⟨by omega, by omega, by omega, by omega, ih⟩

theorem length_sextets (bytes : List UInt8) :
    (sextets bytes).length = (bytes.length * 4 + 2) / 3 := by
  fun_induction sextets bytes with
  | case1 | case2 | case3 => simp
  | case4 a b c rest ih =>
      simp only [List.length_cons, ih]
      omega

theorem sextets_eq_nil {bytes : List UInt8} : sextets bytes = [] ↔ bytes = [] := by
  fun_cases sextets bytes <;> simp

def digit (n : Nat) : Char :=
  if n < 26 then Char.ofNat (n + 65)
  else if n < 52 then Char.ofNat (n + 71)
  else if n < 62 then Char.ofNat (n - 4)
  else if n = 62 then '-' else '_'

/-- The digits of the plain alphabet are taken as well. -/
def value (c : Char) : Option Nat :=
  if 'A' ≤ c ∧ c ≤ 'Z' then some (c.toNat - 65)
  else if 'a' ≤ c ∧ c ≤ 'z' then some (c.toNat - 71)
  else if '0' ≤ c ∧ c ≤ '9' then some (c.toNat + 4)
  else if c = '-' ∨ c = '+' then some 62
  else if c = '_' ∨ c = '/' then some 63
  else none

theorem value_digit : ∀ n < 64, value (digit n) = some n := by decide

def encode (bytes : List UInt8) : String := String.ofList ((sextets bytes).map digit)

/-- Padding ends a text, and anything else outside the alphabet is passed over. -/
def decode (text : String) : List UInt8 :=
  octets ((text.toList.takeWhile fun c => c != '=').filterMap value)

theorem value_of_mem {bytes : List UInt8} {c : Char} (member : c ∈ (encode bytes).toList) :
    (value c).isSome = true := by
  rw [encode, String.toList_ofList] at member
  obtain ⟨n, listed, rfl⟩ := List.mem_map.mp member
  rw [value_digit n (sextets_lt bytes n listed)]
  rfl

theorem not_mem_encode {bytes : List UInt8} {c : Char} (outside : value c = none) :
    c ∉ (encode bytes).toList := by
  intro member
  have inside := value_of_mem member
  rw [outside] at inside
  cases inside

theorem encode_eq_empty {bytes : List UInt8} : encode bytes = "" ↔ bytes = [] := by
  rw [encode, String.ofList_eq_empty_iff, List.map_eq_nil_iff, sextets_eq_nil]

theorem values_digits {digits : List Nat} (small : ∀ n ∈ digits, n < 64) :
    (digits.map digit).filterMap value = digits := by
  induction digits with
  | nil => rfl
  | cons n rest ih =>
      rw [List.forall_mem_cons] at small
      rw [List.map_cons, List.filterMap_cons_some (value_digit n small.1), ih small.2]

theorem decode_encode (bytes : List UInt8) : decode (encode bytes) = bytes := by
  have unpadded : (encode bytes).toList.takeWhile (fun c => c != '=') = (encode bytes).toList := by
    rw [List.takeWhile_eq_self_iff]
    intro c member
    rw [bne_iff_ne]
    rintro rfl
    exact not_mem_encode (by decide) member
  rw [decode, unpadded, encode, String.toList_ofList, values_digits (sextets_lt bytes),
    octets_sextets]

/-- Two bytes are three digits. -/
example : encode [251, 255] = "-_8" ∧ decode "+/8=" = [251, 255] := by decide +kernel

end Base64Url
