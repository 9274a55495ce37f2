import Mathlib.Data.List.TakeWhile

set_option autoImplicit false

/-! Text as percent-encoded UTF-8, named values as one form-encoded query, and the way back. -/

namespace PercentEncoding

def digit (n : Nat) : Char := if n < 10 then Char.ofNat (n + 48) else Char.ofNat (n + 55)

/-- Digits of either case are read. -/
def value (c : Char) : Option Nat :=
  if '0' ≤ c ∧ c ≤ '9' then some (c.toNat - 48)
  else if 'A' ≤ c ∧ c ≤ 'F' then some (c.toNat - 55)
  else if 'a' ≤ c ∧ c ≤ 'f' then some (c.toNat - 87)
  else none

def escape (byte : UInt8) : List Char := ['%', digit (byte.toNat / 16), digit (byte.toNat % 16)]

/-- Which characters stand for themselves; the one that begins an escape never does. -/
structure Scheme where
  keeps : Char → Bool
  marks : keeps '%' = false

def bytesOf (text : List Char) : List UInt8 := text.flatMap String.utf8EncodeChar

def textOf (bytes : List UInt8) : Option String := String.fromUTF8? bytes.toByteArray

/-- The bytes a text stands for, with `none` where an escape is cut short or has no digits. -/
def bytesRead : List Char → Option (List UInt8)
  | [] => some []
  | '%' :: high :: low :: rest =>
      match value high, value low with
      | some high, some low => (bytesRead rest).map fun bytes => UInt8.ofNat (16 * high + low) :: bytes
      | _, _ => none
  | c :: rest =>
      if c = '%' then none
      else (bytesRead rest).map fun bytes => String.utf8EncodeChar c ++ bytes

def decodeList (text : List Char) : Option String := (bytesRead text).bind textOf

def decode (text : String) : Option String := decodeList text.toList

section

variable (scheme : Scheme)

def encodeChar (c : Char) : List Char :=
  if scheme.keeps c then [c] else (String.utf8EncodeChar c).flatMap escape

def encodeList (text : List Char) : List Char := text.flatMap (encodeChar scheme)

def encode (text : String) : String := String.ofList (encodeList scheme text.toList)

end

theorem value_digit {n : Nat} (small : n < 16) : value (digit n) = some n := by
  have table : ∀ k ∈ List.range 16, value (digit k) = some k := by decide
  exact table n (List.mem_range.mpr small)

theorem textOf_bytesOf (text : String) : textOf (bytesOf text.toList) = some text := by
  have bytes : (bytesOf text.toList).toByteArray = text.toByteArray := String.utf8Encode_toList
  rw [textOf, bytes]
  exact dif_pos text.isValidUTF8

theorem bytesRead_escape (byte : UInt8) (rest : List Char) :
    bytesRead (escape byte ++ rest) = (bytesRead rest).map fun bytes => byte :: bytes := by
  have bound := byte.toNat_lt
  have high : value (digit (byte.toNat / 16)) = some (byte.toNat / 16) := value_digit (by omega)
  have low : value (digit (byte.toNat % 16)) = some (byte.toNat % 16) := value_digit (by omega)
  have whole : 16 * (byte.toNat / 16) + byte.toNat % 16 = byte.toNat := by omega
  simp only [escape, List.cons_append, List.nil_append, bytesRead, high, low, whole,
    UInt8.ofNat_toNat]

theorem bytesRead_escapes (bytes : List UInt8) (rest : List Char) :
    bytesRead (bytes.flatMap escape ++ rest) = (bytesRead rest).map fun later => bytes ++ later := by
  induction bytes with
  | nil => simp
  | cons byte bytes ih =>
      rw [List.flatMap_cons, List.append_assoc, bytesRead_escape, ih, Option.map_map]
      rfl

theorem bytesRead_plain {c : Char} (plain : c ≠ '%') (rest : List Char) :
    bytesRead (c :: rest) = (bytesRead rest).map fun bytes => String.utf8EncodeChar c ++ bytes := by
  rw [bytesRead.eq_def]
  split
  · contradiction
  · rename_i same
    exact absurd (List.cons.inj same).1 plain
  · rename_i same
    obtain ⟨rfl, rfl⟩ := List.cons.inj same
    rw [if_neg plain]

section

variable {scheme : Scheme}

theorem keeps_ne {c : Char} (kept : scheme.keeps c = true) : c ≠ '%' := by
  intro same
  rw [same, scheme.marks] at kept
  cases kept

theorem bytesRead_encodeChar (c : Char) (rest : List Char) :
    bytesRead (encodeChar scheme c ++ rest) =
      (bytesRead rest).map fun bytes => String.utf8EncodeChar c ++ bytes := by
  unfold encodeChar
  split
  · rename_i kept
    exact bytesRead_plain (keeps_ne kept) rest
  · exact bytesRead_escapes (String.utf8EncodeChar c) rest

theorem bytesRead_encodeList (text : List Char) :
    bytesRead (encodeList scheme text) = some (bytesOf text) := by
  induction text with
  | nil => rfl
  | cons c text ih =>
      rw [encodeList, List.flatMap_cons, bytesRead_encodeChar]
      rw [encodeList] at ih
      rw [ih]
      rfl

/-- Whatever the scheme keeps, what it wrote is read as what was written. -/
theorem decodeList_encodeList (text : String) :
    decodeList (encodeList scheme text.toList) = some text := by
  rw [decodeList, bytesRead_encodeList, Option.bind_some, textOf_bytesOf]

theorem decode_encode (text : String) : decode (encode scheme text) = some text := by
  rw [decode, encode, String.toList_ofList, decodeList_encodeList]

theorem mem_escape {c : Char} {byte : UInt8} (member : c ∈ escape byte) :
    c = '%' ∨ c.isAlphanum = true := by
  have bound := byte.toNat_lt
  have alphanumeric : ∀ n < 16, (digit n).isAlphanum = true := by decide
  simp only [escape, List.mem_cons, List.not_mem_nil, or_false] at member
  rcases member with rfl | rfl | rfl
  · exact .inl rfl
  · exact .inr (alphanumeric _ (by omega))
  · exact .inr (alphanumeric _ (by omega))

/-- Nothing but what the scheme keeps and what escapes are made of. -/
theorem mem_encodeList {c : Char} {text : List Char} (member : c ∈ encodeList scheme text) :
    scheme.keeps c = true ∨ c = '%' ∨ c.isAlphanum = true := by
  obtain ⟨letter, -, written⟩ := List.mem_flatMap.mp member
  unfold encodeChar at written
  split at written
  · rename_i kept
    rw [List.mem_singleton.mp written]
    exact .inl kept
  · obtain ⟨byte, -, escaped⟩ := List.mem_flatMap.mp written
    exact .inr (mem_escape escaped)

theorem not_mem_encodeList {c : Char} {text : List Char} (unkept : scheme.keeps c = false)
    (mark : c ≠ '%') (other : c.isAlphanum = false) : c ∉ encodeList scheme text := by
  intro member
  rcases mem_encodeList member with kept | same | alphanumeric
  · rw [unkept] at kept
    cases kept
  · exact mark same
  · rw [other] at alphanumeric
    cases alphanumeric

end

/-- What a form keeps; the space is written as a plus afterwards. -/
def form : Scheme where
  keeps c := c.isAlphanum || ['*', '-', '.', '_', ' '].contains c
  marks := by decide

def spaceToPlus (c : Char) : Char := if c = ' ' then '+' else c

def plusToSpace (c : Char) : Char := if c = '+' then ' ' else c

def writeValue (text : String) : List Char := (encodeList form text.toList).map spaceToPlus

def readValue (text : List Char) : Option String := decodeList (text.map plusToSpace)

def writeField (field : String × String) : List Char :=
  writeValue field.1 ++ '=' :: writeValue field.2

/-- The name is what stands before the first equals sign. -/
def readField (part : List Char) : Option (String × String) := do
  let name ← readValue (part.takeWhile fun c => c != '=')
  let value ← readValue ((part.dropWhile fun c => c != '=').drop 1)
  return (name, value)

def writeQuery (fields : List (String × String)) : String :=
  String.ofList (['&'].intercalate (fields.map writeField))

/-- Empty parts are skipped. -/
def readQuery (query : String) : Option (List (String × String)) :=
  ((query.toList.splitOn '&').filter fun part => !part.isEmpty).mapM readField

theorem plusToSpace_spaceToPlus {c : Char} (other : c ≠ '+') : plusToSpace (spaceToPlus c) = c := by
  unfold spaceToPlus
  split
  · rename_i space
    rw [space]
    rfl
  · exact if_neg other

theorem readValue_writeValue (text : String) : readValue (writeValue text) = some text := by
  have plusless : '+' ∉ encodeList form text.toList :=
    not_mem_encodeList (by decide) (by decide) (by decide)
  have back : (writeValue text).map plusToSpace = encodeList form text.toList := by
    have same : ∀ c ∈ encodeList form text.toList, plusToSpace (spaceToPlus c) = id c := by
      intro c member
      apply plusToSpace_spaceToPlus
      rintro rfl
      exact plusless member
    rw [writeValue, List.map_map]
    exact (List.map_congr_left same).trans (List.map_id _)
  rw [readValue, back, decodeList_encodeList]

theorem not_mem_writeValue {c : Char} (text : String) (unkept : form.keeps c = false)
    (mark : c ≠ '%') (plus : c ≠ '+') : c ∉ writeValue text := by
  intro member
  obtain ⟨letter, written, same⟩ := List.mem_map.mp member
  have itself : letter = c := by
    unfold spaceToPlus at same
    split at same
    · exact absurd same.symm plus
    · exact same
  have other : c.isAlphanum = false := by
    simp only [form, Bool.or_eq_false_iff] at unkept
    exact unkept.1
  rw [itself] at written
  exact not_mem_encodeList unkept mark other written

theorem readField_writeField (field : String × String) :
    readField (writeField field) = some field := by
  have unsigned : ∀ c ∈ writeValue field.1, (c != '=') = true := by
    intro c member
    rw [bne_iff_ne]
    rintro rfl
    exact not_mem_writeValue field.1 (by decide) (by decide) (by decide) member
  rw [readField, writeField, List.takeWhile_append_of_pos unsigned,
    List.dropWhile_append_of_pos unsigned]
  simp [readValue_writeValue]

theorem readQuery_writeQuery (fields : List (String × String)) :
    readQuery (writeQuery fields) = some fields := by
  have each : (fields.map writeField).mapM readField = some fields := by
    have back : readField ∘ writeField = pure := funext readField_writeField
    rw [List.mapM_map, back, List.mapM_pure, List.map_id']
    rfl
  have whole : ∀ part ∈ fields.map writeField, (!part.isEmpty) = true := by
    intro part member
    obtain ⟨field, -, rfl⟩ := List.mem_map.mp member
    simp [writeField]
  cases fields with
  | nil => rfl
  | cons field rest =>
      have apart : ∀ part ∈ (field :: rest).map writeField, '&' ∉ part := by
        intro part member
        obtain ⟨field, -, rfl⟩ := List.mem_map.mp member
        simp only [writeField, List.mem_append, List.mem_cons, not_or]
        have free : ∀ text, '&' ∉ writeValue text := fun text =>
          not_mem_writeValue text (by decide) (by decide) (by decide)
        exact ⟨free field.1, by decide, free field.2⟩
      rw [readQuery, writeQuery, String.toList_ofList,
        List.splitOn_intercalate '&' apart (by simp), List.filter_eq_self.mpr whole, each]

end PercentEncoding
