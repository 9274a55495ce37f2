import TutorApp.Base64Url
import TutorApp.Texts
import TutorApp.TokenRotation

set_option autoImplicit false

namespace TutorApp

abbrev Bytes := List UInt8

/-- A call of the runtime that throws. -/
inductive Thrown where
  | error
  deriving Repr, DecidableEq

/-- The parts of the runtime a token cipher is built on. -/
structure NodeCrypto where
  sha256 : Bytes → Bytes
  /-- What AES-256-GCM makes of a text under a key and an IV, and its tag. -/
  encipher : Bytes → Bytes → Bytes → Bytes × Bytes
  /-- What it makes of a key, an IV, a tag and a ciphertext; a call on the way may throw. -/
  decipher : Bytes → Bytes → Bytes → Bytes → Except Thrown Bytes
  /-- `toString('utf8')`. -/
  utf8Text : Bytes → String

def utf8 (text : String) : Bytes := text.toUTF8.data.toList

def ivBytes : Nat := 12

/-- Decryption undoes encryption under the same key and IV and with its tag, and a ciphertext is
as long as its text. -/
structure NodeCrypto.Sound (node : NodeCrypto) : Prop where
  key_length : ∀ bytes, (node.sha256 bytes).length = 32
  deciphers : ∀ key iv plain, key.length = 32 → iv.length = ivBytes →
    node.decipher key iv (node.encipher key iv plain).2 (node.encipher key iv plain).1 = .ok plain
  stream : ∀ key iv plain, (node.encipher key iv plain).1.length = plain.length
  tag_length : ∀ key iv plain, (node.encipher key iv plain).2.length = 16
  utf8Text_utf8 : ∀ text, node.utf8Text (utf8 text) = text

namespace TokenCipher

def version : String := "v1"

section

variable (node : NodeCrypto) (secret : String)

def key : Bytes := node.sha256 (utf8 secret)

/-- Four parts, joined by dots. -/
def encrypt (iv : Bytes) (plain : String) : String :=
  let (encrypted, tag) := node.encipher (key node secret) iv (utf8 plain)
  version ++ "." ++ Base64Url.encode iv ++ "." ++ Base64Url.encode tag ++ "." ++
    Base64Url.encode encrypted

/-- A part that is missing and one that is empty are refused alike; what throws reads as `null`. -/
def decrypt (stored : String) : Except Thrown (Option String) :=
  match Js.split '.' stored with
  | named :: iv :: tag :: payload :: _ =>
      if named ≠ version ∨ iv = "" ∨ tag = "" ∨ payload = "" then pure none
      else tryCatch (do
          let bytes ← node.decipher (key node secret) (Base64Url.decode iv) (Base64Url.decode tag)
            (Base64Url.decode payload)
          pure (some (node.utf8Text bytes)))
        fun _ => pure none
  | _ => pure none

end

theorem utf8_eq_nil {text : String} : utf8 text = [] ↔ text = "" := by
  rw [utf8, Array.toList_eq_nil_iff, ← String.toByteArray_eq_empty_iff]
  exact ⟨ByteArray.ext, congrArg ByteArray.data⟩

variable {node : NodeCrypto} {secret : String} {iv : Bytes}

theorem split_encrypt (plain : String) :
    Js.split '.' (encrypt node secret iv plain) = [version, Base64Url.encode iv,
      Base64Url.encode (node.encipher (key node secret) iv (utf8 plain)).2,
      Base64Url.encode (node.encipher (key node secret) iv (utf8 plain)).1] := by
  have dotless (bytes : Bytes) : '.' ∉ (Base64Url.encode bytes).toList :=
    Base64Url.not_mem_encode (by decide)
  have parts : (encrypt node secret iv plain).toList = version.toList ++ '.' ::
      ((Base64Url.encode iv).toList ++ '.' ::
        ((Base64Url.encode (node.encipher (key node secret) iv (utf8 plain)).2).toList ++ '.' ::
          (Base64Url.encode (node.encipher (key node secret) iv (utf8 plain)).1).toList)) := by
    simp [encrypt, String.toList_append]
  rw [Js.split, parts, Js.splitList_append (by decide), Js.splitList_append (dotless iv),
    Js.splitList_append (dotless _), Js.splitList_single (dotless _)]
  simp only [List.map_cons, List.map_nil, String.ofList_toList]

/-- The parts of an envelope are there, except for the ciphertext of an empty text. -/
theorem encode_ne_empty {bytes : Bytes} {n : Nat} (length : bytes.length = n + 1) :
    Base64Url.encode bytes ≠ "" := by
  rw [ne_eq, Base64Url.encode_eq_empty]
  rintro rfl
  cases length

theorem decrypt_encrypt_iff (sound : node.Sound) (drawn : iv.length = ivBytes) (plain : String) :
    decrypt node secret (encrypt node secret iv plain) = .ok (some plain) ↔ plain ≠ "" := by
  have payload : Base64Url.encode (node.encipher (key node secret) iv (utf8 plain)).1 = "" ↔
      plain = "" := by
    rw [Base64Url.encode_eq_empty, ← List.length_eq_zero_iff, sound.stream, List.length_eq_zero_iff,
      utf8_eq_nil]
  have tagged : Base64Url.encode (node.encipher (key node secret) iv (utf8 plain)).2 ≠ "" :=
    encode_ne_empty (sound.tag_length _ _ _)
  rw [decrypt, split_encrypt]
  dsimp only
  by_cases empty : plain = ""
  · rw [if_pos (.inr (.inr (.inr (payload.mpr empty))))]
    exact ⟨nofun, fun worded => absurd empty worded⟩
  · rw [if_neg, Base64Url.decode_encode, Base64Url.decode_encode, Base64Url.decode_encode,
      sound.deciphers (key node secret) iv (utf8 plain) (sound.key_length _) drawn]
    · refine ⟨fun _ => empty, fun _ => ?_⟩
      exact congrArg (fun text => Except.ok (some text)) (sound.utf8Text_utf8 plain)
    · rintro (other | none | none | none)
      · exact other rfl
      · exact encode_ne_empty drawn none
      · exact tagged none
      · exact empty (payload.mp none)

/-- No text makes it throw. -/
theorem decrypt_total (stored : String) : ∃ result, decrypt node secret stored = .ok result := by
  unfold decrypt
  split
  · rename_i named iv tag payload _ _
    split
    · exact ⟨_, rfl⟩
    · cases opened : node.decipher (key node secret) (Base64Url.decode iv) (Base64Url.decode tag)
          (Base64Url.decode payload) with
      | error => exact ⟨none, rfl⟩
      | ok bytes => exact ⟨some (node.utf8Text bytes), rfl⟩
  · exact ⟨_, rfl⟩

end TokenCipher

/-- What was encrypted reads back under the same secret unless it is empty, and nothing at all
makes decryption throw. -/
theorem tokens_read_back {node : NodeCrypto} (sound : node.Sound) :
    (∀ secret iv plain, iv.length = ivBytes →
      (TokenCipher.decrypt node secret (TokenCipher.encrypt node secret iv plain) = .ok (some plain) ↔
        plain ≠ "")) ∧
      ∀ secret stored, ∃ result, TokenCipher.decrypt node secret stored = .ok result :=
  ⟨fun _ _ plain drawn => TokenCipher.decrypt_encrypt_iff sound drawn plain,
    fun _ => TokenCipher.decrypt_total⟩

def passphrase : String := "a passphrase kept in the environment"

def passphraseKey : Bytes :=
  [87, 226, 94, 208, 18, 250, 59, 116, 51, 44, 55, 189, 229, 144, 169, 88,
    102, 200, 14, 77, 171, 121, 36, 126, 62, 61, 96, 103, 131, 183, 78, 57]

def countingIv : Bytes := [0, 1, 2, 3, 4, 5, 6, 7, 8, 9, 10, 11]

/-- What AES-256-GCM gives for two texts under that key and IV. -/
def wordTag : Bytes := [98, 166, 132, 106, 45, 33, 248, 213, 119, 248, 190, 127, 40, 145, 158, 125]

def emptyTag : Bytes :=
  [123, 19, 235, 145, 211, 197, 156, 90, 162, 220, 127, 233, 83, 114, 134, 251]

def plainTag : Bytes := List.replicate 16 0

/-- The two, and a tag that says nothing for everything else. -/
def sampleNode : NodeCrypto where
  sha256 bytes := if bytes = utf8 passphrase then passphraseKey else List.replicate 32 0
  encipher key iv plain :=
    if key = passphraseKey ∧ iv = countingIv ∧ plain = [110, 195, 169] then ([100, 163, 26], wordTag)
    else if key = passphraseKey ∧ iv = countingIv ∧ plain = [] then ([], emptyTag)
    else (plain, plainTag)
  decipher key iv tag encrypted :=
    if key = passphraseKey ∧ iv = countingIv ∧ tag = wordTag ∧ encrypted = [100, 163, 26] then
      .ok [110, 195, 169]
    else if key = passphraseKey ∧ iv = countingIv ∧ tag = emptyTag ∧ encrypted = [] then .ok []
    else if tag = plainTag then .ok encrypted else .error .error
  utf8Text bytes := (String.fromUTF8? ⟨bytes.toArray⟩).getD "\uFFFD"

theorem sampleNode_sound : sampleNode.Sound where
  key_length bytes := by
    simp only [sampleNode]
    split <;> rfl
  deciphers key iv plain _ _ := by
    have apart : plainTag ≠ wordTag ∧ plainTag ≠ emptyTag ∧ emptyTag ≠ wordTag := by decide
    simp only [sampleNode]
    split
    · rename_i word
      simp [word]
    · split
      · rename_i none
        simp [none, apart]
      · simp [apart]
  stream key iv plain := by
    simp only [sampleNode]
    split
    · rename_i word
      rw [word.2.2]
      rfl
    · split
      · rename_i none
        rw [none.2.2]
      · rfl
  tag_length key iv plain := by
    simp only [sampleNode]
    split
    · rfl
    · split <;> rfl
  utf8Text_utf8 text := by
    have bytes : (⟨(utf8 text).toArray⟩ : ByteArray) = text.toUTF8 := by rw [utf8, Array.toArray_toList]
    have read : String.fromUTF8? text.toUTF8 = some text := dif_pos text.isValidUTF8
    simp only [sampleNode]
    rw [bytes, read, Option.getD_some]

/-- The envelope of a word, there and back. -/
theorem word_reads_back :
    TokenCipher.encrypt sampleNode passphrase countingIv "né" =
        "v1.AAECAwQFBgcICQoL.YqaEai0h-NV3-L5_KJGefQ.ZKMa" ∧
      TokenCipher.decrypt sampleNode passphrase
        (TokenCipher.encrypt sampleNode passphrase countingIv "né") = .ok (some "né") :=
  ⟨by decide +kernel,
    ((tokens_read_back sampleNode_sound).1 passphrase countingIv "né" rfl).mpr (by decide)⟩

/-- The envelope of the empty text is taken for one that lacks its last part. -/
theorem empty_text_unread : sampleNode.Sound ∧
    TokenCipher.encrypt sampleNode passphrase countingIv "" =
        "v1.AAECAwQFBgcICQoL.exPrkdPFnFqi3H_pU3KG-w." ∧
      TokenCipher.decrypt sampleNode passphrase
        (TokenCipher.encrypt sampleNode passphrase countingIv "") = .ok none :=
  ⟨sampleNode_sound, by decide +kernel, by decide +kernel⟩

namespace TokenCipher

/-- Built from a secret, with IVs drawn as texts. -/
def cipher (node : NodeCrypto) (secret : String) (drawn : String → Bytes) : Cipher where
  encrypt nonce text := encrypt node secret (drawn nonce) text
  decrypt stored := ((decrypt node secret stored).toOption).join

/-- A deployment with a token cipher reads back the tokens it has sealed. -/
theorem deployed {node : NodeCrypto} {secret : String} {drawn : String → Bytes} {platform : Platform}
    {provider : MeetingProvider} (sound : node.Sound) (long : ∀ nonce, (drawn nonce).length = ivBytes)
    (built : platform.cipher = some (cipher node secret drawn))
    (configured : (MeetingAccountsService.requireCredentials platform provider).isOk = true) :
    Deployed platform provider (cipher node secret drawn) where
  sealed_ := built
  readsBack nonce text spelt := by
    simp only [cipher]
    rw [(decrypt_encrypt_iff sound (long nonce) text).mpr spelt]
    rfl
  configured := configured

end TokenCipher

end TutorApp
