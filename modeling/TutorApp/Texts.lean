import TutorApp.Js
import TutorApp.Trimming

set_option autoImplicit false

namespace Js

theorem trimList_eq (text : List Char) : trimList text = Trimming.trimmed isSpace text := rfl

theorem trim_trim (text : String) : trim (trim text) = trim text := by
  rw [trim, trim, String.toList_ofList, trimList_eq, trimList_eq, Trimming.trimmed_trimmed]

theorem trim_eq_empty {text : String} :
    trim text = "" ↔ ∀ c ∈ text.toList, isSpace c = true := by
  rw [trim, String.ofList_eq_empty_iff, trimList_eq, Trimming.trimmed_eq_nil]

/-- A text that trims to something has a character that is not white. -/
theorem exists_not_space {text : String} (worded : trim text ≠ "") :
    ∃ c ∈ (trim text).toList, isSpace c = false := by
  by_contra white
  push Not at white
  apply worded
  rw [← trim_trim]
  exact trim_eq_empty.mpr fun c member => (Bool.not_eq_false _).mp (white c member)

theorem length_trim_le (text : String) : (trim text).length ≤ text.length := by
  rw [trim, String.length_ofList, trimList_eq, ← String.length_toList]
  exact Trimming.length_trimmed_le

theorem blankToNull_some {text kept : String} :
    blankToNull (some text) = some kept ↔ trim text ≠ "" ∧ trim text = kept := by
  simp only [blankToNull, Option.map_some]
  split
  · rename_i blank
    exact ⟨fun none => absurd none (by simp), fun worded => absurd blank worded.1⟩
  · rename_i worded
    rw [Option.some.injEq, and_iff_right worded]

theorem splitList_single {separator : Char} {text : List Char} (whole : separator ∉ text) :
    splitList separator text = [text] := by
  induction text with
  | nil => rfl
  | cons c rest ih =>
      rw [List.mem_cons, not_or] at whole
      obtain ⟨other, tail⟩ := whole
      simp only [splitList, ih tail, if_neg (Ne.symm other)]

theorem splitList_ne_nil (separator : Char) (text : List Char) : splitList separator text ≠ [] := by
  fun_cases splitList separator text <;> simp

/-- The first piece ends at the first separator. -/
theorem splitList_append {separator : Char} {piece : List Char} (whole : separator ∉ piece)
    (rest : List Char) :
    splitList separator (piece ++ separator :: rest) = piece :: splitList separator rest := by
  induction piece with
  | nil =>
      obtain ⟨first, more, split⟩ := List.exists_cons_of_ne_nil (splitList_ne_nil separator rest)
      simp only [List.nil_append, splitList, split, ↓reduceIte]
  | cons c tail ih =>
      rw [List.mem_cons, not_or] at whole
      obtain ⟨other, free⟩ := whole
      simp only [List.cons_append, splitList, ih free, if_neg (Ne.symm other)]

end Js
