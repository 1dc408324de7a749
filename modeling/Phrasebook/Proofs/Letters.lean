/-!
# Letters and digits

ASCII letters have greater codes than digits, so no character is both.

## Contents
- `ne_of_class`: characters of a class and characters outside of it
- `code_of_isAlpha`: the codes of letters
- `not_isAlpha_of_isDigit`, `not_isDigit_of_isAlpha`: letters are no digits
-/

namespace Phrasebook.Text

variable {c x : Char}

/-- A character of a class is none of those outside of it. -/
theorem ne_of_class {p : Char → Bool} (h : p c = true) (hx : p x = false) : c ≠ x := by
  rintro rfl
  rw [h] at hx
  cases hx

theorem code_of_isAlpha (h : c.isAlpha = true) : 65 ≤ c.toNat ∧ c.toNat ≤ 122 := by
  have hletter : (decide ('A'.val ≤ c.val ∧ c.val ≤ 'Z'.val) ||
      (decide ('a'.val ≤ c.val) && decide (c.val ≤ 'z'.val))) = true := h
  rw [Bool.or_eq_true, Bool.and_eq_true, decide_eq_true_iff, decide_eq_true_iff,
    decide_eq_true_iff] at hletter
  have hcode : c.toNat = c.val.toNat := rfl
  rcases hletter with ⟨hA, hZ⟩ | ⟨ha, hz⟩
  · have hA' : 65 ≤ c.val.toNat := UInt32.le_iff_toNat_le.mp hA
    have hZ' : c.val.toNat ≤ 90 := UInt32.le_iff_toNat_le.mp hZ
    omega
  · have ha' : 97 ≤ c.val.toNat := UInt32.le_iff_toNat_le.mp ha
    have hz' : c.val.toNat ≤ 122 := UInt32.le_iff_toNat_le.mp hz
    omega

/-- Letters come after the digits. -/
theorem not_isAlpha_of_isDigit (h : c.isDigit = true) : c.isAlpha = false := by
  rw [Bool.eq_false_iff]
  intro hletter
  have hdigits : 48 ≤ c.toNat ∧ c.toNat ≤ 57 := Char.isDigit_iff_toNat.mp h
  have hletters := code_of_isAlpha hletter
  omega

theorem not_isDigit_of_isAlpha (h : c.isAlpha = true) : c.isDigit = false := by
  rw [Bool.eq_false_iff]
  intro hdigit
  rw [not_isAlpha_of_isDigit hdigit] at h
  cases h

theorem isAlphanum_of_isAlpha (h : c.isAlpha = true) : c.isAlphanum = true := by
  have hdef : c.isAlphanum = (c.isAlpha || c.isDigit) := rfl
  rw [hdef, h]
  rfl

end Phrasebook.Text
