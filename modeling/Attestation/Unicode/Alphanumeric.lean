/-
Module: Attestation.Unicode.Alphanumeric
Purpose: Letters and numbers together.
Main exports: isAlphanumeric, isAlphanumeric_of_isAlphanum
-/
import Attestation.Unicode.Alphabetic
import Attestation.Unicode.Numeric

namespace Attestation

/-- Whether a character is a letter or a number. -/
def isAlphanumeric (c : Char) : Bool := isAlphabetic c || isNumeric c

/-- The letters and digits of ASCII are letters and numbers. -/
theorem isAlphanumeric_of_isAlphanum {c : Char} (h : c.isAlphanum) : isAlphanumeric c := by
  have codes : 48 ≤ c.toNat ∧ c.toNat ≤ 57 ∨ 65 ≤ c.toNat ∧ c.toNat ≤ 90 ∨
      97 ≤ c.toNat ∧ c.toNat ≤ 122 := by
    have letter : c.isAlpha = (c.isUpper || c.isLower) := rfl
    have upper : c.isUpper = decide (c.val ≥ 'A'.val ∧ c.val ≤ 'Z'.val) := rfl
    have lower : c.isLower = (decide (c.val ≥ 'a'.val) && decide (c.val ≤ 'z'.val)) := rfl
    simp only [Char.isAlphanum, letter, upper, lower, Char.isDigit, Bool.or_eq_true,
      Bool.and_eq_true, decide_eq_true_eq, ge_iff_le, UInt32.le_iff_toNat_le] at h
    have code : c.val.toNat = c.toNat := rfl
    have first : 'A'.val.toNat = 65 ∧ 'a'.val.toNat = 97 ∧ '0'.val.toNat = 48 := ⟨rfl, rfl, rfl⟩
    have last : 'Z'.val.toNat = 90 ∧ 'z'.val.toNat = 122 ∧ '9'.val.toNat = 57 := ⟨rfl, rfl, rfl⟩
    omega
  rw [isAlphanumeric, Bool.or_eq_true]
  rcases codes with ⟨low, high⟩ | ⟨low, high⟩ | ⟨low, high⟩
  · exact .inr (CodeRanges.contains_of_mem (.head _) low high)
  · exact .inl (CodeRanges.contains_of_mem (.head _) low high)
  · exact .inl (CodeRanges.contains_of_mem (.tail _ (.head _)) low high)

end Attestation
