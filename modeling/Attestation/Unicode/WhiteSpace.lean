/-
Module: Attestation.Unicode.WhiteSpace
Purpose: The characters with the Unicode property White_Space, and text without them at its ends.
Main exports: isWhiteSpace, trimWhiteSpace
-/
import Attestation.Unicode.Ranges

namespace Attestation

/-- The characters with the property. -/
def whiteSpace : CodeRanges :=
  [(0x09, 0x0D), (0x20, 0x20), (0x85, 0x85), (0xA0, 0xA0), (0x1680, 0x1680), (0x2000, 0x200A),
   (0x2028, 0x2029), (0x202F, 0x202F), (0x205F, 0x205F), (0x3000, 0x3000)]

example : whiteSpace.ascending = true ∧ whiteSpace.size = 25 := by decide

/-- Whether a character is white space. -/
def isWhiteSpace (c : Char) : Bool := whiteSpace.contains c

/-- The white space of ASCII is white space. -/
theorem isWhiteSpace_of_isWhitespace {c : Char} (h : c.isWhitespace) : isWhiteSpace c := by
  simp only [Char.isWhitespace, Bool.or_eq_true, decide_eq_true_eq] at h
  rcases h with ((rfl | rfl) | rfl) | rfl <;> decide

/-- The text without white space at its ends. -/
def trimWhiteSpace (text : List Char) : List Char :=
  (((text.dropWhile isWhiteSpace).reverse).dropWhile isWhiteSpace).reverse

end Attestation
