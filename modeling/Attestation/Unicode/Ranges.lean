/-
Module: Attestation.Unicode.Ranges
Purpose: Sets of characters as closed ranges of code points, ascending and apart.
Main exports: CodeRanges, CodeRanges.contains, CodeRanges.ascending, CodeRanges.size,
  CodeRanges.contains_of_mem
-/

namespace Attestation

/-- Closed ranges of code points. -/
abbrev CodeRanges := List (Nat × Nat)

namespace CodeRanges

/-- Whether a character is in one of the ranges. -/
def contains (ranges : CodeRanges) (c : Char) : Bool :=
  ranges.any fun (low, high) => low ≤ c.toNat && c.toNat ≤ high

/-- Whether the ranges follow one another with gaps between them. -/
def ascending : CodeRanges → Bool
  | [] => true
  | [(low, high)] => low ≤ high
  | (low, high) :: (next, last) :: rest =>
    low ≤ high && high + 1 < next && ascending ((next, last) :: rest)

/-- The number of code points in the ranges. -/
def size (ranges : CodeRanges) : Nat :=
  ranges.foldr (fun (low, high) size => high + 1 - low + size) 0

theorem contains_of_mem {ranges : CodeRanges} {low high : Nat} {c : Char}
    (mem : (low, high) ∈ ranges) (le_code : low ≤ c.toNat) (code_le : c.toNat ≤ high) :
    ranges.contains c := by
  simp only [contains, List.any_eq_true]
  exact ⟨(low, high), mem, by simp [le_code, code_le]⟩

end CodeRanges

end Attestation
