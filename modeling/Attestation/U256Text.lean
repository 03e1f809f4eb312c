/-
Module: Attestation.U256Text
Purpose: Amounts as hex text: `0x` and digits without leading zeros. The reader also takes leading zeros
  up to 64 digits, either case, a missing `0x`, and blanks between digits, which count towards the
  length.
Main exports: U256.hexText, U256.ofHexText?
-/
import Attestation.U256

namespace Attestation.U256

/-- `0x` and the hex digits, without leading zeros; zero is `0x0`. -/
def hexText (a : U256) : List Char := '0' :: 'x' :: Hex.ofNat a.val

/-- The bytes that digits fill two by two. `held` counts the digits that wait in `buffer`; one digit
that waits at the end is dropped, and blanks are skipped. -/
def digitBytes? (buffer held : Nat) : List Char → Option (List UInt8)
  | [] => some []
  | c :: rest =>
    if c = ' ' || c = '\n' || c = '\t' || c = '\x0d' then digitBytes? buffer held rest
    else do
      let d ← Hex.digitValue? c
      let filled := (buffer * 16 + d) % 256
      if held = 1 then
        let bytes ← digitBytes? filled 0 rest
        return UInt8.ofNat filled :: bytes
      else digitBytes? filled 1 rest

/-- The text without a leading `0x`. -/
def dropMark : List Char → List Char
  | '0' :: 'x' :: rest => rest
  | text => text

/-- The amount that a text writes. Where the length is odd, the first digit fills a byte alone. -/
def ofHexText? (text : List Char) : Option U256 := do
  let digits := dropMark text
  if digits.isEmpty || 64 < digits.length then none
  let bytes ← digitBytes? 0 (digits.length % 2) digits
  ofNat? (BigEndian.value bytes)

end Attestation.U256
