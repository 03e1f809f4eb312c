/-
Module: Attestation.Telemetry.FieldValue
Purpose: Which texts may stand for the value of a field in a filter: numbers, and patterns that can be
  used.
Main exports: FieldValue.fault?
-/
import Attestation.Telemetry.Pattern

namespace Attestation.FieldValue

/-- Digits at the front, and the rest. -/
def digits (cs : List Char) : List Char × List Char := cs.span Char.isDigit

/-- An exponent: its mark, perhaps a sign, and digits; or nothing. -/
def isExponent : List Char → Bool
  | [] => true
  | e :: rest =>
    let unsigned := match rest with
      | '+' :: rest | '-' :: rest => rest
      | _ => rest
    (e = 'e' || e = 'E') && !unsigned.isEmpty && unsigned.all Char.isDigit

/-- The names of what is no finite number. -/
def names : List String := ["inf", "infinity", "nan"]

/-- A decimal number with digits before or after its point, or the name of what is no finite number. -/
def isUnsignedNumber (cs : List Char) : Bool :=
  if String.ofList (cs.map Char.toLower) ∈ names then true
  else
    let (whole, rest) := digits cs
    let (fraction, rest) := match rest with
      | '.' :: rest => digits rest
      | _ => ([], rest)
    !(whole.isEmpty && fraction.isEmpty) && isExponent rest

/-- A number, perhaps with a sign. -/
def isNumber : List Char → Bool
  | '+' :: rest | '-' :: rest => isUnsignedNumber rest
  | cs => isUnsignedNumber cs

/-- Why a text may not stand for a value, if it may not. -/
def fault? (cs : List Char) : Option Pattern.Fault := if isNumber cs then none else Pattern.fault? cs

end Attestation.FieldValue
