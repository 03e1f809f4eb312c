/-
Module: Attestation.Json.Parser
Purpose: Reads the text of a JSON document. Nothing may follow the document but blanks; there are no
  comments and no trailing commas, and numbers have neither leading zeros nor a plus sign.
Main exports: JsonValue.parse?
-/
import Attestation.Json.Value
import Attestation.Bytes

namespace Attestation.JsonValue

/-- Blank, tab and line ends. -/
def isBlank (c : Char) : Bool := c = ' ' || c = '\n' || c = '\t' || c = '\x0d'

/-- What follows leading blanks. -/
def skipBlanks (cs : List Char) : List Char := cs.dropWhile isBlank

def isDigit (c : Char) : Bool := '0' ≤ c && c ≤ '9'

/-- One or more digits, and the rest. -/
def digits? (cs : List Char) : Option (List Char × List Char) :=
  match cs.takeWhile isDigit with
  | [] => none
  | ds => some (ds, cs.dropWhile isDigit)

/-- The whole part of a number: a zero, or digits that do not begin with one. -/
def whole? : List Char → Option (List Char × List Char)
  | '0' :: rest => some (['0'], rest)
  | cs => digits? cs

/-- The part after a point, with the point. -/
def fraction? : List Char → Option (List Char × List Char)
  | '.' :: rest => (digits? rest).map fun (ds, rest) => ('.' :: ds, rest)
  | cs => some ([], cs)

/-- The exponent, with its mark and sign. -/
def exponent? : List Char → Option (List Char × List Char)
  | e :: rest =>
    if e = 'e' || e = 'E' then
      match rest with
      | '+' :: rest => (digits? rest).map fun (ds, rest) => (e :: '+' :: ds, rest)
      | '-' :: rest => (digits? rest).map fun (ds, rest) => (e :: '-' :: ds, rest)
      | _ => (digits? rest).map fun (ds, rest) => (e :: ds, rest)
    else some ([], e :: rest)
  | [] => some ([], [])

/-- A number as written, and the rest. -/
def number? (cs : List Char) : Option (List Char × List Char) := do
  let (sign, cs) := match cs with
    | '-' :: rest => (['-'], rest)
    | _ => ([], cs)
  let (w, cs) ← whole? cs
  let (f, cs) ← fraction? cs
  let (e, cs) ← exponent? cs
  return (sign ++ w ++ f ++ e, cs)

/-- The pieces of a string up to its closing quote, and the rest. -/
def parts? : List Char → Option (List StringPart × List Char)
  | [] => none
  | '"' :: rest => some ([], rest)
  | '\\' :: 'u' :: a :: b :: c :: d :: rest => do
    let va ← Hex.digitValue? a
    let vb ← Hex.digitValue? b
    let vc ← Hex.digitValue? c
    let vd ← Hex.digitValue? d
    let (parts, rest) ← parts? rest
    return (.unit [a, b, c, d] (va * 4096 + vb * 256 + vc * 16 + vd) :: parts, rest)
  | '\\' :: c :: rest => do
    let _ ← StringPart.escapeValue? c
    let (parts, rest) ← parts? rest
    return (.escaped c :: parts, rest)
  | c :: rest => do
    if c = '\\' then none
    let (parts, rest) ← parts? rest
    return (.plain c :: parts, rest)

/-- A string literal, and the rest. -/
def string? : List Char → Option (List StringPart × List Char)
  | '"' :: rest => parts? rest
  | _ => none

/-- What follows an expected word. -/
def word? : List Char → List Char → Option (List Char)
  | [], cs => some cs
  | w :: ws, c :: cs => if w = c then word? ws cs else none
  | _ :: _, [] => none

mutual

/-- A document after blanks, and the rest. The first argument bounds the number of steps. -/
def value? : Nat → List Char → Option (JsonValue × List Char)
  | 0, _ => none
  | fuel + 1, cs =>
    match skipBlanks cs with
    | 'n' :: rest => (word? ['u', 'l', 'l'] rest).map (null, ·)
    | 't' :: rest => (word? ['r', 'u', 'e'] rest).map (bool true, ·)
    | 'f' :: rest => (word? ['a', 'l', 's', 'e'] rest).map (bool false, ·)
    | '"' :: rest => (parts? rest).map fun (parts, rest) => (string parts, rest)
    | '[' :: rest =>
      match skipBlanks rest with
      | ']' :: rest => some (array [], rest)
      | rest => (items? fuel rest).map fun (items, rest) => (array items, rest)
    | '\x7b' :: rest =>
      match skipBlanks rest with
      | '\x7d' :: rest => some (object [], rest)
      | rest => (members? fuel rest).map fun (members, rest) => (object members, rest)
    | cs => (number? cs).map fun (lexeme, rest) => (number lexeme, rest)

/-- One or more items up to the closing bracket, and the rest. -/
def items? : Nat → List Char → Option (List JsonValue × List Char)
  | 0, _ => none
  | fuel + 1, cs => do
    let (v, rest) ← value? fuel cs
    match skipBlanks rest with
    | ']' :: rest => return ([v], rest)
    | ',' :: rest =>
      let (items, rest) ← items? fuel rest
      return (v :: items, rest)
    | _ => none

/-- One or more members up to the closing brace, and the rest. -/
def members? : Nat → List Char → Option (List (List StringPart × JsonValue) × List Char)
  | 0, _ => none
  | fuel + 1, cs => do
    let (k, rest) ← string? (skipBlanks cs)
    match skipBlanks rest with
    | ':' :: rest =>
      let (v, rest) ← value? fuel rest
      match skipBlanks rest with
      | '\x7d' :: rest => return ([(k, v)], rest)
      | ',' :: rest =>
        let (members, rest) ← members? fuel rest
        return ((k, v) :: members, rest)
      | _ => none
    | _ => none

end

/-- The document that a text holds. -/
def parse? (cs : List Char) : Option JsonValue := do
  let (v, rest) ← value? (2 * cs.length + 1) cs
  if (skipBlanks rest).isEmpty then some v else none

end Attestation.JsonValue
