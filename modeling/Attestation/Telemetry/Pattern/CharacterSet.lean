/-
Module: Attestation.Telemetry.Pattern.CharacterSet
Purpose: Single characters of a pattern, escapes, and sets of characters between brackets. There are no
  tables for classes of letters and for the case of letters, so in Unicode classes cannot be named and
  case cannot be ignored. Without Unicode a set holds characters of ASCII only and cannot be negated.
Main exports: Literal, Escape, Reading.escape, Reading.bracketed
-/
import Attestation.Telemetry.Pattern.Reader

namespace Attestation.Pattern

/-- A character that stands for itself. -/
structure Literal where
  char : Char
  /-- Whether it is written as a byte, in two hex digits. -/
  isByte : Bool

/-- Whether a literal can stand alone. -/
def Literal.canStand (l : Literal) (m : Mode) : Bool :=
  if m.unicode then !m.ignoreCase else !l.isByte || l.char.toNat < 0x80

/-- Whether a literal can be in a set. -/
def Literal.canBeMember (l : Literal) (m : Mode) : Bool :=
  if m.unicode then !m.ignoreCase else l.char.toNat < 0x80

/-- What an escape stands for. -/
inductive Escape where
  | literal (l : Literal)
  /-- Digits, white space or letters of words, or everything else. -/
  | characters (negated : Bool)
  | wordBoundary
  | textBoundary

/-- The characters of control that letters stand for. -/
def controls : List (Char × Char) :=
  [('a', '\x07'), ('f', '\x0c'), ('t', '\t'), ('n', '\n'), ('r', '\x0d'), ('v', '\x0b')]

/-- The classes of ASCII that have names. -/
def classNames : List String :=
  ["alnum", "alpha", "ascii", "blank", "cntrl", "digit", "graph", "lower", "print", "punct", "space",
    "upper", "word", "xdigit"]

/-- Reads the name of a class between colons, perhaps negated, after an opening bracket: whether it is
negated, and the rest. -/
def namedClass? : List Char → Option (Bool × List Char)
  | ':' :: cs =>
    let negated := cs.head? = some '^'
    let cs := if negated then cs.tail else cs
    match cs.dropWhile (· ≠ ':') with
    | ':' :: ']' :: rest =>
      if String.ofList (cs.takeWhile (· ≠ ':')) ∈ classNames then some (negated, rest) else none
    | _ => none
  | _ => none

/-- What follows a dash that may form a range. Where white space is skipped, so is the mark of one
comment, but not the comment. -/
def afterDash? (m : Mode) (cs : List Char) : Option Char :=
  if m.spaced then
    match cs.dropWhile isWhiteSpace with
    | '#' :: cs => (cs.dropWhile isWhiteSpace).head?
    | cs => cs.head?
  else cs.head?

namespace Reading

/-- Reads the hex digits of a literal. -/
def hexLiteral (digits : Nat) (isByte : Bool) : Reading Escape := do
  skipSpace
  let code ← hexDigits digits 0
  guard code.isValidChar
  return .literal ⟨Char.ofNat code, isByte⟩

/-- Reads an escape after its backslash. -/
def escape : Reading Escape := do
  match ← rest with
  | [] => failure
  | c :: cs =>
    goTo cs
    if c = 'x' then hexLiteral 2 true
    else if c = 'u' then hexLiteral 4 false
    else if c = 'U' then hexLiteral 8 false
    else if c ∈ ['d', 's', 'w'] then return .characters false
    else if c ∈ ['D', 'S', 'W'] then return .characters true
    else if c ∈ ['b', 'B', '<', '>'] then return .wordBoundary
    else if c ∈ ['A', 'z'] then return .textBoundary
    else
      match controls.lookup c with
      | some control => return .literal ⟨control, false⟩
      | none =>
        guard (c.toNat < 0x80 && !c.isAlphanum)
        return .literal ⟨c, false⟩

/-- The named characters are those of ASCII; everything else is more than that. -/
def useCharacters (negated : Bool) : Reading Unit := do guard (!(← mode).unicode && !negated)

/-- Puts a literal into a set. -/
def useMember (l : Literal) : Reading Unit := do guard (l.canBeMember (← mode))

/-- Reads a member of a set: a literal, or nothing for named characters. -/
def member : Reading (Option Literal) := do
  match ← rest with
  | [] => failure
  | '\\' :: cs =>
    goTo cs
    match ← escape with
    | .literal l => return some l
    | .characters negated =>
      useCharacters negated
      return none
    | _ => failure
  | c :: cs =>
    goTo cs
    return some ⟨c, false⟩

/-- Reads a member of a set, or a range. The ends of a range are literals in order. -/
def memberOrRange : Reading Unit := do
  let first ← member
  skipSpace
  match ← rest with
  | '-' :: cs =>
    if afterDash? (← mode) cs ∈ [some ']', some '-'] then first.forM useMember
    else
      goTo cs
      skipSpace
      match first, ← member with
      | some low, some high =>
        guard (low.char ≤ high.char)
        useMember low
        useMember high
      | _, _ => failure
  | [] => failure
  | _ => first.forM useMember

/-- Reads the mark that negates a set. -/
def negation : Reading Unit := do
  skipSpace
  match ← rest with
  | '^' :: cs =>
    guard (← mode).unicode
    goTo cs
  | _ => return ()

/-- How deeply a set nests that is combined with the one to its left. -/
def combined : Option Nat → Nat → Nat
  | none, right => right
  | some left, right => max left right + 1

/-- Reads a set up to its closing bracket. The first argument bounds the number of steps. At the front
dashes, or else a closing bracket, stand for themselves. -/
def members : Nat → (isFront : Bool) → (left : Option Nat) → (parts : List Nat) → Reading Nat
  | 0, _, _, _ => failure
  | fuel + 1, isFront, left, parts => do
    skipSpace
    match ← rest with
    | [] => failure
    | '[' :: cs =>
      match namedClass? cs with
      | some (negated, cs) =>
        let m ← mode
        guard (if m.unicode then !m.ignoreCase else !negated)
        goTo cs
        members fuel false left (0 :: parts)
      | none =>
        goTo cs
        negation
        let inner ← members fuel true none []
        members fuel false left ((inner + 1) :: parts)
    | c :: cs =>
      if isFront && (c = '-' || c = ']' && parts.isEmpty) then
        useMember ⟨c, false⟩
        goTo cs
        members fuel (c = '-') left (0 :: parts)
      else if c = ']' then
        goTo cs
        return combined left (nestingOf parts)
      else if c ∈ ['&', '-', '~'] && cs.head? = some c then
        goTo cs.tail
        members fuel false (some (combined left (nestingOf parts))) []
      else
        memberOrRange
        members fuel false left (0 :: parts)

/-- Reads a set after its opening bracket: how deeply it nests. -/
def bracketed : Reading Nat := do
  negation
  return (← members ((← rest).length + 1) true none []) + 1

end Reading

end Attestation.Pattern
