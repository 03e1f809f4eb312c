/-
Module: Attestation.Telemetry.Pattern.Reader
Purpose: How far a pattern has been read, and the flags that hold there. A pattern is read only to see
  whether it can be used: a part of it is known by how deeply it nests.
Main exports: Mode, Reader, Reading, Reading.skipSpace, Reading.hexDigits, nestingOf
-/
import Attestation.Bytes
import Attestation.Unicode.WhiteSpace

namespace Attestation.Pattern

/-- The flags that decide whether a pattern can be used. -/
structure Mode where
  /-- Characters are those of Unicode; otherwise only the ones of ASCII form sets. -/
  unicode : Bool
  ignoreCase : Bool
  /-- White space and comments are skipped. -/
  spaced : Bool

namespace Mode

/-- The flags at the beginning of a pattern. -/
def initial : Mode := ⟨true, false, false⟩

/-- Whether a flag is on after letters that switch flags on and, after a dash, off. -/
def switch (letters : List Char) (letter : Char) (before : Bool) : Bool :=
  if letter ∈ letters.takeWhile (· ≠ '-') then true
  else if letter ∈ letters then false
  else before

/-- The flags after letters that switch them. -/
def update (m : Mode) (letters : List Char) : Mode where
  unicode := switch letters 'u' m.unicode
  ignoreCase := switch letters 'i' m.ignoreCase
  spaced := switch letters 'x' m.spaced

end Mode

/-- How far a pattern has been read. -/
structure Reader where
  rest : List Char
  mode : Mode
  /-- The names of the groups so far. -/
  names : List (List Char)
  /-- Whether there was a boundary of words in Unicode. -/
  unicodeBoundary : Bool

/-- Reading a part of a pattern; it fails on what is not well formed. -/
abbrev Reading := StateT Reader Option

namespace Reading

/-- The rest of the pattern. -/
def rest : Reading (List Char) := return (← get).rest

/-- Goes on with a shorter rest. -/
def goTo (cs : List Char) : Reading Unit := modify ({ · with rest := cs })

/-- The flags that hold here. -/
def mode : Reading Mode := return (← get).mode

/-- Switches to other flags. -/
def setMode (m : Mode) : Reading Unit := modify ({ · with mode := m })

/-- Text without white space and comments at its front. A comment goes from a hash to the end of the
line; the first argument tells whether the text begins inside of one. -/
def withoutBlanks : Bool → List Char → List Char
  | _, [] => []
  | true, c :: cs => withoutBlanks (c ≠ '\n') cs
  | false, c :: cs =>
    if isWhiteSpace c then withoutBlanks false cs
    else if c = '#' then withoutBlanks true cs
    else c :: cs

/-- Skips white space and comments if the flags say so. -/
def skipSpace : Reading Unit := do
  if (← mode).spaced then goTo (withoutBlanks false (← rest))

/-- Reads exactly `n` hex digits after a number that has been read. -/
def hexDigits : Nat → Nat → Reading Nat
  | 0, number => return number
  | n + 1, number => do
    match ← rest with
    | [] => failure
    | c :: cs =>
      let digit ← Hex.digitValue? c
      goTo cs
      skipSpace
      hexDigits n (number * 16 + digit)

end Reading

/-- How deeply a list of parts nests. One part stands for itself. -/
def nestingOf : List Nat → Nat
  | [] => 0
  | [n] => n
  | ns => ns.foldl max 0 + 1

end Attestation.Pattern
