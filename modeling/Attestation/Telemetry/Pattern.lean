/-
Module: Attestation.Telemetry.Pattern
Purpose: Which patterns can be used. A pattern repeats nothing that is not there, closes what it opens,
  escapes only what has a meaning, and does not nest too deeply; counts of repetitions do not occur. No
  pattern may look at the boundaries of words in Unicode.
Main exports: Pattern.Fault, Pattern.fault?
-/
import Attestation.Telemetry.Pattern.CharacterSet
import Attestation.Unicode.Alphanumeric

namespace Attestation.Pattern

/-- Why a pattern cannot be used. -/
inductive Fault where
  | malformed
  | unicodeBoundary
deriving DecidableEq

/-- How deeply a pattern may nest. -/
def maxNesting : Nat := 250

/-- Whether letters switch flags on and, after a dash, off. None occurs twice. -/
def areFlags (letters : List Char) : Bool :=
  letters.all (· ∈ ['i', 'm', 's', 'U', 'u', 'R', 'x', '-']) && letters.Nodup &&
    letters.getLast? ≠ some '-'

/-- Whether a text names a group. -/
def isGroupName : List Char → Bool
  | [] => false
  | c :: cs =>
    (c = '_' || isAlphabetic c) && cs.all fun c => c ∈ ['_', '.', '[', ']'] || isAlphanumeric c

namespace Reading

/-- Reads the name of a group up to its closing angle. Every group has a name of its own. -/
def groupName (cs : List Char) : Reading Unit := do
  let name := cs.takeWhile (· ≠ '>')
  match cs.dropWhile (· ≠ '>') with
  | [] => failure
  | _ :: cs =>
    guard (isGroupName name && !(← get).names.contains name)
    modify fun r => { r with rest := cs, names := name :: r.names }

/-- Reads what follows an opening parenthesis: whether it opens a group, or only switches flags. -/
def opening : Reading Bool := do
  skipSpace
  match ← rest with
  | '?' :: 'P' :: '<' :: cs | '?' :: '<' :: cs =>
    groupName cs
    return true
  | '?' :: cs =>
    let letters := cs.takeWhile fun c => c ≠ ':' && c ≠ ')'
    guard (areFlags letters)
    setMode ((← mode).update letters)
    match cs.dropWhile fun c => c ≠ ':' && c ≠ ')' with
    | ':' :: cs =>
      goTo cs
      return true
    | _ :: cs =>
      guard !letters.isEmpty
      goTo cs
      return false
    | [] => failure
  | _ => return true

/-- Reads a single character, or what stands for one or for a place. -/
def single : Reading Unit := do
  let m ← mode
  match ← rest with
  | [] => failure
  | '\\' :: cs =>
    goTo cs
    match ← escape with
    | .literal l => guard (l.canStand m)
    | .characters negated => useCharacters negated
    | .wordBoundary => modify fun r => { r with unicodeBoundary := r.unicodeBoundary || m.unicode }
    | .textBoundary => return ()
  | c :: cs =>
    goTo cs
    if c = '.' then guard m.unicode
    else if c = '^' || c = '$' then return ()
    else guard (Literal.canStand ⟨c, false⟩ m)

/-- Reads alternatives up to a closing parenthesis or the end: how deeply they nest. The first argument
bounds the number of steps. The parts of the alternative that is being read are given from the last to the
first; a switch of flags is a part that cannot be repeated. -/
def alternatives : Nat → (before : List Nat) → (parts : List (Option Nat)) → Reading Nat
  | 0, _, _ => failure
  | fuel + 1, before, parts => do
    let here := nestingOf (parts.map (·.getD 0))
    skipSpace
    match ← rest with
    | [] | ')' :: _ => return nestingOf (here :: before)
    | '|' :: cs =>
      goTo cs
      alternatives fuel (here :: before) []
    | '(' :: cs =>
      goTo cs
      let outside ← mode
      if ← opening then
        let inner ← alternatives fuel [] []
        let cs ← rest
        guard (cs.head? = some ')')
        goTo cs.tail
        setMode outside
        alternatives fuel before (some (inner + 1) :: parts)
      else alternatives fuel before (none :: parts)
    | '[' :: cs =>
      goTo cs
      let nesting ← bracketed
      alternatives fuel before (some nesting :: parts)
    | c :: cs =>
      if c ∈ ['*', '+', '?'] then
        match parts with
        | some n :: parts =>
          goTo (if cs.head? = some '?' then cs.tail else cs)
          alternatives fuel before (some (n + 1) :: parts)
        | _ => failure
      else if c = '\x7b' then failure
      else
        single
        alternatives fuel before (some 0 :: parts)

end Reading

/-- Why a pattern cannot be used, if it cannot. That it is not well formed comes first. -/
def fault? (cs : List Char) : Option Fault :=
  match (Reading.alternatives (cs.length + 1) [] []).run ⟨cs, .initial, [], false⟩ with
  | none => some .malformed
  | some (nesting, r) =>
    if !r.rest.isEmpty || maxNesting < nesting then some .malformed
    else if r.unicodeBoundary then some .unicodeBoundary
    else none

end Attestation.Pattern
