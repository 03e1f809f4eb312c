/-
Module: Attestation.Telemetry.Filter
Purpose: Which messages are kept. A filter is a list of directives between commas. Each gives a level,
  for all messages or for those whose target begins with a name, and may ask for a field that the
  message has. The narrowest directive that fits decides. Directives about spans, or about the value of
  a field, say nothing about messages.
Main exports: LogLevel, LogLevel.ofText?, FieldFilter, Directive, Directive.parse, Filter, Filter.parse,
  Filter.keeps, FilterError
-/
import Attestation.Failure
import Attestation.Telemetry.FieldValue
import Attestation.Unicode.WhiteSpace

namespace Attestation

/-- How much is kept, from nothing to everything. -/
inductive LogLevel where
  | off
  | error
  | warn
  | info
  | debug
  | trace
deriving DecidableEq

namespace LogLevel

/-- The number of a level. -/
def rank : LogLevel → Nat
  | off => 0
  | error => 1
  | warn => 2
  | info => 3
  | debug => 4
  | trace => 5

/-- The name of a level. -/
def name : LogLevel → String
  | off => "off"
  | error => "error"
  | warn => "warn"
  | info => "info"
  | debug => "debug"
  | trace => "trace"

/-- All levels. -/
def all : List LogLevel := [off, error, warn, info, debug, trace]

/-- The number that digits write, perhaps after a plus sign. -/
def number? (text : List Char) : Option Nat :=
  let digits := if text.head? = some '+' then text.tail else text
  if digits.isEmpty || !digits.all Char.isDigit then none
  else some (digits.foldl (fun n c => 10 * n + (c.toNat - '0'.toNat)) 0)

/-- The level with a name, in any case, or with a number. -/
def ofText? (text : List Char) : Option LogLevel :=
  match number? text with
  | some n => all.find? fun l => l.rank = n
  | none => all.find? fun l => l.name.toList = text.map Char.toLower

end LogLevel

/-- Why a filter cannot be read. -/
inductive FilterError where
  | unknownLevel
  | malformed
  | badPattern (fault : Pattern.Fault)
deriving DecidableEq

def FilterError.message : FilterError → String
  | unknownLevel =>
    let names := ", ".intercalate (LogLevel.all.map fun l => "\"" ++ l.name ++ "\"")
    s!"error parsing level filter: expected one of {names}, or a number 0-5"
  | malformed => "invalid filter directive"
  | badPattern .malformed => "invalid field filter: error building NFA"
  | badPattern .unicodeBoundary =>
    "invalid field filter: unsupported regex feature for DFAs: cannot build DFAs for regexes with " ++
      "Unicode word boundaries; switch to ASCII word boundaries, or heuristically enable Unicode word " ++
      "boundaries or use a different regex engine"

/-- Asks for a field, perhaps with a value. -/
structure FieldFilter where
  name : List Char
  value : Option (List Char)
deriving DecidableEq

/-- A level, for what has the target, is inside the span and has the field that are named. -/
structure Directive where
  target : Option (List Char)
  span : Option (List Char)
  field : Option FieldFilter
  level : LogLevel
deriving DecidableEq

/-! ### Parts of a text by bytes -/

/-- How many bytes a text has. -/
def byteCount (text : List Char) : Nat := text.foldr (fun c bytes => c.utf8Size + bytes) 0

/-- The text after its first `n` bytes, if a character ends there. -/
def dropBytes? : Nat → List Char → Option (List Char)
  | 0, text => some text
  | _ + 1, [] => none
  | n + 1, c :: rest => if c.utf8Size ≤ n + 1 then dropBytes? (n + 1 - c.utf8Size) rest else none

/-- The first `n` bytes of a text, if a character ends there. -/
def takeBytes? : Nat → List Char → Option (List Char)
  | 0, _ => some []
  | _ + 1, [] => none
  | n + 1, c :: rest =>
    if c.utf8Size ≤ n + 1 then (takeBytes? (n + 1 - c.utf8Size) rest).map (c :: ·) else none

/-- The part of a text from one position up to another. A position inside a character is a crash. -/
def cut (text : List Char) (start stop : Nat) : Except (Failure FilterError) (List Char) :=
  match (dropBytes? start text).bind (takeBytes? (stop - start)) with
  | some part => .ok part
  | none => .error .crash

/-! ### Reading directives -/

namespace Directive

/-- Reads a field filter: a name, and a value after an equals sign. What follows a second equals sign
is ignored. -/
def parseField (text : List Char) : Except (Failure FilterError) FieldFilter :=
  if text.isEmpty then .error (.error .malformed)
  else
    let name := text.takeWhile (· ≠ '=')
    match text.dropWhile (· ≠ '=') with
    | [] => .ok ⟨name, none⟩
    | _ :: rest =>
      let value := rest.takeWhile (· ≠ '=')
      match FieldValue.fault? value with
      | none => .ok ⟨name, some value⟩
      | some fault => .error (.error (.badPattern fault))

/-- The directive with the level that stands at the end of the text. Without one it keeps everything. -/
def readLevel (text : List Char) (d : Directive) (start : Nat) : Except (Failure FilterError) Directive := do
  let word ← cut text start (byteCount text)
  if word.isEmpty then return { d with level := .trace }
  match LogLevel.ofText? word with
  | some level => return { d with level := level }
  | none => .error (.error .unknownLevel)

/-- Reads what follows a closing bracket. -/
def readAfterBracket (text : List Char) (d : Directive) (position : Nat) :
    List Char → Except (Failure FilterError) Directive
  | [] => .ok d
  | '=' :: _ => d.readLevel text (position + 1)
  | _ => .error (.error .malformed)

/-- Reads what follows an opening bracket: the name of a span, and a field filter between braces. -/
def readBracket (text : List Char) (target : Option (List Char)) (start : Nat) (rest : List Char) :
    Except (Failure FilterError) Directive := do
  let name := rest.takeWhile fun c => c ≠ ']' && c ≠ '\x7b'
  let stop := start + byteCount name
  match rest.dropWhile fun c => c ≠ ']' && c ≠ '\x7b' with
  | [] => .error (.error .malformed)
  | ']' :: rest =>
    let span ← cut text start stop
    readAfterBracket text ⟨target, some span, none, .trace⟩ (stop + 1) rest
  | _ :: rest =>
    let span ← cut text start stop
    let inside := rest.takeWhile (· ≠ '\x7d')
    let last := stop + 1 + byteCount inside
    match rest.dropWhile (· ≠ '\x7d') with
    | [] => .error (.error .malformed)
    | _ :: rest =>
      let field ← parseField (← cut text (stop + 1) last)
      let d := ⟨target, if span.isEmpty then none else some span, some field, .trace⟩
      match rest with
      | ']' :: rest => readAfterBracket text d (last + 2) rest
      | _ => .error (.error .malformed)

/-- A level alone, or a target alone, which keeps everything. -/
def ofWord (word : List Char) : Directive :=
  match LogLevel.ofText? word with
  | some level => ⟨none, none, none, level⟩
  | none => ⟨some word, none, none, .trace⟩

/-- Whether a target may begin with a character. -/
def mayBegin (c : Char) : Bool := c ∈ ['-', ':', '_'] || isAlphanumeric c

/-- Reads a directive. Positions are found in the text without white space at its ends, but what stands
there is cut from the whole text. -/
def parse (text : List Char) : Except (Failure FilterError) Directive := do
  match trimWhiteSpace text with
  | [] => .error (.error .malformed)
  | '[' :: rest => readBracket text none 1 rest
  | c :: more =>
    if !mayBegin c then .error (.error .malformed)
    else
      let name := (c :: more).takeWhile fun c => c ≠ '=' && c ≠ '['
      let stop := byteCount name
      match (c :: more).dropWhile fun c => c ≠ '=' && c ≠ '[' with
      | [] => return ofWord text
      | '=' :: _ =>
        let target ← cut text 0 stop
        readLevel text ⟨some target, none, none, .trace⟩ (stop + 1)
      | _ :: rest =>
        let target ← cut text 0 stop
        readBracket text (some target) (stop + 1) rest

/-- Whether the directive decides about messages wherever they come from. -/
def isStatic (d : Directive) : Bool := d.span.isNone && d.field.all (·.value.isNone)

/-- Whether the directive is about messages with a target and fields. -/
def fits (d : Directive) (target : List Char) (fields : List (List Char)) : Bool :=
  d.target.all (·.isPrefixOf target) && d.field.all (fields.contains ·.name)

/-- Whether a directive is at least as narrow as another that fits the same message: first by its
target, then by whether it asks for a field, and last by the name of that field. -/
def narrower (d other : Directive) : Bool :=
  let width (d : Directive) := (d.target.map (·.length + 1)).getD 0
  let field (d : Directive) := d.field.map (·.name)
  width other < width d || width other = width d && (compare (field other) (field d)).isLE

end Directive

/-- The parts of a text between commas. -/
def splitAtCommas : List Char → List (List Char)
  | [] => [[]]
  | c :: rest =>
    match splitAtCommas rest with
    | [] => [[c]]
    | part :: parts => if c = ',' then [] :: part :: parts else (c :: part) :: parts

/-- The directives of a filter in the order in which they are written. -/
abbrev Filter := List Directive

namespace Filter

/-- Reads a filter; empty parts are skipped and the first bad part decides. -/
def parse (text : String) : Except (Failure FilterError) Filter :=
  ((splitAtCommas text.toList).filter (!·.isEmpty)).mapM Directive.parse

/-- The directive that decides about a message: the narrowest that fits, and of equals the last. -/
def deciding? (f : Filter) (target : List Char) (fields : List (List Char)) : Option Directive :=
  (f.filter fun d => d.isStatic && d.fits target fields).foldl (fun best d =>
    if best.all d.narrower then some d else best) none

/-- Whether messages with a level, a target and fields are kept. A filter without directives keeps
errors. -/
def keeps (f : Filter) (level : LogLevel) (target : String) (fields : List String) : Bool :=
  if f.isEmpty then level.rank ≤ LogLevel.error.rank
  else (f.deciding? target.toList (fields.map String.toList)).any fun d => level.rank ≤ d.level.rank

end Filter

end Attestation
