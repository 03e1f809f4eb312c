/-
Module: Attestation.Json.Format
Purpose: How values are written as JSON documents and read back. A record is an object of its fields, or
  an array of them in order. In an object a field may stand anywhere but only once; members of other
  names are skipped.
Main exports: JsonFormat, JsonFormat.list, JsonFormat.option, JsonFormat.array, JsonFormat.bytes,
  JsonFormat.u256, recordFields?
-/
import Attestation.Json.Parser
import Attestation.U256Text

namespace Attestation

/-- A way to write values of a type and to read them. -/
structure JsonFormat (α : Type) where
  write : α → JsonValue
  read? : JsonValue → Option α

/-- The number that decimal digits write. -/
def decimalValue (digits : List Char) : Nat :=
  digits.foldl (fun v c => v * 10 + (c.toNat - '0'.toNat)) 0

/-- A natural number written with decimal digits only, and without leading zeros. -/
def canonicalNatural? (digits : List Char) : Option Nat :=
  if digits.isEmpty || !digits.all JsonValue.isDigit || (1 < digits.length && digits.head? = some '0') then
    none
  else some (decimalValue digits)

namespace JsonFormat

/-- The text of a value. -/
def text {α : Type} (f : JsonFormat α) (a : α) : List Char := (f.write a).write

/-- The value that a text holds. -/
def parse? {α : Type} (f : JsonFormat α) (text : List Char) : Option α :=
  (JsonValue.parse? text).bind f.read?

/-- A natural number below a bound, written without sign, fraction and exponent. -/
def natural? (bound : Nat) : JsonValue → Option Nat
  | .number lexeme => (canonicalNatural? lexeme).filter (· < bound)
  | _ => none

def u8 : JsonFormat UInt8 := ⟨fun n => .ofNat n.toNat, fun j => (natural? (1 <<< 8) j).map UInt8.ofNat⟩

def u32 : JsonFormat UInt32 :=
  ⟨fun n => .ofNat n.toNat, fun j => (natural? (1 <<< 32) j).map UInt32.ofNat⟩

def u64 : JsonFormat UInt64 :=
  ⟨fun n => .ofNat n.toNat, fun j => (natural? (1 <<< 64) j).map UInt64.ofNat⟩

/-- An array of values. -/
def list {α : Type} (f : JsonFormat α) : JsonFormat (List α) where
  write xs := .array (xs.map f.write)
  read?
    | .array items => items.mapM f.read?
    | _ => none

/-- A value or `null`. -/
def option {α : Type} (f : JsonFormat α) : JsonFormat (Option α) where
  write
    | none => .null
    | some a => f.write a
  read?
    | .null => some none
    | j => (f.read? j).map some

/-- Exactly `n` bytes as an array of numbers. -/
def array (n : Nat) : JsonFormat (Bytes n) where
  write b := (list u8).write b.toList
  read? j := ((list u8).read? j).bind Bytes.ofList?

/-- Exactly `n` bytes, written as an array of numbers, and read from such an array or from a string. -/
def bytes (n : Nat) : JsonFormat (Bytes n) where
  write := (array n).write
  read?
    | .string parts => Bytes.ofList? (StringPart.rawBytes parts)
    | j => (array n).read? j

/-- An amount as a string of hex text. -/
def u256 : JsonFormat U256 where
  write a := .ofText a.hexText
  read?
    | .string parts => (StringPart.text? parts).bind U256.ofHexText?
    | _ => none

end JsonFormat

/-- The members of the given names. No name may occur twice, and what the others hold must be fit to be
skipped. -/
def knownMembers? (names : List (List Char)) :
    List (List StringPart × JsonValue) → Option (List (List Char × JsonValue))
  | [] => some []
  | (k, v) :: rest => do
    let name ← StringPart.text? k
    let known ← knownMembers? names rest
    if name ∈ names then
      if known.any (·.1 = name) then none else some ((name, v) :: known)
    else if v.skippable then some known
    else none

/-- The fields of a record in their declared order. An object may leave fields out; an array may leave
out as many as `spare`, at the end. -/
def recordFields? (names : List String) (spare : Nat) : JsonValue → Option (List (Option JsonValue))
  | .object members => do
    let known ← knownMembers? (names.map String.toList) members
    return names.map fun name => (known.find? (·.1 = name.toList)).map (·.2)
  | .array items =>
    if items.length ≤ names.length && names.length ≤ items.length + spare then
      some (items.map some ++ List.replicate (names.length - items.length) none)
    else none
  | _ => none

/-- An object with members of the given names. -/
def recordObject (members : List (String × JsonValue)) : JsonValue :=
  .object (members.map fun (name, v) => (StringPart.ofText name.toList, v))

end Attestation
