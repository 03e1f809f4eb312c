/-
Module: Attestation.Binary.Format
Purpose: Binary forms that are read from the front of a byte string and leave the rest. Forms of parts
  are written one after the other; none of them needs a mark for its end.
Main exports: BinaryFormat, BinaryFormat.pair, BinaryFormat.convert, BinaryFormat.list,
  BinaryFormat.option, BinaryFormat.sizedBytes, BinaryFormat.u256
-/
import Attestation.U256Text

namespace Attestation

/-- A way to write values of a type and to read one from the front of a byte string. -/
structure BinaryFormat (α : Type) where
  encode : α → List UInt8
  decode? : List UInt8 → Option (α × List UInt8)

namespace BinaryFormat

variable {α β : Type}

/-- The first `n` bytes and the rest, if there are that many. -/
def split? (n : Nat) (input : List UInt8) : Option (List UInt8 × List UInt8) :=
  if n ≤ input.length then some (input.take n, input.drop n) else none

/-- A number of `n` bytes, the least significant first. -/
def word (n : Nat) : BinaryFormat Nat where
  encode v := LittleEndian.encode n v
  decode? input := (split? n input).map fun (bytes, rest) => (LittleEndian.value bytes, rest)

/-- The values of another type, through a pair of conversions. -/
def convert (f : BinaryFormat α) (there : β → α) (back : α → β) : BinaryFormat β where
  encode b := f.encode (there b)
  decode? input := (f.decode? input).map fun (a, rest) => (back a, rest)

/-- One value after the other. -/
def pair (f : BinaryFormat α) (g : BinaryFormat β) : BinaryFormat (α × β) where
  encode p := f.encode p.1 ++ g.encode p.2
  decode? input := do
    let (a, rest) ← f.decode? input
    let (b, rest) ← g.decode? rest
    return ((a, b), rest)

def u8 : BinaryFormat UInt8 := (word 1).convert UInt8.toNat UInt8.ofNat

def u32 : BinaryFormat UInt32 := (word 4).convert UInt32.toNat UInt32.ofNat

/-- Exactly `n` bytes, as they are. -/
def bytes (n : Nat) : BinaryFormat (Bytes n) where
  encode b := b.toList
  decode? input := do
    let (b, rest) ← split? n input
    let b ← Bytes.ofList? b
    return (b, rest)

/-- Reads as many values as the first argument says. -/
def decodeMany? (f : BinaryFormat α) : Nat → List UInt8 → Option (List α × List UInt8)
  | 0, input => some ([], input)
  | n + 1, input => do
    let (a, rest) ← f.decode? input
    let (as, rest) ← decodeMany? f n rest
    return (a :: as, rest)

/-- A count of eight bytes and as many values. -/
def list (f : BinaryFormat α) : BinaryFormat (List α) where
  encode as := (word 8).encode as.length ++ as.flatMap f.encode
  decode? input := do
    let (n, rest) ← (word 8).decode? input
    decodeMany? f n rest

/-- A byte that is zero for nothing and one for a value, which then follows. -/
def option (f : BinaryFormat α) : BinaryFormat (Option α) where
  encode
    | none => [0]
    | some a => 1 :: f.encode a
  decode?
    | 0 :: rest => some (none, rest)
    | 1 :: rest => (f.decode? rest).map fun (a, rest) => (some a, rest)
    | _ => none

/-- A length of eight bytes and a byte string of that length. -/
def sized : BinaryFormat (List UInt8) where
  encode b := (word 8).encode b.length ++ b
  decode? input := do
    let (n, rest) ← (word 8).decode? input
    split? n rest

/-- Exactly `n` bytes behind their length. -/
def sizedBytes (n : Nat) : BinaryFormat (Bytes n) where
  encode b := sized.encode b.toList
  decode? input := do
    let (b, rest) ← sized.decode? input
    let b ← Bytes.ofList? b
    return (b, rest)

/-- An amount as hex text behind its length. -/
def u256 : BinaryFormat U256 where
  encode a := sized.encode (a.hexText.map fun c => UInt8.ofNat c.toNat)
  decode? input := do
    let (text, rest) ← sized.decode? input
    let a ← U256.ofHexText? (text.map fun b => Char.ofNat b.toNat)
    return (a, rest)

end BinaryFormat

end Attestation
