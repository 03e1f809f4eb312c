/-
Module: Attestation.Response
Purpose: Task responses as plain data, and their binary form. Numbers have a fixed width and come least
  significant byte first; text, byte strings, sequences and maps are preceded by a count of eight bytes;
  an option by one byte, a variant by its index in four bytes; tuples, units and characters by nothing.
Main exports: Width, Response, Response.encode
-/
import Attestation.Bytes

namespace Attestation

/-- The widths of machine integers. -/
inductive Width where
  | w8
  | w16
  | w32
  | w64
  | w128
deriving DecidableEq

/-- The number of bytes of an integer of this width. -/
def Width.bytes : Width → Nat
  | w8 => 1
  | w16 => 2
  | w32 => 4
  | w64 => 8
  | w128 => 16

/-- A task response. The last two forms have no binary form: a sequence whose length is not known before
it is written, and a value that refuses to be written, with its reason. -/
inductive Response where
  | unsigned (width : Width) (value : Nat)
  | signed (width : Width) (value : Int)
  | bool (value : Bool)
  | char (value : Char)
  | text (value : String)
  | bytes (value : List UInt8)
  | unit
  | none
  | some (value : Response)
  | sequence (items : List Response)
  | tuple (items : List Response)
  | map (entries : List (Response × Response))
  | variant (index : UInt32) (payload : Option Response)
  | unsized
  | refusing (reason : String)

namespace Response

/-- The reason given for a sequence of unknown length. -/
def unsizedReason : String :=
  "Bincode can only encode sequences and maps that have a knowable size ahead of time"

/-- A count or an index in little-endian bytes. -/
def count (n : Nat) : List UInt8 := LittleEndian.encode 8 n

mutual

/-- The binary form, or the reason of the first part that has none. -/
def encode : Response → Except String (List UInt8)
  | unsigned w v => .ok (LittleEndian.encode w.bytes v)
  | signed w v => .ok (LittleEndian.encode w.bytes (v % LittleEndian.bound w.bytes).toNat)
  | bool b => .ok [if b then 1 else 0]
  | char c => .ok (String.utf8EncodeChar c)
  | text s => .ok (count s.utf8ByteSize ++ s.toUTF8.data.toList)
  | bytes bs => .ok (count bs.length ++ bs)
  | unit => .ok []
  | none => .ok [0]
  | some r => do
    let body ← encode r
    return 1 :: body
  | sequence items => do
    let body ← encodeAll items
    return count items.length ++ body
  | tuple items => encodeAll items
  | map entries => do
    let body ← encodeEntries entries
    return count entries.length ++ body
  | variant i payload => do
    let body ← match payload with
      | Option.none => pure []
      | Option.some r => encode r
    return LittleEndian.encode 4 i.toNat ++ body
  | unsized => .error unsizedReason
  | refusing reason => .error reason

/-- The binary forms of the items, one after the other. -/
def encodeAll : List Response → Except String (List UInt8)
  | [] => .ok []
  | r :: rest => do
    let head ← encode r
    let tail ← encodeAll rest
    return head ++ tail

/-- The binary forms of keys and values, each key before its value. -/
def encodeEntries : List (Response × Response) → Except String (List UInt8)
  | [] => .ok []
  | (k, v) :: rest => do
    let key ← encode k
    let value ← encode v
    let tail ← encodeEntries rest
    return key ++ value ++ tail

end

end Response

end Attestation
