/-
Module: Attestation.Json.Value
Purpose: JSON documents with numbers and strings as they are written, and the text of a document. What a
  string means depends on who reads it: as text, its escapes must name characters; as bytes, half of a
  surrogate pair stands for itself; when it is skipped, its escapes only have to be well formed.
Main exports: StringPart, JsonValue, JsonValue.write, StringPart.text?, StringPart.rawBytes,
  JsonValue.skippable
-/

namespace Attestation

/-- A piece of a string literal: a character as it stands, a character after a backslash, or a code unit
written with four hex digits. -/
inductive StringPart where
  | plain (c : Char)
  | escaped (c : Char)
  | unit (digits : List Char) (value : Nat)
deriving DecidableEq

/-- A document. -/
inductive JsonValue where
  | null
  | bool (b : Bool)
  | number (lexeme : List Char)
  | string (parts : List StringPart)
  | array (items : List JsonValue)
  | object (members : List (List StringPart × JsonValue))

namespace StringPart

/-- The characters of a piece as written. -/
def write : StringPart → List Char
  | plain c => [c]
  | escaped c => ['\\', c]
  | unit digits _ => '\\' :: 'u' :: digits

/-- The pieces of a text that needs no escapes. -/
def ofText (text : List Char) : List StringPart := text.map plain

/-- The code point that a one-letter escape stands for. -/
def escapeValue? : Char → Option Nat
  | '"' => some 0x22
  | '\\' => some 0x5c
  | '/' => some 0x2f
  | 'b' => some 0x08
  | 'f' => some 0x0c
  | 'n' => some 0x0a
  | 'r' => some 0x0d
  | 't' => some 0x09
  | _ => none

/-- Whether a code unit opens a surrogate pair. -/
def isHighSurrogate (u : Nat) : Bool := 0xD800 ≤ u && u < 0xDC00

/-- Whether a code unit closes a surrogate pair. -/
def isLowSurrogate (u : Nat) : Bool := 0xDC00 ≤ u && u < 0xE000

/-- The code points of a string; halves of surrogate pairs that have no counterpart stay as they are. -/
def codePoints : List StringPart → List Nat
  | [] => []
  | plain c :: rest => c.toNat :: codePoints rest
  | escaped c :: rest => (escapeValue? c).getD 0 :: codePoints rest
  | unit _ u :: unit digits v :: rest =>
    if isHighSurrogate u && isLowSurrogate v then
      (0x10000 + (u - 0xD800) * 0x400 + (v - 0xDC00)) :: codePoints rest
    else u :: codePoints (unit digits v :: rest)
  | unit _ u :: rest => u :: codePoints rest

/-- Whether no control character stands in a string as it is. -/
def noControl (parts : List StringPart) : Bool :=
  parts.all fun
    | plain c => 0x20 ≤ c.toNat
    | _ => true

/-- The text of a string, which has neither bare control characters nor single surrogates. -/
def text? (parts : List StringPart) : Option (List Char) :=
  if noControl parts then
    (codePoints parts).mapM fun n => if h : n.isValidChar then some (Char.ofNatAux n h) else none
  else none

/-- The bytes of a code point in UTF-8, extended to single surrogates. -/
def codePointBytes (n : Nat) : List UInt8 :=
  if n < 0x80 then [UInt8.ofNat n]
  else if n < 0x800 then [UInt8.ofNat (0xC0 + n / 0x40), UInt8.ofNat (0x80 + n % 0x40)]
  else if n < 0x10000 then
    [UInt8.ofNat (0xE0 + n / 0x1000), UInt8.ofNat (0x80 + n / 0x40 % 0x40), UInt8.ofNat (0x80 + n % 0x40)]
  else
    [UInt8.ofNat (0xF0 + n / 0x40000), UInt8.ofNat (0x80 + n / 0x1000 % 0x40),
      UInt8.ofNat (0x80 + n / 0x40 % 0x40), UInt8.ofNat (0x80 + n % 0x40)]

/-- The bytes of a string that is read as bytes. -/
def rawBytes (parts : List StringPart) : List UInt8 := (codePoints parts).flatMap codePointBytes

end StringPart

namespace JsonValue

/-- The characters of a string literal between its quotes. -/
def writeParts (parts : List StringPart) : List Char := '"' :: (parts.flatMap StringPart.write ++ ['"'])

mutual

/-- The text of a document without blanks. -/
def write : JsonValue → List Char
  | null => ['n', 'u', 'l', 'l']
  | bool true => ['t', 'r', 'u', 'e']
  | bool false => ['f', 'a', 'l', 's', 'e']
  | number lexeme => lexeme
  | string parts => writeParts parts
  | array items => '[' :: (writeItems items ++ [']'])
  | object members => '\x7b' :: (writeMembers members ++ ['\x7d'])

/-- The items of an array, separated by commas. -/
def writeItems : List JsonValue → List Char
  | [] => []
  | [v] => write v
  | v :: w :: rest => write v ++ ',' :: writeItems (w :: rest)

/-- The members of an object, separated by commas. -/
def writeMembers : List (List StringPart × JsonValue) → List Char
  | [] => []
  | [(k, v)] => writeParts k ++ ':' :: write v
  | (k, v) :: m :: rest => writeParts k ++ ':' :: (write v ++ ',' :: writeMembers (m :: rest))

end

mutual

/-- Whether a document may stand where nobody reads it. -/
def skippable : JsonValue → Bool
  | string parts => StringPart.noControl parts
  | array items => skippableItems items
  | object members => skippableMembers members
  | _ => true

def skippableItems : List JsonValue → Bool
  | [] => true
  | v :: rest => skippable v && skippableItems rest

def skippableMembers : List (List StringPart × JsonValue) → Bool
  | [] => true
  | (k, v) :: rest => StringPart.noControl k && skippable v && skippableMembers rest

end

/-- The text of a natural number. -/
def ofNat (n : Nat) : JsonValue := number (Nat.toDigits 10 n)

/-- A string without escapes. -/
def ofText (text : List Char) : JsonValue := string (StringPart.ofText text)

end JsonValue

end Attestation
