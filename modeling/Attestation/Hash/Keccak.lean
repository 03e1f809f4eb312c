/-
Module: Attestation.Hash.Keccak
Purpose: The 256-bit Keccak hash in its first padding (a one byte, zeros, a closing high bit), as used
  for the digests that operators sign.
Main exports: Keccak.hash256
-/
import Attestation.Bytes

namespace Attestation.Keccak

/-- The permutation's state: 25 lanes of 64 bits, lane `(x, y)` at position `x + 5 * y`. -/
abbrev State := Vector UInt64 25

/-- The lane at `(x, y)`, both coordinates taken modulo five. -/
def State.lane (s : State) (x y : Nat) : UInt64 := s.get ⟨x % 5 + 5 * (y % 5), by omega⟩

/-- Builds a state lane by lane from the coordinates. -/
def State.ofLanes (f : Nat → Nat → UInt64) : State := Vector.ofFn fun i => f (i.val % 5) (i.val / 5)

/-- Rotation by a number of places towards the high bit. -/
def rotate (w : UInt64) (places : Nat) : UInt64 :=
  if places % 64 = 0 then w
  else (w <<< UInt64.ofNat (places % 64)) ||| (w >>> UInt64.ofNat (64 - places % 64))

/-- How far each lane is rotated, by position. -/
def offsets : Vector Nat 25 := #v[
    0, 1, 62, 28, 27,
    36, 44, 6, 55, 20,
    3, 10, 43, 25, 39,
    41, 45, 15, 21, 8,
    18, 2, 61, 56, 14]

/-- The constant added to the first lane in each round. -/
def roundConstants : List UInt64 := [
    0x0000000000000001, 0x0000000000008082, 0x800000000000808a, 0x8000000080008000,
    0x000000000000808b, 0x0000000080000001, 0x8000000080008081, 0x8000000000008009,
    0x000000000000008a, 0x0000000000000088, 0x0000000080008009, 0x000000008000000a,
    0x000000008000808b, 0x800000000000008b, 0x8000000000008089, 0x8000000000008003,
    0x8000000000008002, 0x8000000000000080, 0x000000000000800a, 0x800000008000000a,
    0x8000000080008081, 0x8000000000008080, 0x0000000080000001, 0x8000000080008008]

/-- One round: column parity, rotation and transposition, the nonlinear row step, the round constant. -/
def round (s : State) (constant : UInt64) : State :=
  let parity := Vector.ofFn fun (x : Fin 5) =>
    s.lane x 0 ^^^ s.lane x 1 ^^^ s.lane x 2 ^^^ s.lane x 3 ^^^ s.lane x 4
  let column (x : Nat) : UInt64 := parity.get ⟨x % 5, by omega⟩
  let mixed := State.ofLanes fun x y => s.lane x y ^^^ column (x + 4) ^^^ rotate (column (x + 1)) 1
  let moved := State.ofLanes fun x y =>
    let origin := x + 3 * y
    rotate (mixed.lane origin x) (offsets.get ⟨origin % 5 + 5 * (x % 5), by omega⟩)
  let rows := State.ofLanes fun x y =>
    moved.lane x y ^^^ (~~~(moved.lane (x + 1) y) &&& moved.lane (x + 2) y)
  State.ofLanes fun x y => if x = 0 ∧ y = 0 then rows.lane 0 0 ^^^ constant else rows.lane x y

/-- The permutation: 24 rounds. -/
def permute (s : State) : State := roundConstants.foldl round s

/-- The number of message bytes that one permutation absorbs. -/
def rate : Nat := 136

/-- Mixes one block into the state, eight little-endian bytes to a lane. -/
def absorb (s : State) (block : List UInt8) : State :=
  permute (State.ofLanes fun x y =>
    let lane := (block.drop (8 * (x + 5 * y))).take 8
    s.lane x y ^^^ UInt64.ofNat (LittleEndian.value lane))

/-- Absorbs a message of `blocks` whole blocks. -/
def absorbAll (blocks : Nat) (s : State) (message : List UInt8) : State :=
  match blocks with
  | 0 => s
  | blocks + 1 => absorbAll blocks (absorb s (message.take rate)) (message.drop rate)

/-- Appends a one byte and zeros up to a whole number of blocks, and sets the last byte's high bit. -/
def pad (message : List UInt8) : List UInt8 :=
  let zeros := rate - 1 - message.length % rate
  if zeros = 0 then message ++ [0x81] else message ++ 0x01 :: (List.replicate (zeros - 1) 0 ++ [0x80])

/-- The 256-bit digest of a message. -/
def hash256 (message : List UInt8) : Bytes 32 :=
  let last := absorbAll (message.length / rate + 1) (Vector.replicate 25 0) (pad message)
  let lane (x : Nat) := LittleEndian.encode 8 (last.lane x 0).toNat
  ⟨lane 0 ++ lane 1 ++ lane 2 ++ lane 3, by simp [lane]⟩

end Attestation.Keccak
