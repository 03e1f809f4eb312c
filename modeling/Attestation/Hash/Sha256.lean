/-
Module: Attestation.Hash.Sha256
Purpose: SHA-256, the keyed hash HMAC built on it, and the key derivation function HKDF built on that.
Main exports: Sha256.hash, Sha256.hmac, Sha256.hkdfExtract, Sha256.hkdfExpand
-/
import Attestation.Bytes

namespace Attestation.Sha256

/-- The eight working words. -/
abbrev State := Vector UInt32 8

/-- The words a hash starts from: the fractional parts of the square roots of the first eight primes. -/
def initial : State := #v[
    0x6a09e667, 0xbb67ae85, 0x3c6ef372, 0xa54ff53a,
    0x510e527f, 0x9b05688c, 0x1f83d9ab, 0x5be0cd19]

/-- The constant of each of the 64 steps: the fractional parts of the cube roots of the first 64 primes.
-/
def stepConstants : List UInt32 := [
    0x428a2f98, 0x71374491, 0xb5c0fbcf, 0xe9b5dba5, 0x3956c25b, 0x59f111f1, 0x923f82a4, 0xab1c5ed5,
    0xd807aa98, 0x12835b01, 0x243185be, 0x550c7dc3, 0x72be5d74, 0x80deb1fe, 0x9bdc06a7, 0xc19bf174,
    0xe49b69c1, 0xefbe4786, 0x0fc19dc6, 0x240ca1cc, 0x2de92c6f, 0x4a7484aa, 0x5cb0a9dc, 0x76f988da,
    0x983e5152, 0xa831c66d, 0xb00327c8, 0xbf597fc7, 0xc6e00bf3, 0xd5a79147, 0x06ca6351, 0x14292967,
    0x27b70a85, 0x2e1b2138, 0x4d2c6dfc, 0x53380d13, 0x650a7354, 0x766a0abb, 0x81c2c92e, 0x92722c85,
    0xa2bfe8a1, 0xa81a664b, 0xc24b8b70, 0xc76c51a3, 0xd192e819, 0xd6990624, 0xf40e3585, 0x106aa070,
    0x19a4c116, 0x1e376c08, 0x2748774c, 0x34b0bcb5, 0x391c0cb3, 0x4ed8aa4a, 0x5b9cca4f, 0x682e6ff3,
    0x748f82ee, 0x78a5636f, 0x84c87814, 0x8cc70208, 0x90befffa, 0xa4506ceb, 0xbef9a3f7, 0xc67178f2]

/-- Rotation towards the low bit, by 1 to 31 places. -/
def rotate (w : UInt32) (places : UInt32) : UInt32 := (w >>> places) ||| (w <<< (32 - places))

/-- The next message word from the last sixteen, which are listed newest first. -/
def nextWord (recent : List UInt32) : UInt32 :=
  let word (i : Nat) := (recent[i]?).getD 0
  let s0 := rotate (word 14) 7 ^^^ rotate (word 14) 18 ^^^ (word 14 >>> 3)
  let s1 := rotate (word 1) 17 ^^^ rotate (word 1) 19 ^^^ (word 1 >>> 10)
  word 15 + s0 + word 6 + s1

/-- Extends a schedule, kept newest first, by `n` words. -/
def extend : Nat → List UInt32 → List UInt32
  | 0, words => words
  | n + 1, words => extend n (nextWord (words.take 16) :: words)

/-- The big-endian words of a byte string whose length is a multiple of four. -/
def words : List UInt8 → List UInt32
  | a :: b :: c :: d :: rest => UInt32.ofNat (BigEndian.value [a, b, c, d]) :: words rest
  | _ => []

/-- One step, which takes a step constant and a message word. -/
def step (s : State) (input : UInt32 × UInt32) : State :=
  let (a, b, c, d) := (s[0], s[1], s[2], s[3])
  let (e, f, g, h) := (s[4], s[5], s[6], s[7])
  let s1 := rotate e 6 ^^^ rotate e 11 ^^^ rotate e 25
  let choice := (e &&& f) ^^^ (~~~e &&& g)
  let t1 := h + s1 + choice + input.1 + input.2
  let s0 := rotate a 2 ^^^ rotate a 13 ^^^ rotate a 22
  let majority := (a &&& b) ^^^ (a &&& c) ^^^ (b &&& c)
  #v[t1 + (s0 + majority), a, b, c, d + t1, e, f, g]

/-- Mixes one block of 64 bytes into the state. -/
def compress (s : State) (block : List UInt8) : State :=
  let schedule := (extend 48 (words block).reverse).reverse
  Vector.zipWith (· + ·) s ((stepConstants.zip schedule).foldl step s)

/-- Mixes a message of `blocks` whole blocks into the state. -/
def compressAll (blocks : Nat) (s : State) (message : List UInt8) : State :=
  match blocks with
  | 0 => s
  | blocks + 1 => compressAll blocks (compress s (message.take 64)) (message.drop 64)

/-- Appends a one bit, zeros, and the length in bits as eight bytes, up to a whole number of blocks. -/
def pad (message : List UInt8) : List UInt8 :=
  let zeros := (119 - message.length % 64) % 64
  message ++ 0x80 :: (List.replicate zeros 0 ++ BigEndian.encode 8 (8 * message.length))

/-- The digest of a message. -/
def hash (message : List UInt8) : Bytes 32 :=
  let padded := pad message
  let s := compressAll (padded.length / 64) initial padded
  let word (w : UInt32) := BigEndian.encode 4 w.toNat
  ⟨word s[0] ++ word s[1] ++ word s[2] ++ word s[3] ++ word s[4] ++ word s[5] ++ word s[6] ++ word s[7],
    by simp [word]⟩

/-- The keyed hash: a key longer than a block is hashed first. -/
def hmac (key message : List UInt8) : Bytes 32 :=
  let short := if key.length > 64 then (hash key).toList else key
  let block := short ++ List.replicate (64 - short.length) 0
  hash (block.map (· ^^^ 0x5c) ++ (hash (block.map (· ^^^ 0x36) ++ message)).toList)

/-- Concentrates the entropy of a secret into one pseudorandom key. -/
def hkdfExtract (salt secret : List UInt8) : Bytes 32 := hmac salt secret

/-- Chained output blocks, as many as the first argument says; the next is numbered `i` and follows the
block `previous`. -/
def expandBlocks (key info : List UInt8) : Nat → Nat → List UInt8 → List UInt8
  | 0, _, _ => []
  | n + 1, i, previous =>
    let block := (hmac key (previous ++ info ++ [UInt8.ofNat i])).toList
    block ++ expandBlocks key info n (i + 1) block

/-- Stretches a pseudorandom key to `length` bytes that depend on `info`. -/
def hkdfExpand (key info : List UInt8) (length : Nat) : List UInt8 :=
  (expandBlocks key info ((length + 31) / 32) 1 []).take length

end Attestation.Sha256
