/-
Module: Attestation.Curve.HashToCurve
Purpose: The map from messages to points of the first group: a message is expanded to two field
  elements, each is mapped to the auxiliary curve and from there to `y² = x³ + 4`, and the sum of the
  two points is multiplied into the subgroup.
Main exports: expandMessage, hashToField, mapToCurve, hashToG1
-/
import Attestation.Curve.Compressed
import Attestation.Curve.Isogeny
import Attestation.Hash.Sha256

namespace Attestation.Curve

/-- The tag that separates signatures of this scheme, with proofs of possession, from all other uses. -/
def signatureTag : List UInt8 := "BLS_SIG_BLS12381G1_XMD:SHA-256_SSWU_RO_POP_".toUTF8.toList

/-- Chained digests: each hashes the first digest mixed with the one before it, a counter and the tag.
-/
def expansionBlocks (first tag : List UInt8) : Nat → Nat → List UInt8 → List UInt8
  | 0, _, _ => []
  | n + 1, i, previous =>
    let mixed := List.zipWith (· ^^^ ·) first previous
    let block := (Sha256.hash (mixed ++ UInt8.ofNat i :: tag)).toList
    block ++ expansionBlocks first tag n (i + 1) block

/-- A uniformly distributed byte string of the given length, a multiple of 32, for a message and a tag.
-/
def expandMessage (message tag : List UInt8) (length : Nat) : List UInt8 :=
  let sizedTag := tag ++ [UInt8.ofNat tag.length]
  let start := List.replicate 64 0 ++ message ++ BigEndian.encode 2 length ++ 0 :: sizedTag
  let first := (Sha256.hash start).toList
  expansionBlocks first sizedTag (length / 32) 1 (List.replicate 32 0)

/-- Two field elements for a message, 64 bytes each. -/
def hashToField (message tag : List UInt8) : Fp × Fp :=
  let bytes := expandMessage message tag 128
  (Fp.ofNat (BigEndian.value (bytes.take 64)), Fp.ofNat (BigEndian.value (bytes.drop 64)))

/-- The right-hand side of the auxiliary curve's equation. -/
def auxiliary (x : Fp) : Fp := (x * x + Isogeny.a) * x + Isogeny.b

/-- The point of `y² = x³ + 4` for a field element. Of two candidates for x on the auxiliary curve the
first that has a y counts, and y gets the parity of the element. -/
def mapToCurve (u : Fp) : Point Fp :=
  let zu2 := Fp.ofNat 11 * (u * u)
  let t := zu2 * zu2 + zu2
  let x1 := if t = 0 then Isogeny.b * (Fp.ofNat 11 * Isogeny.a)⁻¹
    else -(Isogeny.b * Isogeny.a⁻¹) * (1 + t⁻¹)
  let x2 := zu2 * x1
  let (x, y) := match (auxiliary x1).sqrt? with
    | some y => (x1, y)
    | none => (x2, ((auxiliary x2).sqrt?).getD 0)
  Isogeny.apply x (if y.isOdd = u.isOdd then y else -y)

/-- The factor that takes every point of the first curve into the subgroup. -/
def effectiveCofactor : Nat := 0xd201000000010001

/-- The point of the first group for a digest. -/
def hashToG1 (digest : Bytes 32) : Point Fp :=
  let (u, v) := hashToField digest.toList signatureTag
  ((mapToCurve u).add G1.b (mapToCurve v)).multiply G1.b effectiveCofactor

end Attestation.Curve
