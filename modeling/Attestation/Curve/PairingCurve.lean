/-
Module: Attestation.Curve.PairingCurve
Purpose: What a signature scheme needs of a pairing-friendly curve: two groups of points with compressed
  encodings, a map from digests to points of the first, and a pairing. The scheme is written against
  this interface, so its theorems name the laws of the curve that they use.
Main exports: PointGroup, PairingCurve
-/
import Attestation.Bytes

namespace Attestation

/-- Points of a curve with a compressed form of `n` bytes. `decode?` accepts every point of the curve;
`inSubgroup` tells which of them belong to the subgroup of prime order. -/
structure PointGroup (n : Nat) where
  Point : Type
  identity : Point
  isIdentity : Point → Bool
  add : Point → Point → Point
  inSubgroup : Point → Bool
  encode : Point → Bytes n
  decode? : Bytes n → Option Point

/-- A pair of point groups with a pairing into a third group. -/
structure PairingCurve where
  G1 : PointGroup 48
  G2 : PointGroup 96
  Target : Type
  targetEq : DecidableEq Target
  /-- The point of the second group that secret keys multiply. -/
  generator : G2.Point
  hashToG1 : Bytes 32 → G1.Point
  pair : G1.Point → G2.Point → Target

end Attestation
