/-
Module: Attestation.Curve.Bls12381
Purpose: BLS12-381 as a pairing curve, and secret keys derived from secret byte strings.
Main exports: bls12381, secretKey
-/
import Attestation.Curve.PairingCurve
import Attestation.Curve.HashToCurve
import Attestation.Curve.Pairing

namespace Attestation

open Curve

/-- The curve that signatures (in the first group) and public keys (in both) live on. -/
def bls12381 : PairingCurve where
  G1 :=
    { Point := Point Fp
      identity := .infinity
      isIdentity := (· == .infinity)
      add := Point.add G1.b
      inSubgroup := G1.inSubgroup
      encode := G1.encode
      decode? := G1.decode? }
  G2 :=
    { Point := Point Fp2
      identity := .infinity
      isIdentity := (· == .infinity)
      add := Point.add G2.b
      inSubgroup := G2.inSubgroup
      encode := G2.encode
      decode? := G2.decode? }
  Target := Fp12
  targetEq := inferInstance
  generator := G2.generator
  hashToG1 := hashToG1
  pair := pair

/-- The salt that key derivation starts from. -/
def keySalt : List UInt8 := (Sha256.hash "BLS-SIG-KEYGEN-SALT-".toUTF8.toList).toList

/-- The secret key derived from a secret byte string, a number below the subgroup's order. -/
def secretKey (secret : List UInt8) : Nat :=
  let concentrated := (Sha256.hkdfExtract keySalt (secret ++ [0])).toList
  BigEndian.value (Sha256.hkdfExpand concentrated [0, 48] 48) % subgroupOrder

end Attestation
