/-
Module: Attestation.Bls
Purpose: BLS signatures over a pairing curve, with signatures in the first group and the keys that
  verify them in the second. Encodings travel between parties, so every operation starts from bytes.
  Verification answers no for points outside the subgroups; merging refuses them. The operand that is
  already part of a sum is only decoded, since it was checked when it was merged.
Main exports: Signature, G1PublicKey, G2PublicKey, BlsError, Bls.verify, Bls.addSignature,
  Bls.addPublicKey, Bls.aggregateSignatures, Bls.aggregateG2, Bls.aggregateG1
-/
import Attestation.Curve.PairingCurve

namespace Attestation

/-- A compressed signature point. -/
structure Signature where
  bytes : Bytes 48
deriving DecidableEq

/-- A compressed public key of the first group, which stands for an operator on chain. -/
structure G1PublicKey where
  bytes : Bytes 48
deriving DecidableEq

/-- A compressed public key of the second group, against which signatures are verified. -/
structure G2PublicKey where
  bytes : Bytes 96
deriving DecidableEq

/-- What operators sign: the hash of a task response. -/
abbrev Digest := Bytes 32

/-- Why a curve operation failed. -/
inductive BlsError where
  | invalidSignature
  | invalidPublicKey
  | emptyAggregation
  | operationFailed (reason : String)
deriving DecidableEq

namespace BlsError

/-- A point outside the subgroup of prime order. -/
def notInGroup : BlsError := operationFailed "BLST_POINT_NOT_IN_GROUP"

/-- A public key at infinity. -/
def keyIsInfinity : BlsError := operationFailed "BLST_PK_IS_INFINITY"

def message : BlsError → String
  | invalidSignature => "Invalid signature encoding"
  | invalidPublicKey => "Invalid public key encoding"
  | emptyAggregation => "Cannot aggregate empty input"
  | operationFailed reason => s!"BLS operation failed: {reason}"

end BlsError

namespace PointGroup

variable {n : Nat} (G : PointGroup n)

/-- Decodes a point or fails with the given error. -/
def decode (error : BlsError) (bytes : Bytes n) : Except BlsError G.Point :=
  match G.decode? bytes with
  | some p => .ok p
  | none => .error error

/-- Refuses a point outside the subgroup. -/
def checkMember (p : G.Point) : Except BlsError Unit :=
  if G.inSubgroup p then .ok () else .error .notInGroup

/-- Refuses a point that is no public key: infinity, or a point outside the subgroup. -/
def checkKey (p : G.Point) : Except BlsError Unit :=
  if G.isIdentity p then .error .keyIsInfinity else G.checkMember p

/-- Adds a key to the sum of the keys before it. -/
def addKey (a b : Bytes n) : Except BlsError (Bytes n) := do
  let p ← G.decode .invalidPublicKey a
  let q ← G.decode .invalidPublicKey b
  G.checkKey q
  return G.encode (G.add p q)

/-- The sum of a list of keys. All of them are decoded before the first is checked. -/
def sumKeys (keys : List (Bytes n)) : Except BlsError (Bytes n) := do
  if keys.isEmpty then throw .emptyAggregation
  let points ← keys.mapM (G.decode .invalidPublicKey)
  points.forM G.checkKey
  return G.encode (points.foldl G.add G.identity)

end PointGroup

namespace Bls

variable (C : PairingCurve)

/-- Whether the signature of a digest is valid under a key. -/
def verify (digest : Digest) (signature : Signature) (key : G2PublicKey) : Except BlsError Bool := do
  let s ← C.G1.decode .invalidSignature signature.bytes
  let k ← C.G2.decode .invalidPublicKey key.bytes
  return C.G1.inSubgroup s && !C.G2.isIdentity k && C.G2.inSubgroup k &&
    @decide _ (C.targetEq (C.pair s C.generator) (C.pair (C.hashToG1 digest) k))

/-- Adds a signature to an aggregate. -/
def addSignature (aggregate added : Signature) : Except BlsError Signature := do
  let p ← C.G1.decode .invalidSignature aggregate.bytes
  let q ← C.G1.decode .invalidSignature added.bytes
  C.G1.checkMember q
  return ⟨C.G1.encode (C.G1.add p q)⟩

/-- Adds a key to an aggregate key. -/
def addPublicKey (aggregate added : G2PublicKey) : Except BlsError G2PublicKey := do
  let sum ← C.G2.addKey aggregate.bytes added.bytes
  return ⟨sum⟩

/-- The sum of a list of signatures. The first is decoded only; each later one is decoded and checked
before the next is looked at. -/
def aggregateSignatures : List Signature → Except BlsError Signature
  | [] => .error .emptyAggregation
  | first :: rest => do
    let start ← C.G1.decode .invalidSignature first.bytes
    let sum ← rest.foldlM (fun (acc : C.G1.Point) (s : Signature) => do
      let q ← C.G1.decode .invalidSignature s.bytes
      C.G1.checkMember q
      pure (C.G1.add acc q)) start
    return ⟨C.G1.encode sum⟩

/-- The sum of a list of keys of the second group. -/
def aggregateG2 (keys : List G2PublicKey) : Except BlsError G2PublicKey := do
  let sum ← C.G2.sumKeys (keys.map (·.bytes))
  return ⟨sum⟩

/-- The sum of a list of keys of the first group. -/
def aggregateG1 (keys : List G1PublicKey) : Except BlsError G1PublicKey := do
  let sum ← C.G1.sumKeys (keys.map (·.bytes))
  return ⟨sum⟩

end Bls

end Attestation
