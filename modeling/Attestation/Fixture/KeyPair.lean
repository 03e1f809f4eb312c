/-
Module: Attestation.Fixture.KeyPair
Purpose: Reproducible key pairs and operators for examples and tests: the same seed always gives the
  same keys, and a test operator's id is its seed.
Main exports: KeyPair, KeyPair.ofSeed, KeyPair.sign, TestOperator, TestOperator.membership,
  TestOperator.snapshot?
-/
import Attestation.Curve.Bls12381
import Attestation.Hash.Keccak
import Attestation.Registry.Membership
import Attestation.Task.Aggregate

namespace Attestation

open Curve

/-- A secret key. -/
structure KeyPair where
  secret : Nat

namespace KeyPair

/-- The key pair of a 64-bit seed. -/
def ofSeed (seed : UInt64) : KeyPair :=
  ⟨secretKey (Keccak.hash256
    ("avs-bls-test-key".toUTF8.data.toList ++ BigEndian.encode 8 seed.toNat)).toList⟩

/-- The key that stands for the operator on chain. -/
def g1 (k : KeyPair) : G1PublicKey := ⟨G1.encode (G1.generator.multiply G1.b k.secret)⟩

/-- The key that verifies signatures. -/
def g2 (k : KeyPair) : G2PublicKey := ⟨G2.encode (G2.generator.multiply G2.b k.secret)⟩

/-- The signature of a digest. -/
def sign (k : KeyPair) (digest : Digest) : Signature :=
  ⟨G1.encode ((hashToG1 digest).multiply G1.b k.secret)⟩

/-- Decimal bytes between brackets, separated by a comma and a blank. -/
def byteListText (bytes : List UInt8) : String :=
  "[" ++ ", ".intercalate (bytes.map fun b => toString b.toNat) ++ "]"

/-- A description that shows the verification key and never the secret. -/
def debugText (k : KeyPair) : String :=
  "BlsKeyPair \x7b g2: G2PublicKey \x7b bytes: " ++ byteListText k.g2.bytes.toList ++ " \x7d \x7d"

end KeyPair

/-- An operator with the keys of its id. -/
structure TestOperator where
  id : UInt64
  stakes : Stakes
  g2Registered : Bool

namespace TestOperator

def keys (o : TestOperator) : KeyPair := .ofSeed o.id

def operatorId (o : TestOperator) : OperatorId := ⟨Bytes.ofNat 32 o.id.toNat⟩

def pubkeys (o : TestOperator) : OperatorPubkeys :=
  ⟨o.keys.g1, if o.g2Registered then some o.keys.g2 else none⟩

/-- The operator's state at a block. -/
def state (o : TestOperator) (block : BlockNumber) : OperatorState :=
  ⟨o.operatorId, o.pubkeys, o.stakes, block⟩

/-- A registry of operators, all registered at the same block. -/
def membership (operators : List TestOperator) (registeredAt : BlockNumber) : Membership :=
  operators.foldl (fun m o => m.register o.operatorId o.pubkeys o.stakes registeredAt) ∅

/-- The snapshot of a task over some quorums of these operators, all registered from the start. There is
none if a quorum has no member. -/
def snapshot? (quorums : List QuorumNum) (operators : List TestOperator) (block : BlockNumber) :
    Option Snapshot := do
  let m := membership operators 0
  let states ← (m.quorumsAt bls12381 quorums block).toOption
  (Snapshot.ofStates quorums (m.operatorsAt quorums block) states).toOption

end TestOperator

end Attestation
