/-
Module: Attestation.Registry.State
Purpose: What a registry tells about a block: the operators with their keys and stakes, the quorums with
  their totals and aggregate keys, and the indices by which a contract finds the same facts in its
  history.
Main exports: Stakes, OperatorPubkeys, OperatorState, QuorumState, SignatureCheckIndices, ProviderError
-/
import Attestation.Bls
import Attestation.Identifier
import Attestation.SortedMap

namespace Attestation

/-- An amount of stake per quorum. -/
abbrev Stakes := SortedMap QuorumNum U256

/-- Adds amounts quorum by quorum. -/
def Stakes.add (a b : Stakes) : Stakes :=
  b.toList.foldl (fun sum (q, amount) => sum.insert q (((sum.get? q).getD 0).saturatingAdd amount)) a

/-- The public keys of an operator. The second is absent only from malformed registrations. -/
structure OperatorPubkeys where
  g1 : G1PublicKey
  g2 : Option G2PublicKey
deriving DecidableEq

/-- An operator as registered at a block. -/
structure OperatorState where
  id : OperatorId
  pubkeys : OperatorPubkeys
  stakes : Stakes
  block : BlockNumber
deriving DecidableEq

/-- A quorum as it stands at a block. -/
structure QuorumState where
  quorum : QuorumNum
  totalStake : U256
  aggregateKey : G1PublicKey
  block : BlockNumber
deriving DecidableEq

/-- Positions of registry entries in a contract's history. The last list follows the order of the
task's quorums. -/
structure SignatureCheckIndices where
  nonSignerBitmaps : List UInt32
  quorumKeys : List UInt32
  totalStakes : List UInt32
  nonSignerStakes : List (List UInt32)
deriving DecidableEq

/-- Operators by their ids. -/
abbrev OperatorStates := SortedMap OperatorId OperatorState

/-- Quorums by their numbers. -/
abbrev QuorumStates := SortedMap QuorumNum QuorumState

/-- Why a registry does not answer. -/
inductive ProviderError where
  | blockUnavailable (block : BlockNumber) (reason : String)
  | unknownQuorum (quorum : QuorumNum)
  | communication (reason : String)
deriving DecidableEq

def ProviderError.message : ProviderError → String
  | blockUnavailable block reason => s!"Block {block.toNat} is not available: {reason}"
  | unknownQuorum quorum => s!"Unknown quorum {quorum.text}"
  | communication reason => s!"Communication error: {reason}"

end Attestation
