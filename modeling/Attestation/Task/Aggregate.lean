/-
Module: Attestation.Task.Aggregate
Purpose: What is known of the operators that signed one digest, and the registry state against which a
  task is decided.
Main exports: Aggregate, Aggregate.first, Aggregate.addSigner, Snapshot, Snapshot.ofStates,
  Snapshot.nonSigners
-/
import Attestation.Registry.State

namespace Attestation

/-- The sums over the signers of one digest. -/
structure Aggregate where
  key : G2PublicKey
  signature : Signature
  signers : SortedMap OperatorId Unit
  stakes : Stakes
deriving DecidableEq

namespace Aggregate

/-- The aggregate of a single signer, whose points are taken as they are. -/
def first (operator : OperatorState) (key : G2PublicKey) (signature : Signature) : Aggregate where
  key := key
  signature := signature
  signers := SortedMap.ofList [(operator.id, ())]
  stakes := operator.stakes

/-- Adds a signer. Either both points can be added or the aggregate stays as it is. -/
def addSigner (C : PairingCurve) (a : Aggregate) (operator : OperatorState) (key : G2PublicKey)
    (signature : Signature) : Except BlsError Aggregate := do
  let signatures ← Bls.addSignature C a.signature signature
  let keys ← Bls.addPublicKey C a.key key
  return {
    key := keys
    signature := signatures
    signers := a.signers.insert operator.id ()
    stakes := a.stakes.add operator.stakes }

end Aggregate

/-- Registry state for the quorums of one task; the aggregate keys follow the task's quorum order. -/
structure Snapshot where
  operators : OperatorStates
  totals : Stakes
  quorumKeys : List G1PublicKey
deriving DecidableEq

namespace Snapshot

/-- Combines operator and quorum states, or names the first quorum that has no state. -/
def ofStates (quorums : List QuorumNum) (operators : OperatorStates) (states : QuorumStates) :
    Except QuorumNum Snapshot := do
  let found ← quorums.mapM fun q =>
    match states.get? q with
    | some state => .ok (q, state)
    | none => .error q
  return {
    operators := operators
    totals := SortedMap.ofList (found.map fun (q, state) => (q, state.totalStake))
    quorumKeys := found.map fun (_, state) => state.aggregateKey }

/-- The operators that are not among the signers, ascending by id, each with its key. -/
def nonSigners (s : Snapshot) (signers : SortedMap OperatorId Unit) : List (OperatorId × G1PublicKey) :=
  (s.operators.toList.filter fun (id, _) => !signers.contains id).map fun (id, o) => (id, o.pubkeys.g1)

end Snapshot

end Attestation
