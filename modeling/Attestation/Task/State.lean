/-
Module: Attestation.Task.State
Purpose: The state of one task between its snapshot and its result: an aggregate per digest, the digest
  each operator signed, and the digest that last met the thresholds. A submission is checked in a fixed
  order, and one that fails a check changes nothing.
Main exports: RejectionReason, SignatureError, Verifier, Judge, Accepted, TaskState, TaskState.start,
  TaskState.submit, TaskResult, TaskState.result?
-/
import Attestation.Hasher
import Attestation.Task.Aggregate
import Attestation.Task.Parameters
import Attestation.Task.Threshold

namespace Attestation

inductive RejectionReason where
  | conflictingSignature
  | duplicateSignature
  | hashFunction
  | incorrectSignature
  | missingOperatorPubkey
  | operatorNotInQuorum
  | signatureVerification
deriving DecidableEq

namespace RejectionReason

def label : RejectionReason → String
  | conflictingSignature => "conflicting_signature"
  | duplicateSignature => "duplicate_signature"
  | hashFunction => "hash_function"
  | incorrectSignature => "incorrect_signature"
  | missingOperatorPubkey => "missing_operator_pubkey"
  | operatorNotInQuorum => "operator_not_in_quorum"
  | signatureVerification => "signature_verification"

/-- All kinds, in the order of their labels. -/
def all : List RejectionReason :=
  [conflictingSignature, duplicateSignature, hashFunction, incorrectSignature, missingOperatorPubkey,
    operatorNotInQuorum, signatureVerification]

end RejectionReason

/-- Why a submission is rejected. -/
inductive SignatureError where
  | operatorNotInQuorum (operator : OperatorId)
  | hashFunction (source : HashError)
  | missingOperatorPubkey (operator : OperatorId)
  | duplicateSignature (operator : OperatorId)
  | conflictingSignature (operator : OperatorId)
  | verification (reason : String)
  | incorrectSignature (operator : OperatorId)
deriving DecidableEq

namespace SignatureError

def message : SignatureError → String
  | operatorNotInQuorum o => s!"Operator {o.text} is not part of the task quorums"
  | hashFunction source => s!"Failed to hash task response: {source.message}"
  | missingOperatorPubkey o => s!"Operator {o.text} has no G2 public key"
  | duplicateSignature o => s!"Operator {o.text} already signed this response digest"
  | conflictingSignature o => s!"Operator {o.text} already signed a different response for this task"
  | verification reason => s!"Signature verification failed: {reason}"
  | incorrectSignature o => s!"Incorrect signature from operator {o.text}"

/-- The kind under which the rejection is counted. -/
def reason : SignatureError → RejectionReason
  | operatorNotInQuorum _ => .operatorNotInQuorum
  | hashFunction _ => .hashFunction
  | missingOperatorPubkey _ => .missingOperatorPubkey
  | duplicateSignature _ => .duplicateSignature
  | conflictingSignature _ => .conflictingSignature
  | verification _ => .signatureVerification
  | incorrectSignature _ => .incorrectSignature

def source? : SignatureError → Option HashError
  | hashFunction source => some source
  | _ => none

end SignatureError

/-- A check of a digest's signature against a key. -/
abbrev Verifier := Digest → Signature → G2PublicKey → Except (Failure BlsError) Bool

/-- Verification by the pairing. -/
def pairingVerifier (C : PairingCurve) : Verifier := fun digest signature key =>
  match Bls.verify C digest signature key with
  | .ok valid => .ok valid
  | .error e => .error (.error e)

/-- What decides on submissions: the curve on which points are added, the hasher and the verifier. -/
structure Judge (ρ : Type) where
  curve : PairingCurve
  hash : Hasher ρ
  verify : Verifier

/-- What is reported of an accepted submission. -/
structure Accepted where
  digest : Digest
  /-- Whether the digest's aggregate, this signer included, meets every threshold. -/
  thresholdsMet : Bool
deriving DecidableEq

/-- The state of a task over responses of type `ρ`. -/
structure TaskState (ρ : Type) where
  parameters : TaskParameters
  snapshot : Snapshot
  aggregates : SortedMap Digest Aggregate
  signed : SortedMap OperatorId Digest
  /-- The digest whose aggregate last met the thresholds, with the response that was then submitted. -/
  winner : Option (Digest × ρ)

/-- Everything that a contract needs to check a task's result. -/
structure TaskResult (ρ : Type) where
  task : TaskIndex
  response : ρ
  digest : Digest
  nonSigners : List OperatorId
  nonSignerKeys : List G1PublicKey
  quorumKeys : List G1PublicKey
  signersKey : G2PublicKey
  signature : Signature
  signedStakes : Stakes
  totalStakes : Stakes
  indices : SignatureCheckIndices

namespace TaskState

variable {ρ : Type}

def start (parameters : TaskParameters) (snapshot : Snapshot) : TaskState ρ where
  parameters := parameters
  snapshot := snapshot
  aggregates := ∅
  signed := ∅
  winner := none

/-- Whether an operator may still sign a digest. -/
def checkFirst (s : TaskState ρ) (operator : OperatorId) (digest : Digest) :
    Except (Failure SignatureError) Unit :=
  match s.signed.get? operator with
  | none => .ok ()
  | some previous =>
    .error (.error
      (if previous = digest then .duplicateSignature operator else .conflictingSignature operator))

/-- Asks the verifier and turns every answer but yes into an error. -/
def checkSignature (J : Judge ρ) (operator : OperatorId) (digest : Digest) (signature : Signature)
    (key : G2PublicKey) : Except (Failure SignatureError) Unit :=
  match J.verify digest signature key with
  | .ok true => .ok ()
  | .ok false => .error (.error (.incorrectSignature operator))
  | .error e => .error (e.map fun e => .verification e.message)

/-- The aggregate of a digest with one more signer. -/
def merge (J : Judge ρ) (s : TaskState ρ) (digest : Digest) (operator : OperatorState)
    (key : G2PublicKey) (signature : Signature) : Except (Failure SignatureError) Aggregate :=
  match s.aggregates.get? digest with
  | none => .ok (.first operator key signature)
  | some aggregate =>
    match aggregate.addSigner J.curve operator key signature with
    | .ok merged => .ok merged
    | .error e => .error (.error (.verification e.message))

/-- Decides on an operator's submission, and merges it if it passes every check. -/
def submit (J : Judge ρ) (s : TaskState ρ) (id : OperatorId) (response : ρ) (signature : Signature) :
    Except (Failure SignatureError) (Accepted × TaskState ρ) := do
  let operator ← match s.snapshot.operators.get? id with
    | some operator => .ok operator
    | none => .error (.error (.operatorNotInQuorum id))
  let digest ← match J.hash response with
    | .ok digest => .ok digest
    | .error e => .error (e.map .hashFunction)
  s.checkFirst id digest
  let key ← match operator.pubkeys.g2 with
    | some key => .ok key
    | none => .error (.error (.missingOperatorPubkey id))
  checkSignature J id digest signature key
  let aggregate ← s.merge J digest operator key signature
  let met := meetsThresholds aggregate.stakes s.snapshot.totals s.parameters.thresholds
  return (⟨digest, met⟩, { s with
    aggregates := s.aggregates.insert digest aggregate
    signed := s.signed.insert id digest
    winner := if met then some (digest, response) else s.winner })

/-- Whether some digest has met the thresholds. -/
def hasWinner (s : TaskState ρ) : Bool := s.winner.isSome

/-- The operators that did not sign the winning digest, with their keys. -/
def winningNonSigners? (s : TaskState ρ) : Option (List (OperatorId × G1PublicKey)) := do
  let (digest, _) ← s.winner
  let aggregate ← s.aggregates.get? digest
  return s.snapshot.nonSigners aggregate.signers

/-- The stake that signed in each quorum of the task; zero where no signer holds any. -/
def signedStakes (s : TaskState ρ) (aggregate : Aggregate) : Stakes :=
  SortedMap.ofList (s.parameters.quorums.map fun q => (q, (aggregate.stakes.get? q).getD 0))

/-- The result for the winning digest. -/
def result? (s : TaskState ρ) (indices : SignatureCheckIndices) : Option (TaskResult ρ) := do
  let (digest, response) ← s.winner
  let aggregate ← s.aggregates.get? digest
  let nonSigners := s.snapshot.nonSigners aggregate.signers
  return {
    task := s.parameters.index
    response := response
    digest := digest
    nonSigners := nonSigners.map (·.1)
    nonSignerKeys := nonSigners.map (·.2)
    quorumKeys := s.snapshot.quorumKeys
    signersKey := aggregate.key
    signature := aggregate.signature
    signedStakes := s.signedStakes aggregate
    totalStakes := s.snapshot.totals
    indices := indices }

end TaskState

end Attestation
