/-
Module: Attestation.Registry.Command
Purpose: What can be done to a registry kept in memory, and asked of it. Queries to the provider take
  the registry's latency and are answered from the registry as it is then; everything else takes no
  time.
Main exports: RegistryCommand, RegistryAnswer, Registry.delay, Registry.perform, Registry.performAll
-/
import Attestation.Registry.Provider
import Attestation.Time

namespace Attestation

/-- A change of the registry, or a question. -/
inductive RegistryCommand where
  | register (id : OperatorId) (pubkeys : OperatorPubkeys) (stakes : Stakes) (block : BlockNumber)
  | deregister (id : OperatorId) (block : BlockNumber)
  | setLatency (milliseconds : Nat)
  | failOperators (e : ProviderError)
  | failQuorums (e : ProviderError)
  | failIndices (e : ProviderError)
  | clearFailures
  | operatorCount
  | indicesRequests
  | operatorsAt (quorums : List QuorumNum) (block : BlockNumber)
  | quorumsAt (quorums : List QuorumNum) (block : BlockNumber)
  | askOperators (quorums : List QuorumNum) (block : BlockNumber)
  | askQuorums (quorums : List QuorumNum) (block : BlockNumber)
  | askIndices (block : BlockNumber) (quorums : List QuorumNum) (ids : List OperatorId)

/-- What a command answers. -/
inductive RegistryAnswer where
  | done
  | count (n : Nat)
  | requests (lists : List (List OperatorId))
  | operators (answer : Except (Failure ProviderError) OperatorStates)
  | quorums (answer : Except (Failure ProviderError) QuorumStates)
  | indices (answer : Except (Failure ProviderError) SignatureCheckIndices)

/-- The answer to a command, the registry after it, and what was reported meanwhile. -/
structure Performed where
  answer : RegistryAnswer
  registry : Registry
  events : List Event

/-- A reply as the result of a command. -/
def Reply.performed {α : Type} (r : Reply Registry α)
    (answer : Except (Failure ProviderError) α → RegistryAnswer) : Performed :=
  ⟨answer r.answer, r.registry, r.events⟩

namespace Registry

/-- How long it takes until a command is carried out that is given now. -/
def delay (r : Registry) : RegistryCommand → Nat
  | .askOperators .. | .askQuorums .. | .askIndices .. => r.latency
  | _ => 0

/-- Carries out a command. -/
def perform (C : PairingCurve) (r : Registry) : RegistryCommand → Performed
  | .register id pubkeys stakes block =>
    ⟨.done, { r with membership := r.membership.register id pubkeys stakes block }, []⟩
  | .deregister id block => ⟨.done, { r with membership := r.membership.deregister id block }, []⟩
  | .setLatency ms => ⟨.done, { r with latency := ms }, []⟩
  | .failOperators e => ⟨.done, { r with operatorsFailure := some e }, []⟩
  | .failQuorums e => ⟨.done, { r with quorumsFailure := some e }, []⟩
  | .failIndices e => ⟨.done, { r with indicesFailure := some e }, []⟩
  | .clearFailures =>
    ⟨.done, { r with operatorsFailure := none, quorumsFailure := none, indicesFailure := none }, []⟩
  | .operatorCount => ⟨.count r.membership.size, r, []⟩
  | .indicesRequests => ⟨.requests r.indicesRequests, r, []⟩
  | .operatorsAt quorums block => ⟨.operators (.ok (r.membership.operatorsAt quorums block)), r, []⟩
  | .quorumsAt quorums block =>
    ⟨.quorums (orFailure none (r.membership.quorumsAt C quorums block)), r, []⟩
  | .askOperators quorums block => (r.operators quorums block).performed .operators
  | .askQuorums quorums block => (r.quorums C quorums block).performed .quorums
  | .askIndices block quorums ids => (r.indices block quorums ids).performed .indices

/-- Carries out commands one after the other, and tells when each was done. -/
def performAll (C : PairingCurve) (r : Registry) (now : Nat) :
    List RegistryCommand → List (RegistryAnswer × Nat)
  | [] => []
  | c :: rest =>
    let done := sleepUntil now (r.delay c)
    let p := r.perform C c
    (p.answer, done) :: p.registry.performAll C done rest

end Registry

end Attestation
