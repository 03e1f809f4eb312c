/-
Module: Attestation.Registry.Provider
Purpose: How a service asks a registry: three queries, each of which takes a while and is then answered
  from the registry's state at that moment. A registry kept in memory answers from its membership,
  unless it is told to fail, and remembers for which operators indices were asked.
Main exports: Reply, Provider, Registry, Registry.provider
-/
import Attestation.Registry.Membership
import Attestation.Event

namespace Attestation

/-- The answer to a query, the registry after it, and what was reported meanwhile. -/
structure Reply (σ α : Type) where
  answer : Except (Failure ProviderError) α
  registry : σ
  events : List Event

/-- A registry with states of type `σ`. -/
structure Provider (σ : Type) where
  /-- How long a query takes that is asked now, in milliseconds. -/
  latency : σ → Nat
  operators : σ → List QuorumNum → BlockNumber → Reply σ OperatorStates
  quorums : σ → List QuorumNum → BlockNumber → Reply σ QuorumStates
  indices : σ → BlockNumber → List QuorumNum → List OperatorId → Reply σ SignatureCheckIndices

/-- A registry kept in memory. -/
structure Registry where
  membership : Membership
  latency : Nat
  operatorsFailure : Option ProviderError
  quorumsFailure : Option ProviderError
  indicesFailure : Option ProviderError
  /-- The operators for which indices were asked, one list for each query. -/
  indicesRequests : List (List OperatorId)

namespace Registry

/-- No operators, no latency, no failures. -/
def empty : Registry := ⟨∅, 0, none, none, none, []⟩

/-- A failure that was ordered, or else the answer. -/
def orFailure {α : Type} (failure : Option ProviderError) (answer : Except ProviderError α) :
    Except (Failure ProviderError) α :=
  match failure, answer with
  | some e, _ => .error (.error e)
  | none, .error e => .error (.error e)
  | none, .ok a => .ok a

def operators (r : Registry) (quorums : List QuorumNum) (block : BlockNumber) :
    Reply Registry OperatorStates :=
  let states := r.membership.operatorsAt quorums block
  ⟨orFailure r.operatorsFailure (.ok states), r,
    if r.operatorsFailure.isSome then [] else [.servedOperators block states.size]⟩

def quorums (C : PairingCurve) (r : Registry) (quorums : List QuorumNum) (block : BlockNumber) :
    Reply Registry QuorumStates :=
  ⟨orFailure r.quorumsFailure (r.membership.quorumsAt C quorums block), r, []⟩

def indices (r : Registry) (block : BlockNumber) (quorums : List QuorumNum) (ids : List OperatorId) :
    Reply Registry SignatureCheckIndices :=
  ⟨orFailure r.indicesFailure (.ok (r.membership.indicesAt block quorums ids)),
    { r with indicesRequests := r.indicesRequests ++ [ids] }, []⟩

/-- The registry as a provider. -/
def provider (C : PairingCurve) : Provider Registry := ⟨Registry.latency, operators, quorums C, indices⟩

end Registry

end Attestation
