/-
Module: Attestation.Fixture.Scripted
Purpose: Hashers, verifiers and registries that follow a script, to reach the behaviour that sound ones
  never show: responses that a hasher refuses, digests of one's choice, crashes, verdicts given without
  a check, and answers in which quorums are missing.
Main exports: ScriptedResponse, ScriptedResponse.hasher, VerifierRule, scriptedVerifier,
  Provider.omitting
-/
import Attestation.Hasher
import Attestation.Registry.Provider
import Attestation.Task.State

namespace Attestation

/-- A response, or an order to the hasher. -/
inductive ScriptedResponse where
  | plain (response : Response)
  | rejected (reason : String)
  | digest (value : Digest)
  | crash

/-- Follows an order, and hashes a plain response in the standard way. -/
def ScriptedResponse.hasher : Hasher ScriptedResponse
  | plain response => keccakHasher response
  | rejected reason => .error (.error (.rejected reason))
  | digest value => .ok value
  | crash => .error .crash

/-- How one verification is answered. -/
inductive VerifierRule where
  | pairing
  | accept
  | reject
  | crash
  | failure (e : BlsError)

/-- Answers by the rule for the submitted signature, or by a default rule. -/
def scriptedVerifier (C : PairingCurve) (fallback : VerifierRule)
    (overrides : List (Signature × VerifierRule)) : Verifier := fun digest signature key =>
  let rule := ((overrides.find? fun (s, _) => s = signature).map (·.2)).getD fallback
  match rule with
  | .pairing => pairingVerifier C digest signature key
  | .accept => .ok true
  | .reject => .ok false
  | .crash => .error .crash
  | .failure e => .error (.error e)

/-- A provider whose answers leave out the states of some quorums. -/
def Provider.omitting {σ : Type} (P : Provider σ) (omitted : List QuorumNum) : Provider σ :=
  { P with quorums := fun registry quorums block =>
      let reply := P.quorums registry quorums block
      { reply with answer := reply.answer.map fun states => states.filter fun q _ => q ∉ omitted } }

end Attestation
