/-
Module: Attestation.Hasher
Purpose: From task responses to the digests that operators sign. The hasher is the caller's choice; the
  standard one is the Keccak hash of the response's binary form.
Main exports: HashError, Hasher, keccakHasher
-/
import Attestation.Bls
import Attestation.Failure
import Attestation.Hash.Keccak
import Attestation.Response

namespace Attestation

/-- Why a response has no digest. -/
inductive HashError where
  /-- It has no binary form. -/
  | encoding (reason : String)
  /-- The hasher does not accept it. -/
  | rejected (reason : String)
deriving DecidableEq

def HashError.message : HashError → String
  | encoding reason => s!"Failed to encode task response: {reason}"
  | rejected reason => s!"Task response rejected by hasher: {reason}"

/-- A function from responses of some type to digests. -/
abbrev Hasher (ρ : Type) := ρ → Except (Failure HashError) Digest

/-- The Keccak hash of a response's binary form. -/
def keccakDigest (r : Response) : Except HashError Digest :=
  match r.encode with
  | .ok bytes => .ok (Keccak.hash256 bytes)
  | .error reason => .error (.encoding reason)

/-- The standard hasher. -/
def keccakHasher : Hasher Response := fun r =>
  match keccakDigest r with
  | .ok digest => .ok digest
  | .error e => .error (.error e)

end Attestation
