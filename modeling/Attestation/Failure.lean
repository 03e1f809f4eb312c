/-
Module: Attestation.Failure
Purpose: How a call to a component that the caller supplies can end badly. Hashers, verifiers and
  registries are such components; a crash in one of them takes the calling worker with it and is not an
  error value.
Main exports: Failure
-/

namespace Attestation

/-- An error that the component reports, or a crash. -/
inductive Failure (ε : Type) where
  | error (e : ε)
  | crash
deriving DecidableEq

/-- Replaces the reported error by what a function makes of it. -/
def Failure.map {ε δ : Type} (f : ε → δ) : Failure ε → Failure δ
  | error e => .error (f e)
  | crash => .crash

end Attestation
