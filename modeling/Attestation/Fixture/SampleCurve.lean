/-
Module: Attestation.Fixture.SampleCurve
Purpose: A pairing curve that is small enough to evaluate. Both groups are residues, of which those that
  five annihilates form the subgroup; the pairing multiplies. Like on a real curve there are points
  outside the subgroups, byte strings that stand for no point, and keys whose sum is infinity.
Main exports: SampleCurve.curve, SampleCurve.key, SampleCurve.sign, SampleCurve.snapshot,
  SampleCurve.parameters, SampleCurve.submission, SampleCurve.provider, SampleCurve.membership,
  SampleCurve.registry
-/
import Attestation.Service.Worker
import Mathlib

namespace Attestation.SampleCurve

/-- The residues modulo `m` as points. -/
def residues (n m : Nat) [NeZero m] : PointGroup n where
  Point := Fin m
  identity := 0
  isIdentity p := p = 0
  add p q := p + q
  inSubgroup p := 5 * p = 0
  encode p := .ofNat n p.val
  decode? bytes := if h : bytes.toNat < m then some ⟨bytes.toNat, h⟩ else none

def pairing (p : Fin 10) (u : Fin 15) : Fin 5 := Fin.ofNat 5 (p.val / 2 * (u.val / 3))

/-- The even residues modulo 10 and the residues modulo 15 that three divides have order five. No digest
is mapped to infinity. -/
def curve : PairingCurve where
  G1 := residues 48 10
  G2 := residues 96 15
  Target := Fin 5
  targetEq := inferInstance
  generator := (3 : Fin 15)
  hashToG1 d := Fin.ofNat 10 (2 * (d.toNat % 4 + 1))
  pair := pairing

/-- The key of a secret number. -/
def key (secret : Nat) : G2PublicKey := ⟨.ofNat 96 (3 * secret % 15)⟩

/-- The signature of a digest under a secret number. -/
def sign (secret : Nat) (d : Digest) : Signature :=
  ⟨.ofNat 48 (2 * (d.toNat % 4 + 1) * secret % 10)⟩

/-- The digest of a number is the number in 32 bytes; a number above 99 is refused. -/
def hasher : Hasher Nat := fun r => if r < 100 then .ok (.ofNat 32 r) else .error (.error (.rejected ""))

def quorum : QuorumNum := ⟨0⟩

def operatorId (n : Nat) : OperatorId := ⟨.ofNat 32 n⟩

/-- An operator with a secret number. -/
def operator (id secret : Nat) : OperatorState where
  id := operatorId id
  pubkeys := ⟨⟨.ofNat 48 0⟩, some (key secret)⟩
  stakes := .ofList [(quorum, .ofBytes (.ofNat 32 100))]
  block := 1

/-- Three operators. The keys of the first two cancel out, since their secrets add up to five. -/
def snapshot : Snapshot where
  operators := .ofList [(operatorId 1, operator 1 1), (operatorId 2, operator 2 4),
    (operatorId 3, operator 3 2)]
  totals := .ofList [(quorum, .ofBytes (.ofNat 32 300))]
  quorumKeys := [⟨.ofNat 48 0⟩]

/-- Two of the three have to sign. -/
def parameters : TaskParameters where
  index := 1
  block := 1
  quorums := [quorum]
  percentages := [60]
  timeToExpiry := 100
  window := 0

/-- The operator signs a number with a secret. -/
def submission (id secret response : Nat) : Submission Nat :=
  ⟨0, operatorId id, response, sign secret (.ofNat 32 response)⟩

/-- A registry that answers at once with the snapshot. -/
def provider : Provider Unit where
  latency _ := 0
  operators registry _ _ := ⟨.ok snapshot.operators, registry, []⟩
  quorums registry _ _ :=
    ⟨.ok (.ofList [(quorum, ⟨quorum, .ofBytes (.ofNat 32 300), ⟨.ofNat 48 0⟩, 1⟩)]), registry, []⟩
  indices registry _ _ _ := ⟨.ok ⟨[0], [0], [0], [[]]⟩, registry, []⟩

/-- The registration of an operator with a secret number, from the first block on. -/
def registration (secret : Nat) (stake : U256) : Registration where
  pubkeys := ⟨⟨.ofNat 48 (2 * secret % 10)⟩, some (key secret)⟩
  stakes := .ofList [(quorum, stake)]
  registeredAt := 0
  deregisteredAt := none

/-- Operators with their ids, secret numbers and stakes. -/
def membership (operators : List (Nat × Nat × U256)) : Membership :=
  .ofList (operators.map fun (id, secret, stake) => (operatorId id, registration secret stake))

/-- A registry kept in memory that answers at once and never fails. -/
def registry (m : Membership) : Registry := { Registry.empty with membership := m }

end Attestation.SampleCurve
