/-
Module: Attestation.Fixture.SampleTask
Purpose: A small task to evaluate: three operators with stakes 40, 30 and 30 in one quorum that requires
  60 percent, responses that are numbers, a verifier that accepts every signature, and points that are
  numbers as well; and a worker for it with a registry that answers at once.
Main exports: SampleTask.judge, SampleTask.snapshot, SampleTask.parameters, SampleTask.submission,
  SampleTask.strictJudge, SampleTask.forgery, SampleTask.run, SampleTask.arrivals, SampleTask.setting,
  SampleTask.worker
-/
import Attestation.Service.Worker

namespace Attestation.SampleTask

/-- The numbers of `n` bytes as points, added modulo `256 ^ n`. -/
def points (n : Nat) : PointGroup n where
  Point := Bytes n
  identity := .zero n
  isIdentity p := p = .zero n
  add p q := .ofNat n (p.toNat + q.toNat)
  inSubgroup _ := true
  encode p := p
  decode? := some

def curve : PairingCurve where
  G1 := points 48
  G2 := points 96
  Target := Unit
  targetEq := inferInstance
  generator := .zero 96
  hashToG1 _ := .zero 48
  pair _ _ := ()

/-- The digest of a number is the number in 32 bytes. -/
def judge : Judge Nat where
  curve := curve
  hash r := .ok (.ofNat 32 r)
  verify _ _ _ := .ok true

def quorum : QuorumNum := ⟨0⟩

def operatorId (n : Nat) : OperatorId := ⟨.ofNat 32 n⟩

def operator (id stake : Nat) : OperatorState where
  id := operatorId id
  pubkeys := ⟨⟨.ofNat 48 id⟩, some ⟨.ofNat 96 id⟩⟩
  stakes := .ofList [(quorum, .ofBytes (.ofNat 32 stake))]
  block := 1

def snapshot : Snapshot where
  operators := .ofList [(operatorId 1, operator 1 40), (operatorId 2, operator 2 30),
    (operatorId 3, operator 3 30)]
  totals := .ofList [(quorum, .ofBytes (.ofNat 32 100))]
  quorumKeys := [⟨.ofNat 48 0⟩]

/-- The parameters of the task with a given window. -/
def parameters (window : Nat) : TaskParameters where
  index := 1
  block := 1
  quorums := [quorum]
  percentages := [60]
  timeToExpiry := 100
  window := window

/-- An operator signs a number. -/
def submission (operator response : Nat) : Submission Nat :=
  ⟨0, operatorId operator, response, ⟨.ofNat 48 operator⟩⟩

/-- A judge that accepts from every operator only its own signature. -/
def strictJudge : Judge Nat :=
  { judge with verify := fun _ signature key => .ok (signature.bytes.toNat == key.bytes.toNat) }

/-- A number is submitted for an operator with a signature that is not its own. -/
def forgery (operator response : Nat) : Submission Nat :=
  { submission operator response with signature := ⟨.ofNat 48 0⟩ }

/-- The first and the third operator sign one response, the second another one, and the first signs
again. -/
def run : List (Submission Nat) := [submission 1 7, submission 1 7, submission 2 8, submission 3 7]

/-- Some submissions with the instants at which they arrive. -/
def arrivals : List (Nat × List (Submission Nat)) :=
  [(3, [submission 1 7, submission 2 8]), (6, [submission 3 7]), (16, [submission 2 7])]

/-- A registry that answers at once and counts how often it was asked for indices. -/
def provider : Provider Nat where
  latency _ := 0
  operators asked _ _ := ⟨.ok snapshot.operators, asked, []⟩
  quorums asked _ _ :=
    ⟨.ok (.ofList [(quorum, ⟨quorum, .ofBytes (.ofNat 32 100), ⟨.ofNat 48 0⟩, 1⟩)]), asked, []⟩
  indices asked _ _ _ := ⟨.ok ⟨[0], [0], [0], [[]]⟩, asked + 1, []⟩

def setting : Setting Nat Nat := ⟨judge, provider⟩

/-- A worker for the task with a window of 10 and some submissions in its inbox. -/
def worker (inbox : List (Submission Nat)) : Worker Nat := ⟨parameters 10, inbox, .starting⟩

end Attestation.SampleTask
