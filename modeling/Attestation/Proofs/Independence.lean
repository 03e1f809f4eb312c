/-
Module: Attestation.Proofs.Independence
Purpose: What others submit does not change how an operator is answered. Operators meet only in the
  aggregate of a digest, and with verification by the pairing adding to it never fails, since every
  point that is in it was verified. So an operator's verdicts depend on its own calls alone.
Main exports: TaskState.verdict, TaskState.verdictsOf, callsOf, TaskState.merge_succeeds,
  TaskState.verdictsOf_filter, TaskState.verdicts_independent
-/
import Attestation.Proofs.Subgroups

namespace Attestation

namespace TaskState

variable {ρ : Type} (J : Judge ρ)

/-- How a submission is answered: with the digest that was signed, or with the error. -/
def verdict (s : TaskState ρ) (x : Submission ρ) : Except (Failure SignatureError) Digest :=
  (s.submit J x.operator x.response x.signature).map (·.1.digest)

/-- How the calls of one operator are answered in a run, in their order. -/
def verdictsOf (o : OperatorId) (s : TaskState ρ) :
    List (Submission ρ) → List (Except (Failure SignatureError) Digest)
  | [] => []
  | x :: rest =>
    if x.operator = o then s.verdict J x :: (s.step J x).verdictsOf o rest
    else (s.step J x).verdictsOf o rest

end TaskState

/-- What a submission says, whatever the number of its call. -/
def Submission.content {ρ : Type} (x : Submission ρ) : OperatorId × ρ × Signature :=
  (x.operator, x.response, x.signature)

/-- The calls of one operator in a run, in their order. -/
def callsOf {ρ : Type} (o : OperatorId) (xs : List (Submission ρ)) : List (OperatorId × ρ × Signature) :=
  (xs.filter (·.operator = o)).map Submission.content

namespace TaskState

variable {ρ : Type} {J : Judge ρ} {s s' : TaskState ρ} {x y : Submission ρ} {o : OperatorId}

/-- A submission changes what is recorded of its operator only, and of that by its verdict only. -/
theorem get?_signed_step (s : TaskState ρ) (x : Submission ρ) (o : OperatorId) :
    (s.step J x).signed.get? o =
      match s.verdict J x with
      | .ok d => if o = x.operator then some d else s.signed.get? o
      | .error _ => s.signed.get? o := by
  unfold step verdict
  cases decided : s.submit J x.operator x.response x.signature with
  | error e => rfl
  | ok result =>
    obtain ⟨report, next⟩ := result
    obtain ⟨_, _, _, admits⟩ := submit_eq_ok_iff.1 decided
    rw [admits.result]
    exact SortedMap.get?_insert _ _ _ _

/-- What the verifier lets pass can be merged. -/
def Merges (J : Judge ρ) (s : TaskState ρ) : Prop :=
  ∀ d operator key signature, J.verify d signature key = .ok true →
    ∃ g, s.merge J d operator key signature = .ok g

/-- Where merging succeeds, a verdict is decided by the snapshot and by what its operator signed before. -/
theorem verdict_congr (snapshot : s.snapshot = s'.snapshot)
    (signed : s.signed.get? x.operator = s'.signed.get? x.operator) (merges : s.Merges J)
    (merges' : s'.Merges J) : s.verdict J x = s'.verdict J x := by
  unfold verdict submit
  rw [snapshot]
  cases s'.snapshot.operators.get? x.operator with
  | none => rfl
  | some operator =>
    cases J.hash x.response with
    | error e => rfl
    | ok d =>
      simp only [ok_bind]
      have first : s.checkFirst x.operator d = s'.checkFirst x.operator d := by
        unfold checkFirst
        rw [signed]
      rw [first]
      cases s'.checkFirst x.operator d with
      | error e => rfl
      | ok _ =>
        cases operator.pubkeys.g2 with
        | none => rfl
        | some key =>
          simp only [ok_bind]
          cases checked : checkSignature J x.operator d x.signature key with
          | error e => rfl
          | ok _ =>
            have verified := checkSignature_eq_ok_iff.1 checked
            obtain ⟨g, merged⟩ := merges d operator key x.signature verified
            obtain ⟨g', merged'⟩ := merges' d operator key x.signature verified
            rw [merged, merged']
            rfl

section Skipping

variable {t : TaskParameters} {n : Snapshot}

/-- The verdicts of an operator are those of its own calls alone, from any state in which as much is
recorded of it. -/
theorem verdictsOf_filter (merges : ∀ vs, ((start t n).after J vs).Merges J) (zs : List (Submission ρ)) :
    ∀ xs ys : List (Submission ρ),
      ((start t n).after J xs).signed.get? o = ((start t n).after J ys).signed.get? o →
      ((start t n).after J xs).verdictsOf J o zs =
        ((start t n).after J ys).verdictsOf J o (zs.filter (·.operator = o)) := by
  have forward : ∀ vs z, ((start t n).after J vs).step J z = (start t n).after J (vs ++ [z]) :=
    fun vs z => (after_append _ vs [z]).symm
  induction zs with
  | nil => exact fun _ _ _ => rfl
  | cons z rest ih =>
    intro xs ys same
    rw [verdictsOf]
    by_cases own : z.operator = o
    · subst own
      have snapshot := (prevails_after J t n xs).snapshot.trans (prevails_after J t n ys).snapshot.symm
      have verdict := verdict_congr snapshot same (merges xs) (merges ys)
      rw [if_pos rfl, List.filter_cons_of_pos (by simp), verdictsOf, if_pos rfl, verdict, forward, forward]
      refine congrArg (_ :: ·) (ih _ _ ?_)
      rw [← forward, ← forward, get?_signed_step, get?_signed_step, verdict, same]
    · rw [if_neg own, List.filter_cons_of_neg (by simpa using own), forward]
      apply ih
      rw [← forward, get?_signed_step]
      cases verdict J ((start t n).after J xs) z with
      | ok d => exact (if_neg (Ne.symm own)).trans same
      | error e => exact same

/-- The numbers of the calls do not count. -/
theorem verdictsOf_congr {xs ys : List (Submission ρ)} (s : TaskState ρ)
    (same : xs.map Submission.content = ys.map Submission.content) :
    s.verdictsOf J o xs = s.verdictsOf J o ys := by
  induction xs generalizing s ys with
  | nil =>
    rw [List.map_nil, eq_comm, List.map_eq_nil_iff] at same
    rw [same]
  | cons x rest ih =>
    obtain ⟨y, others, rfl, content, same⟩ := List.map_eq_cons_iff.1 (same.symm.trans List.map_cons)
    obtain ⟨operator, response, signature⟩ : y.operator = x.operator ∧ y.response = x.response ∧
        y.signature = x.signature := by simpa [Submission.content] using content
    have verdict : s.verdict J y = s.verdict J x := by
      unfold TaskState.verdict
      rw [operator, response, signature]
    have step : s.step J y = s.step J x := by
      unfold TaskState.step
      rw [operator, response, signature]
    rw [verdictsOf, verdictsOf, verdict, step, operator, ih _ same.symm]

end Skipping

section Pairing

variable {C : PairingCurve} {n : Snapshot}

/-- What passed verification can be added to every aggregate that a task ever holds. -/
theorem merges_pairing (hash : Hasher ρ) (t : TaskParameters) (signatures : C.G1.Closed)
    (keys : C.G2.Closed) (keyed : n.Keyed) (xs : List (Submission ρ)) :
    ((start t n).after (.pairing C hash) xs).Merges (.pairing C hash) := by
  intro d operator key signature verified
  obtain ⟨p, u, encodes, encodesKey, finite, -⟩ :=
    Bls.verify_eq_true_iff.1 (pairingVerifier_eq_true_iff.1 verified)
  cases found : ((start t n).after (.pairing C hash) xs).aggregates.get? d with
  | none => exact ⟨_, merge_eq_ok_iff.2 (.inl ⟨found, rfl⟩)⟩
  | some old =>
    obtain ⟨points, -, sum, keySum⟩ :=
      (ledger_after (.pairing C hash) t keyed xs).sums signatures keys found
    have added : old.addSigner C operator key signature = .ok _ := Aggregate.addSigner_eq_ok_iff.2
      ⟨_, _, Bls.addSignature_of_encodes sum encodes,
        Bls.addPublicKey_of_encodes keySum encodesKey finite, rfl⟩
    exact ⟨_, merge_eq_ok_iff.2 (.inr ⟨old, found, added⟩)⟩

/-- In any two runs that contain the same calls by an operator, each of them is answered alike, and in
every run what passed verification is merged. -/
theorem verdicts_independent (C : PairingCurve) (signatures : C.G1.Closed) (keys : C.G2.Closed)
    (hash : Hasher ρ) (t : TaskParameters) (n : Snapshot) (keyed : n.Keyed) :
    (∀ (o : OperatorId) (xs ys : List (Submission ρ)), callsOf o xs = callsOf o ys →
      (start t n).verdictsOf (.pairing C hash) o xs = (start t n).verdictsOf (.pairing C hash) o ys) ∧
    ∀ xs : List (Submission ρ), ((start t n).after (.pairing C hash) xs).Merges (.pairing C hash) := by
  have merges := merges_pairing hash t signatures keys keyed
  refine ⟨fun o xs ys same => ?_, merges⟩
  calc (start t n).verdictsOf (.pairing C hash) o xs
      = (start t n).verdictsOf (.pairing C hash) o (xs.filter (·.operator = o)) :=
        verdictsOf_filter merges xs [] [] rfl
    _ = (start t n).verdictsOf (.pairing C hash) o (ys.filter (·.operator = o)) :=
        verdictsOf_congr _ same
    _ = (start t n).verdictsOf (.pairing C hash) o ys := (verdictsOf_filter merges ys [] [] rfl).symm

end Pairing

/-- The third operator signs twice: once after two others whose keys cancel out, once before anybody. -/
theorem verdicts_independent_sample_runs :
    let xs := [SampleCurve.submission 1 1 7, SampleCurve.submission 2 4 7, SampleCurve.submission 3 2 7,
      SampleCurve.submission 3 2 8]
    let ys := [SampleCurve.submission 3 2 7, SampleCurve.submission 1 4 8, SampleCurve.submission 3 2 8]
    let J := Judge.pairing SampleCurve.curve SampleCurve.hasher
    let start : TaskState Nat := .start SampleCurve.parameters SampleCurve.snapshot
    (start.verdictsOf J (SampleCurve.operatorId 3) xs).map (·.toOption.map (·.toNat)) = [some 7, none] ∧
    start.verdictsOf J (SampleCurve.operatorId 3) xs = start.verdictsOf J (SampleCurve.operatorId 3) ys ∧
    (start.after J (xs.take 2)).Merges J := by
  intro xs ys J start
  obtain ⟨independent, merges⟩ := verdicts_independent SampleCurve.curve SampleCurve.closed_signatures
    SampleCurve.closed_keys SampleCurve.hasher SampleCurve.parameters SampleCurve.snapshot (by decide)
  exact ⟨by decide +kernel, independent (SampleCurve.operatorId 3) xs ys rfl, merges (xs.take 2)⟩

end TaskState

end Attestation
