/-
Module: Attestation.Proofs.Acceptance
Purpose: A task over a run of submissions. What a submission has to pass to be accepted, and all that it
  changes then, is said once; what holds of a task after any run follows by one induction over the
  submissions that were accepted, since the others change nothing.
Main exports: Acceptance, TaskState.step, TaskState.after, TaskState.accepted, TaskState.Admits,
  TaskState.submit_eq_ok_iff, TaskState.crash_of_submit, TaskState.run_induction
-/
import Attestation.Proofs.Stakes
import Attestation.Service.Collection
import Mathlib.Data.List.Forall2
import Mathlib.Data.List.Induction

namespace Attestation

/-- A submission that was accepted, with what was reported of it. -/
structure Acceptance (ρ : Type) extends Submission ρ, Accepted

theorem ok_bind {ε α β : Type} (a : α) (next : α → Except ε β) : Except.ok a >>= next = next a := rfl

theorem error_bind {ε α β : Type} (e : ε) (next : α → Except ε β) :
    Except.error e >>= next = .error e := rfl

/-- A computation of two parts succeeds when both do. -/
theorem bind_eq_ok_iff {ε α β : Type} {first : Except ε α} {second : α → Except ε β} {b : β} :
    first >>= second = .ok b ↔ ∃ a, first = .ok a ∧ second a = .ok b := by
  cases first with
  | error e =>
    constructor
    · intro h
      cases h
    · rintro ⟨_, h, _⟩
      cases h
  | ok a =>
    constructor
    · intro h
      exact ⟨a, rfl, h⟩
    · rintro ⟨_, same, h⟩
      cases same
      exact h

/-- A computation of two parts fails when one of them does. -/
theorem bind_eq_error_iff {ε α β : Type} {first : Except ε α} {second : α → Except ε β} {e : ε} :
    first >>= second = .error e ↔ first = .error e ∨ ∃ a, first = .ok a ∧ second a = .error e := by
  cases first <;> simp [ok_bind, error_bind]

/-- A computation over a list succeeds when it does at every element. -/
theorem mapM_eq_ok_iff {ε α β : Type} {f : α → Except ε β} {xs : List α} :
    ∀ {ys : List β}, xs.mapM f = .ok ys ↔ List.Forall₂ (fun x y => f x = .ok y) xs ys := by
  induction xs with
  | nil =>
    intro ys
    rw [List.mapM_nil, List.forall₂_nil_left_iff]
    exact ⟨fun done => (Except.ok.inj done).symm, fun empty => congrArg Except.ok empty.symm⟩
  | cons x rest ih =>
    intro ys
    rw [List.mapM_cons, bind_eq_ok_iff, List.forall₂_cons_left_iff]
    constructor
    · rintro ⟨y, first, done⟩
      obtain ⟨later, done, same⟩ := bind_eq_ok_iff.1 done
      exact ⟨y, later, first, ih.1 done, (Except.ok.inj same).symm⟩
    · rintro ⟨y, later, first, done, rfl⟩
      exact ⟨y, first, bind_eq_ok_iff.2 ⟨later, ih.2 done, rfl⟩⟩

/-- A check of a list passes if it passes for every member. -/
theorem forM_eq_ok_iff {ε α : Type} {f : α → Except ε Unit} {xs : List α} :
    xs.forM f = .ok () ↔ ∀ x ∈ xs, f x = .ok () := by
  induction xs with
  | nil => simp [List.forM_nil, pure, Except.pure]
  | cons x rest ih =>
    rw [List.forM_eq_forM, List.forM_cons, ← List.forM_eq_forM, bind_eq_ok_iff, List.forall_mem_cons]
    constructor
    · rintro ⟨_, first, later⟩
      exact ⟨first, ih.1 later⟩
    · rintro ⟨first, later⟩
      exact ⟨(), first, ih.2 later⟩

/-- A crash stays a crash under another name for errors, and nothing else becomes one. -/
theorem Failure.map_eq_crash_iff {ε δ : Type} {f : ε → δ} {e : Failure ε} :
    e.map f = .crash ↔ e = .crash := by
  cases e <;> simp [Failure.map]

namespace Aggregate

variable {C : PairingCurve} {a merged : Aggregate} {operator : OperatorState} {key : G2PublicKey}
  {signature : Signature}

/-- A signer is added when both of its points can be. -/
theorem addSigner_eq_ok_iff :
    a.addSigner C operator key signature = .ok merged ↔ ∃ signatures keys,
      Bls.addSignature C a.signature signature = .ok signatures ∧
      Bls.addPublicKey C a.key key = .ok keys ∧
      merged = ⟨keys, signatures, a.signers.insert operator.id (), a.stakes.add operator.stakes⟩ := by
  unfold addSigner
  constructor
  · intro h
    obtain ⟨signatures, hsignatures, h⟩ := bind_eq_ok_iff.1 h
    obtain ⟨keys, hkeys, h⟩ := bind_eq_ok_iff.1 h
    exact ⟨signatures, keys, hsignatures, hkeys, (Except.ok.inj h).symm⟩
  · rintro ⟨signatures, keys, hsignatures, hkeys, rfl⟩
    exact bind_eq_ok_iff.2 ⟨signatures, hsignatures, bind_eq_ok_iff.2 ⟨keys, hkeys, rfl⟩⟩

end Aggregate

namespace TaskState

variable {ρ : Type} (J : Judge ρ)

/-- The state after a submission; one that is not accepted leaves it as it was. -/
def step (s : TaskState ρ) (x : Submission ρ) : TaskState ρ :=
  match s.submit J x.operator x.response x.signature with
  | .ok (_, next) => next
  | .error _ => s

/-- The submission with its report, if it is accepted. -/
def acceptance? (s : TaskState ρ) (x : Submission ρ) : Option (Acceptance ρ) :=
  match s.submit J x.operator x.response x.signature with
  | .ok (report, _) => some ⟨x, report⟩
  | .error _ => none

/-- The state after a run of submissions. -/
def after (s : TaskState ρ) (xs : List (Submission ρ)) : TaskState ρ := xs.foldl (step J) s

/-- The submissions of a run that are accepted, in order. -/
def accepted (s : TaskState ρ) : List (Submission ρ) → List (Acceptance ρ)
  | [] => []
  | x :: rest => (s.acceptance? J x).toList ++ (s.step J x).accepted rest

variable {J}

@[simp] theorem after_nil (s : TaskState ρ) : s.after J [] = s := rfl

@[simp] theorem accepted_nil (s : TaskState ρ) : s.accepted J [] = [] := rfl

theorem after_cons (s : TaskState ρ) (x : Submission ρ) (rest : List (Submission ρ)) :
    s.after J (x :: rest) = (s.step J x).after J rest := rfl

/-- A run is carried out part by part. -/
theorem after_append (s : TaskState ρ) (xs ys : List (Submission ρ)) :
    s.after J (xs ++ ys) = (s.after J xs).after J ys := List.foldl_append

/-- What a run accepts is what its first part accepts, and then what its second part accepts. -/
theorem accepted_append (s : TaskState ρ) (xs ys : List (Submission ρ)) :
    s.accepted J (xs ++ ys) = s.accepted J xs ++ (s.after J xs).accepted J ys := by
  induction xs generalizing s with
  | nil => rfl
  | cons x rest ih => rw [List.cons_append, accepted, accepted, ih, List.append_assoc, after_cons]

/-- A property of what was accepted and of the state holds after every run, if it holds before the first
submission and every accepted submission keeps it. -/
theorem run_induction {s : TaskState ρ} {P : List (Acceptance ρ) → TaskState ρ → Prop} (start : P [] s)
    (step : ∀ past current x report next, P past current →
      current.submit J x.operator x.response x.signature = .ok (report, next) →
      P (past ++ [⟨x, report⟩]) next)
    (xs : List (Submission ρ)) : P (s.accepted J xs) (s.after J xs) := by
  -- The run is taken from its end, where what was accepted grows by its last element.
  induction xs using List.reverseRecOn with
  | nil => exact start
  | append_singleton xs x ih =>
    rw [accepted_append, after_append, accepted, accepted_nil, List.append_nil, after_cons, after_nil,
      acceptance?, TaskState.step]
    split
    next report next decided => exact step _ _ x report next ih decided
    next => simpa using ih

section Deciding

variable {s next : TaskState ρ} {x : Submission ρ} {report : Accepted} {operator : OperatorState}
  {key : G2PublicKey} {aggregate : Aggregate}

/-- What an accepted submission has passed, and the state that it leaves. -/
structure Admits (J : Judge ρ) (s : TaskState ρ) (x : Submission ρ) (report : Accepted)
    (next : TaskState ρ) (operator : OperatorState) (key : G2PublicKey) (aggregate : Aggregate) :
    Prop where
  member : s.snapshot.operators.get? x.operator = some operator
  hashed : J.hash x.response = .ok report.digest
  unsigned : s.signed.get? x.operator = none
  keyed : operator.pubkeys.g2 = some key
  verified : J.verify report.digest x.signature key = .ok true
  merged : s.merge J report.digest operator key x.signature = .ok aggregate
  met : report.thresholdsMet = meetsThresholds aggregate.stakes s.snapshot.totals s.parameters.thresholds
  result : next = { s with
    aggregates := s.aggregates.insert report.digest aggregate
    signed := s.signed.insert x.operator report.digest
    winner := if report.thresholdsMet then some (report.digest, x.response) else s.winner }

theorem checkFirst_eq_ok_iff {id : OperatorId} {digest : Digest} :
    s.checkFirst id digest = .ok () ↔ s.signed.get? id = none := by
  unfold checkFirst
  cases s.signed.get? id <;> simp

theorem checkSignature_eq_ok_iff {id : OperatorId} {digest : Digest} {signature : Signature} :
    checkSignature J id digest signature key = .ok () ↔ J.verify digest signature key = .ok true := by
  unfold checkSignature
  split <;> simp_all

/-- The digest's aggregate is begun by its first signer and continued by every later one. -/
theorem merge_eq_ok_iff {digest : Digest} {signature : Signature} :
    s.merge J digest operator key signature = .ok aggregate ↔
      (s.aggregates.get? digest = none ∧ aggregate = .first operator key signature) ∨
      ∃ old, s.aggregates.get? digest = some old ∧
        old.addSigner J.curve operator key signature = .ok aggregate := by
  unfold merge
  cases s.aggregates.get? digest with
  | none => simp [eq_comm]
  | some old =>
    cases h : old.addSigner J.curve operator key signature <;> simp [h]

/-- A submission is accepted exactly when it passes every check, and then nothing else changes. -/
theorem submit_eq_ok_iff :
    s.submit J x.operator x.response x.signature = .ok (report, next) ↔
      ∃ operator key aggregate, Admits J s x report next operator key aggregate := by
  unfold submit
  constructor
  · intro h
    -- The checks are opened in the order in which they are made: each that fails ends in an error.
    cases hmember : s.snapshot.operators.get? x.operator with
    | none => simp [hmember, error_bind] at h
    | some operator =>
      cases hhashed : J.hash x.response with
      | error e => simp [hmember, hhashed, ok_bind, error_bind] at h
      | ok digest =>
        simp only [hmember, hhashed, ok_bind] at h
        obtain ⟨_, hfirst, h⟩ := bind_eq_ok_iff.1 h
        cases hkeyed : operator.pubkeys.g2 with
        | none => simp [hkeyed, error_bind] at h
        | some key =>
          simp only [hkeyed] at h
          obtain ⟨_, hverified, h⟩ := bind_eq_ok_iff.1 h
          obtain ⟨aggregate, hmerged, h⟩ := bind_eq_ok_iff.1 h
          cases h
          exact ⟨operator, key, aggregate, hmember, hhashed, checkFirst_eq_ok_iff.1 hfirst, hkeyed,
            checkSignature_eq_ok_iff.1 hverified, hmerged, rfl, rfl⟩
  · rintro ⟨operator, key, aggregate, h⟩
    obtain ⟨digest, met⟩ := report
    obtain ⟨hmember, hhashed, hfirst, hkeyed, hverified, hmerged, hmet, rfl⟩ := h
    simp only [hmember, hhashed, hkeyed, ok_bind]
    refine bind_eq_ok_iff.2 ⟨(), checkFirst_eq_ok_iff.2 hfirst, ?_⟩
    refine bind_eq_ok_iff.2 ⟨(), checkSignature_eq_ok_iff.2 hverified, ?_⟩
    refine bind_eq_ok_iff.2 ⟨aggregate, hmerged, ?_⟩
    subst hmet
    rfl

theorem checkSignature_eq_crash_iff {id : OperatorId} {digest : Digest} {signature : Signature} :
    checkSignature J id digest signature key = .error .crash ↔
      J.verify digest signature key = .error .crash := by
  unfold checkSignature
  split
  next valid => simp [valid]
  next invalid => simp [invalid]
  next e failed => simp [failed, Failure.map_eq_crash_iff]

theorem merge_ne_crash {digest : Digest} {signature : Signature} :
    s.merge J digest operator key signature ≠ .error .crash := by
  unfold merge
  cases s.aggregates.get? digest with
  | none => simp
  | some old =>
    dsimp only
    cases old.addSigner J.curve operator key signature <;> simp

/-- Only the hasher and the verifier can crash a submission. -/
theorem crash_of_submit (crashed : s.submit J x.operator x.response x.signature = .error .crash) :
    J.hash x.response = .error .crash ∨ ∃ d key, J.hash x.response = .ok d ∧
      (s.snapshot.operators.get? x.operator).bind (·.pubkeys.g2) = some key ∧
      J.verify d x.signature key = .error .crash := by
  unfold submit at crashed
  dsimp only at crashed
  -- The checks are gone through in their order; all but two fail with errors of their own.
  split at crashed
  next operator member =>
    rw [ok_bind] at crashed
    split at crashed
    next d hashed =>
      rw [ok_bind] at crashed
      rcases bind_eq_error_iff.1 crashed with first | ⟨_, -, crashed⟩
      · unfold checkFirst at first
        split at first <;> cases first
      split at crashed
      next key has =>
        rw [ok_bind] at crashed
        rcases bind_eq_error_iff.1 crashed with checked | ⟨_, -, crashed⟩
        · refine .inr ⟨d, key, hashed, ?_, checkSignature_eq_crash_iff.1 checked⟩
          rw [member, Option.bind_some, has]
        rcases bind_eq_error_iff.1 crashed with merged | ⟨_, -, done⟩
        · exact absurd merged merge_ne_crash
        · cases done
      next => cases crashed
    next e failed =>
      rw [error_bind, Except.error.injEq, Failure.map_eq_crash_iff] at crashed
      exact .inl (crashed ▸ failed)
  next => cases crashed

end Deciding

end TaskState

end Attestation
