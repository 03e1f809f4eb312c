/-
Module: Attestation.Proofs.Certification
Purpose: No two digests are certified where a quorum asks for a majority. Whoever signs one digest signs
  no other, so the signers of two digests hold no more than the whole quorum between them, and two
  majorities of it do not fit.
Main exports: MajorityQuorum, Ledger.total_le, Ledger.digest_eq_of_met, TaskState.certifies_one
-/
import Attestation.Proofs.Accounting

namespace Attestation

/-- A quorum of the task that requires more than half of a total which is what the operators of the
snapshot hold. -/
structure MajorityQuorum (t : TaskParameters) (n : Snapshot) (q : QuorumNum) : Prop where
  majority : ∃ (i : Nat) (p : UInt8), t.quorums[i]? = some q ∧ t.percentages[i]? = some p ∧ 50 < p
  held : ∃ total, n.totals.get? q = some total ∧ 0 < total.val ∧ total.val = n.total n.operators.keys q

/-- Operators among others hold no more than these. -/
theorem Snapshot.total_le_of_subperm (n : Snapshot) {ids others : List OperatorId}
    (within : ids.Subperm others) (q : QuorumNum) : n.total ids q ≤ n.total others q := by
  obtain ⟨some, same, sublist⟩ := within
  rw [← n.total_perm same]
  exact (sublist.map _).sum_le_sum fun _ _ => Nat.zero_le _

/-- No stake counts for two digests. -/
theorem total_signing_add_le {ρ : Type} (n : Snapshot) (q : QuorumNum) {d d' : Digest} (other : d ≠ d')
    (accepted : List (Acceptance ρ)) :
    n.total ((signing accepted d).map (·.operator)) q +
        n.total ((signing accepted d').map (·.operator)) q ≤
      n.total (accepted.map (·.operator)) q := by
  -- Each submission is over one digest, so it adds to one of the two sums at most.
  induction accepted with
  | nil => simp [signing, Snapshot.total]
  | cons a rest ih =>
    simp only [signing, Snapshot.total, List.map_cons, List.sum_cons, List.filter_cons] at ih ⊢
    by_cases first : a.digest = d <;> by_cases second : a.digest = d' <;>
      simp_all <;> omega

namespace Ledger

variable {ρ : Type} {J : Judge ρ} {t : TaskParameters} {n : Snapshot} {accepted : List (Acceptance ρ)}
  {s : TaskState ρ}

/-- Those who were accepted hold no more than all operators of the snapshot. -/
theorem total_le (ledger : Ledger J t n accepted s) (q : QuorumNum) :
    n.total (accepted.map (·.operator)) q ≤ n.total n.operators.keys q := by
  apply n.total_le_of_subperm
  apply ledger.once.subperm
  intro id listed
  obtain ⟨a, member, rfl⟩ := List.mem_map.1 listed
  obtain ⟨operator, _, found, -⟩ := ledger.vouched a member
  exact SortedMap.mem_keys_iff.2 (SortedMap.contains_iff_exists.2 ⟨operator, found⟩)

/-- The signers of a digest that meets the thresholds hold the required share of each quorum. -/
theorem share_of_met (ledger : Ledger J t n accepted s) {d : Digest} {g : Aggregate}
    (found : s.aggregates.get? d = some g) (met : meetsThresholds g.stakes n.totals t.thresholds = true)
    {q : QuorumNum} {p : UInt8} (required : t.thresholds.get? q = some p) :
    (n.totals.amount q).val * p.toNat ≤ n.total ((signing accepted d).map (·.operator)) q * 100 := by
  obtain ⟨-, -, enough⟩ := meetsThresholds_iff.1 met q p required
  rw [(ledger.described d g found).amounts, U256.val_clamp] at enough
  exact Nat.le_trans enough (Nat.mul_le_mul_right 100 (Nat.min_le_left _ _))

/-- Two digests that meet a majority are the same. -/
theorem digest_eq_of_met (ledger : Ledger J t n accepted s) (valid : t.validate = .ok ()) {q : QuorumNum}
    (guarded : MajorityQuorum t n q) {d d' : Digest} {g g' : Aggregate}
    (found : s.aggregates.get? d = some g) (met : meetsThresholds g.stakes n.totals t.thresholds = true)
    (found' : s.aggregates.get? d' = some g')
    (met' : meetsThresholds g'.stakes n.totals t.thresholds = true) : d = d' := by
  obtain ⟨⟨i, p, listed, required, majority⟩, total, recorded, positive, exact⟩ := guarded
  have threshold := TaskParameters.get?_thresholds valid listed required
  have first := ledger.share_of_met found met threshold
  have second := ledger.share_of_met found' met' threshold
  rw [Stakes.amount_of_get? recorded] at first second
  -- Two shares of more than half do not fit into what the operators of the quorum hold.
  by_contra other
  have apart := total_signing_add_le n q other accepted
  have within := ledger.total_le q
  have half : 51 ≤ p.toNat := UInt8.lt_iff_toNat_lt.1 majority
  have more : total.val * 51 ≤ total.val * p.toNat := Nat.mul_le_mul_left _ half
  omega

end Ledger

/-- Over any run, all accepted submissions that meet the thresholds are over one digest, and a winning
digest stays. -/
theorem TaskState.certifies_one {ρ : Type} (J : Judge ρ) (t : TaskParameters) (n : Snapshot)
    (keyed : n.Keyed) (valid : t.validate = .ok ()) (q : QuorumNum) (guarded : MajorityQuorum t n q)
    (xs : List (Submission ρ)) :
    (∀ a ∈ (start t n).accepted J xs, ∀ b ∈ (start t n).accepted J xs,
      a.thresholdsMet = true → b.thresholdsMet = true → a.digest = b.digest) ∧
    ∀ ys zs, xs = ys ++ zs → ∀ d, ((start t n).after J ys).winner.map (·.1) = some d →
      ((start t n).after J xs).winner.map (·.1) = some d := by
  have ledger := ledger_after J t keyed xs
  have prevails := prevails_after J t n xs
  have one : ∀ a ∈ (start t n).accepted J xs, ∀ b ∈ (start t n).accepted J xs,
      a.thresholdsMet = true → b.thresholdsMet = true → a.digest = b.digest := by
    intro a listed b listed' crossed crossed'
    obtain ⟨g, found, met⟩ := prevails.standing a listed crossed
    obtain ⟨g', found', met'⟩ := prevails.standing b listed' crossed'
    exact ledger.digest_eq_of_met valid guarded found met found' met'
  refine ⟨one, ?_⟩
  rintro ys zs rfl d won
  rw [(prevails_after J t n ys).winner, Option.map_map, Option.map_eq_some_iff] at won
  obtain ⟨a, latest, rfl⟩ := won
  obtain ⟨listed, crossed⟩ := mem_of_latestMet latest
  have listed : a ∈ (start t n).accepted J (ys ++ zs) := by
    rw [accepted_append]
    exact List.mem_append_left _ listed
  rw [prevails.winner, Option.map_map]
  obtain ⟨b, last⟩ := Option.isSome_iff_exists.1 (isSome_latestMet.2 ⟨a, listed, crossed⟩)
  obtain ⟨listed', crossed'⟩ := mem_of_latestMet last
  rw [last]
  exact congrArg some (one b listed' a listed crossed' crossed)

/-- Two of three operators certify the digest that they signed; the third does not certify another. -/
theorem TaskState.certifies_one_sample_run :
    SampleTask.snapshot.Keyed ∧ (SampleTask.parameters 0).validate = .ok () ∧
    MajorityQuorum (SampleTask.parameters 0) SampleTask.snapshot SampleTask.quorum ∧
    ((start (SampleTask.parameters 0) SampleTask.snapshot).accepted SampleTask.judge SampleTask.run).map
      (·.thresholdsMet) = [false, false, true] ∧
    let accepted :=
      (start (SampleTask.parameters 0) SampleTask.snapshot).accepted SampleTask.judge SampleTask.run
    ∀ a ∈ accepted, ∀ b ∈ accepted,
      a.thresholdsMet = true → b.thresholdsMet = true → a.digest = b.digest := by
  have guarded : MajorityQuorum (SampleTask.parameters 0) SampleTask.snapshot SampleTask.quorum :=
    ⟨⟨0, 60, rfl, rfl, by decide⟩, .ofBytes (.ofNat 32 100), by decide, by decide, by decide⟩
  exact ⟨by decide, by decide, guarded, by decide,
    (certifies_one SampleTask.judge (SampleTask.parameters 0) SampleTask.snapshot (by decide) (by decide)
      SampleTask.quorum guarded SampleTask.run).1⟩

end Attestation
