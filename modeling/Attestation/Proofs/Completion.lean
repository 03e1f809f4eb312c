/-
Module: Attestation.Proofs.Completion
Purpose: When a submission completes a task. What it reports of the thresholds is a comparison of exact sums,
  but for one thing: the total of a quorum is cut off at the largest amount. So a task is never completed
  too late, and not too early either unless the stakes of some quorum add up to more than an amount can
  be; then a part of the stake that is smaller than the threshold may be enough.
Main exports: Membership.Completes, Ledger.met_iff, Membership.Tells.met_iff, Service.decided_of_merge,
  Service.completion, Service.completed_below_threshold
-/
import Attestation.Proofs.Members

namespace Attestation

/-- Among the operators there are members of each quorum of the task, and together they hold the required
percentage of its total. -/
def Membership.Completes (m : Membership) (t : TaskParameters) (total : QuorumNum → Nat)
    (ids : List OperatorId) : Prop :=
  ∀ (i : Nat) (q : QuorumNum) (p : UInt8), t.quorums[i]? = some q → t.percentages[i]? = some p →
    (∃ id ∈ ids, id ∈ m.members t.block q) ∧ total q * p.toNat ≤ 100 * m.totalAt t.block q ids

section Meeting

variable {ρ : Type} {J : Judge ρ} {C : PairingCurve} {t : TaskParameters} {n : Snapshot} {m : Membership}
  {accepted : List (Acceptance ρ)} {s next : TaskState ρ} {x : Submission ρ} {report : Accepted}

/-- The thresholds are met by a submission if those that have signed its digest, the new one included, have
enough of the stakes that the snapshot records. -/
theorem Ledger.met_iff (ledger : Ledger J t n accepted s) (keyed : n.Keyed) (valid : t.validate = .ok ())
    (decided : s.submit J x.operator x.response x.signature = .ok (report, next)) :
    let signers := (signing (accepted ++ [⟨x, report⟩]) report.digest).map (·.operator)
    report.thresholdsMet = true ↔ ∀ (i : Nat) (q : QuorumNum) (p : UInt8), t.quorums[i]? = some q →
      t.percentages[i]? = some p → (∃ id ∈ signers, (n.stakesOf id).contains q = true) ∧
        n.totals.contains q = true ∧
        (n.totals.amount q).val * p.toNat ≤ (U256.clamp (n.total signers q)).val * 100 := by
  intro signers
  obtain ⟨operator, key, aggregate, admits⟩ := TaskState.submit_eq_ok_iff.1 decided
  have described := ledger.describes_merged keyed admits
  have list : signers =
      (signing accepted report.digest ++ [(⟨x, report⟩ : Acceptance ρ)]).map (·.operator) := by
    simp [signers, signing, List.filter_append]
  have present : ∀ q, aggregate.stakes.contains q = true ↔
      ∃ id ∈ signers, (n.stakesOf id).contains q = true := by
    intro q
    rw [described.quorums, list]
    simp
  rw [admits.met, ledger.parameters, ledger.snapshot, meetsThresholds_iff]
  constructor
  · intro met i q p listed required
    obtain ⟨signed, known, enough⟩ := met q p (TaskParameters.get?_thresholds valid listed required)
    rw [described.amounts, ← list] at enough
    exact ⟨(present q).1 signed, known, enough⟩
  · intro met q p threshold
    obtain ⟨i, listed, required⟩ := TaskParameters.exists_of_get?_thresholds threshold
    obtain ⟨signed, known, enough⟩ := met i q p listed required
    rw [described.amounts, ← list]
    exact ⟨(present q).2 signed, known, enough⟩

/-- Whether the signed stake is cut off does not count where the total is. -/
theorem cut_le_iff {total signed limit p : Nat} (percentage : p ≤ 100) :
    min total limit * p ≤ min signed limit * 100 ↔ min total limit * p ≤ 100 * signed := by
  by_cases small : signed ≤ limit
  · rw [Nat.min_eq_left small, Nat.mul_comm signed]
  · have bounded : min total limit * p ≤ limit * 100 :=
      Nat.mul_le_mul (Nat.min_le_right total limit) percentage
    omega

/-- With the stakes of one membership the comparison is with the exact stake of the signers and the totals,
cut off. -/
theorem Membership.Tells.met_iff (tells : m.Tells C t n) (ledger : Ledger J t n accepted s)
    (valid : t.validate = .ok ())
    (decided : s.submit J x.operator x.response x.signature = .ok (report, next)) :
    report.thresholdsMet = true ↔
      m.Completes t (fun q => min (m.totalAt t.block q (m.members t.block q)) (2 ^ 256 - 1))
        ((signing (accepted ++ [⟨x, report⟩]) report.digest).map (·.operator)) := by
  obtain ⟨-, -, -, percentages⟩ := TaskParameters.validate_eq_ok_iff.1 valid
  unfold Completes
  apply (ledger.met_iff tells.keyed valid decided).trans
  refine forall_congr' fun i => forall_congr' fun q => forall_congr' fun p =>
    imp_congr_right fun listed => imp_congr_right fun required => ?_
  have member := List.mem_of_getElem? listed
  have small : p.toNat ≤ 100 := percentages p (List.mem_of_getElem? required)
  have total := tells.totals q member
  have known : n.totals.contains q = true := SortedMap.contains_iff_exists.2 ⟨_, total⟩
  have recorded : ∀ id, (n.stakesOf id).contains q = true ↔ id ∈ m.members t.block q := by
    intro id
    rw [SortedMap.contains, tells.stakes q member, mem_members]
  have bound : (1 <<< 256 : Nat) - 1 = 2 ^ 256 - 1 := by decide
  simp only [known, true_and, recorded, tells.total member, Stakes.amount_of_get? total, U256.val_clamp,
    bound, cut_le_iff small]

end Meeting

namespace Membership.Completes

variable {m : Membership} {t : TaskParameters} {total less : QuorumNum → Nat} {ids : List OperatorId}

/-- It is only easier to complete a task if totals are smaller. -/
theorem of_le (completes : m.Completes t total ids) (smaller : ∀ q ∈ t.quorums, less q ≤ total q) :
    m.Completes t less ids := by
  intro i q p listed required
  obtain ⟨signed, enough⟩ := completes i q p listed required
  refine ⟨signed, ?_⟩
  calc less q * p.toNat ≤ total q * p.toNat :=
        Nat.mul_le_mul_right _ (smaller q (List.mem_of_getElem? listed))
    _ ≤ 100 * m.totalAt t.block q ids := enough

theorem cut (completes : m.Completes t total ids) (limit : Nat) :
    m.Completes t (fun q => min (total q) limit) ids := completes.of_le fun _ _ => Nat.min_le_left _ _

theorem cut_iff {limit : Nat} (small : ∀ q ∈ t.quorums, total q ≤ limit) :
    m.Completes t (fun q => min (total q) limit) ids ↔ m.Completes t total ids := by
  constructor
  · intro completes
    apply completes.of_le
    intro q listed
    exact Nat.le_min.2 ⟨Nat.le_refl _, small q listed⟩
  · intro completes
    exact completes.cut limit

end Membership.Completes

/-- What a worker merges it has decided on with the state that it collects in. -/
theorem Worker.decided_of_merges {ρ : Type} {J : Judge ρ} {w : Worker ρ} {now : Nat} {a : Acceptance ρ}
    (merges : w.merges? J now = some a) : ∃ c next, w.phase = .collecting c ∧
      c.state.submit J a.operator a.response a.signature = .ok (a.toAccepted, next) := by
  obtain ⟨⟨c, x⟩, takes, accepts⟩ := Option.bind_eq_some_iff.1 merges
  unfold takes? at takes
  split at takes
  next collection phase =>
    split at takes
    · obtain ⟨x', -, same⟩ := Option.map_eq_some_iff.1 takes
      cases same
      dsimp only [TaskState.acceptance?] at accepts
      split at accepts
      · cases accepts
        exact ⟨_, _, phase, by assumption⟩
      · cases accepts
    · cases takes
  next => cases takes

namespace Service

section Merging

variable {ρ σ : Type} {E : Setting ρ σ} {s : Service ρ σ} {id : WorkerId} {a : Acceptance ρ}

/-- Only a worker that is there merges. -/
theorem worker_of_merge (merging : (id, a) ∈ s.merges E (.work id)) :
    ∃ w, s.workers.get? id = some w ∧ w.merges? E.judge s.now = some a := by
  obtain ⟨a', merges, same⟩ := List.mem_map.1 merging
  cases same
  exact Option.bind_eq_some_iff.1 (Option.mem_toList.1 merges)

/-- An accepted submission was decided on in the state to which the earlier ones have led, and its snapshot
was made of the answers to all that had been asked for the task. -/
theorem decided_of_merge {config : Config} {registry : σ} (created : create config registry = .ok s)
    {before : List (Action ρ σ)} {t : TaskParameters} (began : (id, t) ∈ s.along E starts before)
    (merging : (id, a) ∈ (s.after E before).merges E (.work id)) :
    ∃ n, ∃ state next : TaskState ρ,
      n.Fetched E t (valuesAt id (s.along E (inquiries E) before)) ∧
      state.Arises E.judge t n (valuesAt id (s.along E takes before))
        (valuesAt id (s.along E (merges E) before)) ∧
      state.submit E.judge a.operator a.response a.signature = .ok (a.toAccepted, next) ∧
      valuesAt id (s.along E (merges E) (before ++ [.work id])) =
        valuesAt id (s.along E (merges E) before) ++ [a] := by
  have lives := lives_after E created before
  obtain ⟨w, found, merges⟩ := worker_of_merge merging
  obtain ⟨c, next, phase, decided⟩ := Worker.decided_of_merges merges
  have works := tenure_of_get? found
  obtain ⟨began', -, holds⟩ := lives.working id _ _ works
  have informed := (inquires_after E created before).working id _ _ works
  cases lives.parameters_unique began began'
  rw [phase] at holds informed
  obtain ⟨n, -, arises⟩ := holds
  refine ⟨n, c.state, next, arises.snapshot ▸ informed, arises, decided, ?_⟩
  rw [along_snoc, (Lives.values_own E [] _ found).2, merges, Option.toList_some]

end Merging

variable {ρ : Type}

/-- What an accepted submission reports of the thresholds, over a registry kept in memory whose membership
was the same at the queries for the task. -/
theorem completion (C : PairingCurve) (J : Judge ρ) {config : Config} {registry : Registry}
    {s : Service ρ Registry} (created : create config registry = .ok s)
    (before : List (Action ρ Registry)) (id : WorkerId) (t : TaskParameters) (a : Acceptance ρ)
    (m : Membership) :
    let E : Setting ρ Registry := ⟨J, Registry.provider C⟩
    let merged := valuesAt id (s.along E (merges E) (before ++ [.work id]))
    let signers := (signing merged a.digest).map (·.operator)
    let total := fun q => m.totalAt t.block q (m.members t.block q)
    (id, t) ∈ s.along E starts before → (id, a) ∈ (s.after E before).merges E (.work id) →
    (∀ i ∈ valuesAt id (s.along E (inquiries E) before), i.registry.membership = m) →
    (a.thresholdsMet = true ↔ m.Completes t (fun q => min (total q) (2 ^ 256 - 1)) signers) ∧
      (m.Completes t total signers → a.thresholdsMet = true) ∧
      ((∀ q ∈ t.quorums, total q < 2 ^ 256) →
        (a.thresholdsMet = true ↔ m.Completes t total signers)) := by
  intro E merged signers total began merging unchanged
  obtain ⟨n, state, next, ⟨first, second, states, fetches, asked⟩, arises, decided, grown⟩ :=
    decided_of_merge created began merging
  have valid := valid_of_starts began
  have distinct := (TaskParameters.validate_eq_ok_iff.1 valid).2.2.1
  rw [asked, List.forall_mem_cons, List.forall_mem_singleton] at unchanged
  have tells := Membership.tells_of_fetches distinct fetches unchanged.1 unchanged.2
  have ledger := TaskState.ledger_after E.judge t tells.keyed (valuesAt id (s.along E takes before))
  rw [← arises.state, ← arises.merged] at ledger
  have met : a.thresholdsMet = true ↔
      m.Completes t (fun q => min (total q) (2 ^ 256 - 1)) signers := by
    have list : signers =
        (signing (valuesAt id (s.along E (merges E) before) ++ [a]) a.digest).map (·.operator) := by
      rw [← grown]
    rw [list]
    exact tells.met_iff (x := a.toSubmission) ledger valid decided
  refine ⟨met, fun completes => met.2 (completes.cut _), fun small => ?_⟩
  rw [met]
  exact Membership.Completes.cut_iff fun q listed => Nat.le_pred_of_lt (small q listed)

/-- Two of three operators reach the threshold, and their exact stake does. -/
theorem completion_sample_run :
    let E : Setting Nat Registry :=
      ⟨.pairing SampleCurve.curve SampleCurve.hasher, Registry.provider SampleCurve.curve⟩
    let m := SampleCurve.membership [(1, 1, .clamp 100), (2, 4, .clamp 100), (3, 2, .clamp 100)]
    let submit (id secret response : Nat) : Action Nat Registry :=
      .submit 1 (SampleCurve.operatorId id) response (SampleCurve.sign secret (.ofNat 32 response)) false
    let before := [.startTask true SampleCurve.parameters, .work 0, .work 0, .work 0, submit 1 1 7,
      submit 3 2 7, .poll 0, .poll 0, .poll 1, .poll 1, .work 0]
    let total := fun q => m.totalAt 1 q (m.members 1 q)
    ∃ (s : Service Nat Registry) (a : Acceptance Nat),
      create .default (SampleCurve.registry m) = .ok s ∧
      (0, SampleCurve.parameters) ∈ s.along E starts before ∧
      (0, a) ∈ (s.after E before).merges E (.work 0) ∧
      (∀ i ∈ valuesAt 0 (s.along E (inquiries E) before), i.registry.membership = m) ∧
      total SampleCurve.quorum = 300 ∧ a.thresholdsMet = true ∧
      m.Completes SampleCurve.parameters total [SampleCurve.operatorId 1, SampleCurve.operatorId 3] := by
  intro E m submit before total
  obtain ⟨s, created, began, unchanged, given⟩ : ∃ s : Service Nat Registry,
      create .default (SampleCurve.registry m) = .ok s ∧
      (0, SampleCurve.parameters) ∈ s.along E starts before ∧
      (∀ i ∈ valuesAt 0 (s.along E (inquiries E) before), i.registry.membership = m) ∧
      ((s.after E before).merges E (.work 0)).map (fun e => (e.1, e.2.digest, e.2.thresholdsMet,
        (signing (valuesAt 0 (s.along E (merges E) (before ++ [.work 0]))) e.2.digest).map (·.operator))) =
          [(0, .ofNat 32 7, true, [SampleCurve.operatorId 1, SampleCurve.operatorId 3])] :=
    ⟨_, rfl, by decide +kernel, by decide +kernel, by decide +kernel⟩
  obtain ⟨⟨id, a⟩, merging, shown⟩ := List.mem_map.1 (given ▸ List.mem_singleton_self _)
  obtain ⟨rfl, shown⟩ := Prod.mk.inj shown
  obtain ⟨-, shown⟩ := Prod.mk.inj shown
  obtain ⟨met, signers⟩ := Prod.mk.inj shown
  have all : total SampleCurve.quorum = 300 := by decide +kernel
  have small : ∀ q ∈ SampleCurve.parameters.quorums, total q < 2 ^ 256 := by
    intro q listed
    cases List.mem_singleton.1 listed
    rw [all]
    decide
  have completes := ((completion SampleCurve.curve (.pairing SampleCurve.curve SampleCurve.hasher) created
    before 0 SampleCurve.parameters a m began merging unchanged).2.2 small).1 met
  rw [signers] at completes
  exact ⟨s, a, created, began, merging, unchanged, all, met, completes⟩

/-- Of two operators with the largest stake one is enough for a threshold of 60: the total is cut off where
the stake of one already ends. -/
theorem completed_below_threshold :
    let E : Setting Nat Registry :=
      ⟨.pairing SampleCurve.curve SampleCurve.hasher, Registry.provider SampleCurve.curve⟩
    let m := SampleCurve.membership [(1, 1, .max), (2, 4, .max)]
    let before := [.startTask true SampleCurve.parameters, .work 0, .work 0, .work 0,
      .submit 1 (SampleCurve.operatorId 1) 7 (SampleCurve.sign 1 (.ofNat 32 7)) false, .poll 0,
      .poll 0]
    ∃ s : Service Nat Registry, create .default (SampleCurve.registry m) = .ok s ∧
      (0, SampleCurve.parameters) ∈ s.along E starts before ∧
      (∀ i ∈ valuesAt 0 (s.along E (inquiries E) before), i.registry.membership = m) ∧
      ((s.after E before).merges E (.work 0)).map (fun e => (e.1, e.2.thresholdsMet,
        (signing (valuesAt 0 (s.along E (merges E) (before ++ [.work 0]))) e.2.digest).map (·.operator))) =
          [(0, true, [SampleCurve.operatorId 1])] ∧
      ¬ m.Completes SampleCurve.parameters (fun q => m.totalAt 1 q (m.members 1 q))
        [SampleCurve.operatorId 1] := by
  refine ⟨_, rfl, by decide +kernel, by decide +kernel, by decide +kernel, ?_⟩
  intro completes
  have enough := (completes 0 SampleCurve.quorum 60 rfl rfl).2
  exact absurd enough (by decide +kernel)

end Service

end Attestation
