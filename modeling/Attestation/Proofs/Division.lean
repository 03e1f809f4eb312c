/-
Module: Attestation.Proofs.Division
Purpose: A result divides every quorum. Where the registry does not change between the queries of a task,
  each member of a quorum has either signed the winning digest or is reported as not having signed, never
  both; so the signed stake and the stake of those that are reported make up the total, the keys of both
  make up the key of the quorum, and the indices fit the same lists.
Main exports: Membership.keySum, TaskResult.Divides, TaskResult.members_perm, Service.divides
-/
import Attestation.Proofs.Members
import Attestation.Proofs.PointSums

namespace Attestation

namespace Membership

/-- Two parts of the members have the stakes of all of them. -/
theorem totalAt_parts {m : Membership} {block : BlockNumber} {q : QuorumNum} {left right : List OperatorId}
    (parts : (m.members block q).Perm (m.among block q left ++ m.among block q right)) :
    m.totalAt block q (m.members block q) = m.totalAt block q left + m.totalAt block q right := by
  rw [totalAt_perm parts, totalAt_append, totalAt_among, totalAt_among]

variable (C : PairingCurve) (m : Membership)

/-- The points for which the keys of some operators stand. -/
def keyPoints (ids : List OperatorId) : List C.G1.Point :=
  (ids.filterMap m.keyOf).map fun k => C.G1.point k.bytes

/-- The sum of the keys of some operators. -/
def keySum (ids : List OperatorId) : C.G1.Point := C.G1.sum (m.keyPoints C ids)

variable {C m} {ids ids' : List OperatorId}

theorem keyPoints_append : m.keyPoints C (ids ++ ids') = m.keyPoints C ids ++ m.keyPoints C ids' := by
  unfold keyPoints
  rw [List.filterMap_append, List.map_append]

theorem keyPoints_perm (same : ids.Perm ids') : (m.keyPoints C ids).Perm (m.keyPoints C ids') :=
  (same.filterMap _).map _

/-- The sum of keys that were summed up in one order is that of two parts in another. -/
theorem bytes_of_parts (abelian : C.G1.Abelian) {left right : List OperatorId} {key : G1PublicKey}
    (summed : Bls.aggregateG1 C (ids.filterMap m.keyOf) = .ok key) (parts : ids.Perm (left ++ right)) :
    key.bytes = C.G1.encode (C.G1.add (m.keySum C left) (m.keySum C right)) := by
  obtain ⟨each, sum⟩ := Bls.encodes_of_aggregateG1 summed
  have members : ∀ p ∈ m.keyPoints C ids, C.G1.Member p := by
    intro p listed
    obtain ⟨k, summand, rfl⟩ := List.mem_map.1 listed
    exact (each k summand).member
  have same := keyPoints_perm (C := C) (m := m) parts
  rw [keyPoints_append] at same
  have left' : ∀ p ∈ m.keyPoints C left, C.G1.Member p := fun p listed =>
    members p (same.mem_iff.2 (List.mem_append_left _ listed))
  have right' : ∀ p ∈ m.keyPoints C right, C.G1.Member p := fun p listed =>
    members p (same.mem_iff.2 (List.mem_append_right _ listed))
  calc key.bytes = C.G1.encode (C.G1.sum (m.keyPoints C ids)) := by
        rw [sum, abelian.sum_eq_foldl members]
        rfl
    _ = C.G1.encode (C.G1.sum (m.keyPoints C left ++ m.keyPoints C right)) := by
        rw [abelian.sum_perm same members]
    _ = C.G1.encode (C.G1.add (m.keySum C left) (m.keySum C right)) := by
        rw [abelian.sum_append left' right']
        rfl

end Membership

/-- How a result divides the quorums of its task among those that signed its digest and those that it
reports. -/
structure TaskResult.Divides {ρ : Type} (C : PairingCurve) (m : Membership) (t : TaskParameters)
    (signers : List OperatorId) (result : TaskResult ρ) : Prop where
  /-- Every member is on exactly one side. -/
  members : ∀ q ∈ t.quorums, (m.members t.block q).Perm
    (m.among t.block q signers ++ m.among t.block q result.nonSigners)
  stakes : ∀ q ∈ t.quorums, m.totalAt t.block q (m.members t.block q) < 2 ^ 256 →
    ∃ total signed, result.totalStakes.get? q = some total ∧ result.signedStakes.get? q = some signed ∧
      total.val = signed.val + m.totalAt t.block q result.nonSigners
  /-- The key of every member stands for a point. -/
  encoded : ∀ q ∈ t.quorums, ∀ id ∈ m.members t.block q,
    ∃ k, m.keyOf id = some k ∧ C.G1.Encodes k.bytes (C.G1.point k.bytes)
  /-- The key of a quorum is the sum of the keys on both sides. -/
  keys : C.G1.Abelian → ∀ (i : Nat) (q : QuorumNum), t.quorums[i]? = some q →
    ∃ key, result.quorumKeys[i]? = some key ∧ key.bytes = C.G1.encode (C.G1.add
      (m.keySum C (m.among t.block q signers)) (m.keySum C (m.among t.block q result.nonSigners)))
  bitmaps : result.indices.nonSignerBitmaps.length = result.nonSigners.length
  quorumKeys : result.indices.quorumKeys.length = t.quorums.length
  totalStakes : result.indices.totalStakes.length = t.quorums.length
  nonSignerStakes : result.indices.nonSignerStakes.map (·.length) =
    t.quorums.map fun q => (m.among t.block q result.nonSigners).length

section Dividing

variable {ρ : Type} {C : PairingCurve} {m : Membership} {t : TaskParameters} {n : Snapshot}
  {states : QuorumStates} {merged : List (Acceptance ρ)} {result : TaskResult ρ} {q : QuorumNum}

theorem mem_signers {d : Digest} {id : OperatorId} :
    id ∈ (signing merged d).map (·.operator) ↔ ∃ a ∈ merged, a.operator = id ∧ a.digest = d := by
  simp only [List.mem_map, mem_signing]
  constructor
  · rintro ⟨a, ⟨listed, same⟩, rfl⟩
    exact ⟨a, listed, rfl, same⟩
  · rintro ⟨a, listed, rfl, same⟩
    exact ⟨a, ⟨listed, same⟩, rfl⟩

/-- The members of a quorum are those that signed and those that are reported. -/
theorem TaskResult.members_perm (tells : m.Tells C t n) (reports : result.Reports t states n merged)
    (once : (merged.map (·.operator)).Nodup) (listed : q ∈ t.quorums) :
    (m.members t.block q).Perm (m.among t.block q ((signing merged result.digest).map (·.operator)) ++
      m.among t.block q result.nonSigners) := by
  have signed : ((signing merged result.digest).map (·.operator)).Nodup :=
    once.sublist (List.filter_sublist.map _)
  have reported : result.nonSigners.Nodup := by
    apply reports.ascending.imp
    rintro a b less rfl
    exact Nat.lt_irrefl _ less
  have apart : ∀ id ∈ m.among t.block q ((signing merged result.digest).map (·.operator)),
      ∀ id' ∈ m.among t.block q result.nonSigners, id ≠ id' := by
    rintro id signer id' missing rfl
    have missing := ((reports.listed id).1 (Membership.mem_among.1 missing).1).2
    exact missing (mem_signers.1 (Membership.mem_among.1 signer).1)
  rw [List.perm_ext_iff_of_nodup Membership.nodup_members (List.nodup_append.2
    ⟨Membership.nodup_among signed, Membership.nodup_among reported, apart⟩)]
  intro id
  rw [List.mem_append, Membership.mem_among, Membership.mem_among, ← or_and_right, Membership.mem_members]
  constructor
  · intro member
    have known := tells.contains listed (Membership.mem_members.2 member)
    refine ⟨?_, member⟩
    by_cases signer : ∃ a ∈ merged, a.operator = id ∧ a.digest = result.digest
    · exact .inl (mem_signers.2 signer)
    · exact .inr ((reports.listed id).2 ⟨known, signer⟩)
  · exact And.right

/-- Every result of a worker whose queries have all found one membership divides the quorums of its task. -/
theorem TaskResult.divides_of_resolves {J : Judge ρ} {taken : List (Submission ρ)}
    {asked : List (Inquiry Registry)} (valid : t.validate = .ok ())
    (resolves : Resolves ⟨J, Registry.provider C⟩ t taken merged asked states n result)
    (unchanged : ∀ i ∈ asked, i.registry.membership = m) :
    result.Divides C m t ((signing merged result.digest).map (·.operator)) := by
  obtain ⟨first, second, third, fetches, answered, rfl⟩ := resolves.inquiries
  simp only [List.forall_mem_cons, Inquiry.registry] at unchanged
  obtain ⟨one, two, three, -⟩ := unchanged
  have distinct := (TaskParameters.validate_eq_ok_iff.1 valid).2.2.1
  have tells := Membership.tells_of_fetches distinct fetches one two
  have indices : m.indicesAt t.block t.quorums result.nonSigners = result.indices := by
    rw [← three]
    exact Except.ok.inj (Registry.orFailure_eq_ok answered)
  have reports := TaskState.reports_of_result? valid tells.keyed
    (Snapshot.combines_ofStates fetches.snapshot) resolves.built
  obtain ⟨totals, quorumKeys, signed⟩ := TaskState.passed_of_result? tells.keyed resolves.built
  have ledger := TaskState.ledger_after J t tells.keyed taken
  rw [← resolves.merged] at reports signed ledger
  have parts := fun q => TaskResult.members_perm (q := q) tells reports ledger.once
  constructor
  · exact parts
  · intro q listed small
    have total := tells.totals q listed
    rw [← totals] at total
    refine ⟨_, _, total, signed q listed, ?_⟩
    have sum := Membership.totalAt_parts (parts q listed)
    have bound : 2 ^ 256 = 1 <<< 256 := by decide
    rw [U256.val_clamp, U256.val_clamp, tells.total listed]
    omega
  · intro q listed id member
    obtain ⟨i, listed⟩ := List.mem_iff_getElem?.1 listed
    obtain ⟨key, -, summed⟩ := tells.quorumKeys i q listed
    obtain ⟨k, known⟩ := Membership.exists_keyOf member
    exact ⟨k, known, (Bls.encodes_of_aggregateG1 summed).1 k (List.mem_filterMap.2 ⟨id, member, known⟩)⟩
  · intro abelian i q listed
    obtain ⟨key, place, summed⟩ := tells.quorumKeys i q listed
    rw [← quorumKeys] at place
    exact ⟨key, place, Membership.bytes_of_parts abelian summed (parts q (List.mem_of_getElem? listed))⟩
  · rw [← indices, Membership.indicesAt, List.length_map]
  · rw [← indices, Membership.indicesAt, List.length_map]
  · rw [← indices, Membership.indicesAt, List.length_map]
  · rw [← indices, Membership.length_nonSignerStakes]

end Dividing

namespace Service

variable {ρ : Type}

/-- Every result of a service over a registry kept in memory divides the quorums of its task, if the
registry's membership was the same at all queries that were made for the task. -/
theorem divides (C : PairingCurve) (J : Judge ρ) {config : Config} {registry : Registry}
    {s : Service ρ Registry} (created : create config registry = .ok s)
    (actions : List (Action ρ Registry)) (id : WorkerId) (t : TaskParameters) (result : TaskResult ρ)
    (m : Membership) :
    let E : Setting ρ Registry := ⟨J, Registry.provider C⟩
    (id, t) ∈ s.along E starts actions → (id, some (.ok result)) ∈ s.along E (endings E) actions →
    (∀ i ∈ valuesAt id (s.along E (inquiries E) actions), i.registry.membership = m) →
    result.Divides C m t
      ((signing (valuesAt id (s.along E (merges E) actions)) result.digest).map (·.operator)) := by
  intro E began ended unchanged
  obtain ⟨t', states, n, began', resolves⟩ := (inquires_after E created actions).resolved id result ended
  cases (lives_after E created actions).parameters_unique began began'
  exact TaskResult.divides_of_resolves (valid_of_starts began) resolves unchanged

/-- The first and the third operator sign seven, the second eight: two parts of the stake and of the keys are
with the signers, one is with the operator that is reported. -/
theorem divides_sample_run :
    let E : Setting Nat Registry :=
      ⟨.pairing SampleCurve.curve SampleCurve.hasher, Registry.provider SampleCurve.curve⟩
    let m := SampleCurve.membership [(1, 1, .clamp 100), (2, 4, .clamp 100), (3, 2, .clamp 100)]
    let submit (id secret response : Nat) : Action Nat Registry :=
      .submit 1 (SampleCurve.operatorId id) response (SampleCurve.sign secret (.ofNat 32 response)) false
    let actions := [.startTask true SampleCurve.parameters, .work 0, .work 0, .work 0, submit 1 1 7,
      submit 2 4 8, submit 3 2 7, .poll 0, .poll 0, .poll 1, .poll 1, .poll 2, .poll 2, .work 0, .work 0,
      .work 0, .work 0]
    ∃ (s : Service Nat Registry) (result : TaskResult Nat),
      create .default (SampleCurve.registry m) = .ok s ∧
      (0, SampleCurve.parameters) ∈ s.along E starts actions ∧
      (0, some (.ok result)) ∈ s.along E (endings E) actions ∧
      (∀ i ∈ valuesAt 0 (s.along E (inquiries E) actions), i.registry.membership = m) ∧
      result.nonSigners = [SampleCurve.operatorId 2] ∧ SampleCurve.curve.G1.Abelian ∧
      result.Divides SampleCurve.curve m SampleCurve.parameters
        [SampleCurve.operatorId 1, SampleCurve.operatorId 3] := by
  intro E m submit actions
  obtain ⟨s, created, began, unchanged, merged, given⟩ : ∃ s : Service Nat Registry,
      create .default (SampleCurve.registry m) = .ok s ∧
      (0, SampleCurve.parameters) ∈ s.along E starts actions ∧
      (∀ i ∈ valuesAt 0 (s.along E (inquiries E) actions), i.registry.membership = m) ∧
      (signing (valuesAt 0 (s.along E (merges E) actions)) (.ofNat 32 7)).map (·.operator) =
        [SampleCurve.operatorId 1, SampleCurve.operatorId 3] ∧
      (s.along E (endings E) actions).map (fun e =>
        (e.1, e.2.bind fun r => r.toOption.map fun r => (r.digest, r.nonSigners))) =
          [(0, some (.ofNat 32 7, [SampleCurve.operatorId 2]))] :=
    ⟨_, rfl, by decide +kernel, by decide +kernel, by decide +kernel, by decide +kernel⟩
  obtain ⟨result, ended, listed⟩ := exists_of_shown given
  obtain ⟨digest, reported⟩ := Prod.mk.inj listed
  have divided := divides SampleCurve.curve (.pairing SampleCurve.curve SampleCurve.hasher) created
    actions 0 SampleCurve.parameters result m began ended unchanged
  rw [digest, merged] at divided
  exact ⟨s, result, created, began, ended, unchanged, reported, SampleCurve.abelian_signatures, divided⟩

end Service

end Attestation
