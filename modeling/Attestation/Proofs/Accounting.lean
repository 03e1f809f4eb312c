/-
Module: Attestation.Proofs.Accounting
Purpose: The books of a task. After any run of submissions the state is what the accepted ones imply and
  nothing more: who signed which digest, and for every digest the sums of signatures, keys and stakes
  over exactly those who signed it. The invariant that carries this keeps an aggregate beside the list of
  its signers in the order in which they came.
Main exports: Snapshot.Keyed, Snapshot.stakesOf, Snapshot.total, SumOf, Describes, Ledger,
  TaskState.ledger_after, Accounts, TaskState.accounts_after
-/
import Attestation.Fixture.SampleTask
import Attestation.Proofs.Winner
import Mathlib

namespace Attestation

namespace Snapshot

/-- Every operator is listed under its own id. -/
def Keyed (n : Snapshot) : Prop := ∀ id operator, n.operators.get? id = some operator → operator.id = id

instance (n : Snapshot) : Decidable n.Keyed :=
  decidable_of_iff (∀ e ∈ n.operators.toList, e.2.id = e.1) <| by
    simp only [Keyed, SortedMap.get?_eq_some_iff, Prod.forall]

/-- The stakes that the snapshot records of an operator. -/
def stakesOf (n : Snapshot) (id : OperatorId) : Stakes := ((n.operators.get? id).map (·.stakes)).getD ∅

/-- The key against which an operator's signatures are verified. -/
def verificationKey? (n : Snapshot) (id : OperatorId) : Option G2PublicKey :=
  (n.operators.get? id).bind (·.pubkeys.g2)

/-- The exact sum of the stakes of some operators in a quorum. -/
def total (n : Snapshot) (ids : List OperatorId) (q : QuorumNum) : Nat :=
  (ids.map fun id => ((n.stakesOf id).amount q).val).sum

theorem stakesOf_of_get? {n : Snapshot} {id : OperatorId} {operator : OperatorState}
    (member : n.operators.get? id = some operator) : n.stakesOf id = operator.stakes := by
  rw [stakesOf, member, Option.map_some, Option.getD_some]

theorem total_append (n : Snapshot) (ids others : List OperatorId) (q : QuorumNum) :
    n.total (ids ++ others) q = n.total ids q + n.total others q := by
  rw [total, List.map_append, List.sum_append, total, total]

/-- The sum does not depend on the order of the operators. -/
theorem total_perm (n : Snapshot) {ids others : List OperatorId} (same : ids.Perm others)
    (q : QuorumNum) : n.total ids q = n.total others q :=
  (same.map _).sum_nat

end Snapshot

/-- What the elements of a list make when they are added one after another to the first. -/
def SumOf {ε α : Type} (add : α → α → Except ε α) : List α → α → Prop
  | [], _ => False
  | first :: rest, sum => rest.foldlM add first = .ok sum

/-- One more element is added to the sum of those before it. -/
theorem SumOf.snoc {ε α : Type} {add : α → α → Except ε α} {xs : List α} {sum x larger : α}
    (so : SumOf add xs sum) (added : add sum x = .ok larger) : SumOf add (xs ++ [x]) larger := by
  cases xs with
  | nil => cases so
  | cons first rest =>
    show (rest ++ [x]).foldlM add first = .ok larger
    rw [List.foldlM_append]
    refine bind_eq_ok_iff.2 ⟨sum, so, ?_⟩
    rw [List.foldlM_cons, added]
    rfl

/-- An aggregate holds the sums over a list of accepted submissions, and their operators. -/
structure Describes {ρ : Type} (C : PairingCurve) (n : Snapshot) (signing : List (Acceptance ρ))
    (g : Aggregate) : Prop where
  signers : ∀ id, g.signers.contains id = true ↔ ∃ a ∈ signing, a.operator = id
  quorums : ∀ q, g.stakes.contains q = true ↔
    ∃ a ∈ signing, (n.stakesOf a.operator).contains q = true
  amounts : ∀ q, g.stakes.amount q = .clamp (n.total (signing.map (·.operator)) q)
  signature : SumOf (Bls.addSignature C) (signing.map (·.signature)) g.signature
  key : SumOf (Bls.addPublicKey C) (signing.filterMap fun a => n.verificationKey? a.operator) g.key

section Merging

variable {ρ : Type} {C : PairingCurve} {n : Snapshot} {operator : OperatorState} {key : G2PublicKey}
  {g merged : Aggregate} {signing : List (Acceptance ρ)} {a : Acceptance ρ}

/-- The first signer's aggregate describes that signer alone. -/
theorem describes_first (keyed : n.Keyed) (member : n.operators.get? a.operator = some operator)
    (has : operator.pubkeys.g2 = some key) : Describes C n [a] (.first operator key a.signature) where
  signers id := by
    show (SortedMap.insert ∅ operator.id ()).contains id = true ↔ _
    rw [SortedMap.contains_insert, keyed _ _ member]
    simp [SortedMap.contains, eq_comm]
  quorums q := by
    simp [Aggregate.first, Snapshot.stakesOf_of_get? member]
  amounts q := by
    have small := (operator.stakes.amount q).isLt
    apply U256.ext
    simp only [Aggregate.first, List.map_cons, List.map_nil, Snapshot.total, List.sum_cons, List.sum_nil,
      Snapshot.stakesOf_of_get? member, U256.val_clamp]
    omega
  signature := rfl
  key := by
    simp [Snapshot.verificationKey?, member, has, SumOf, Aggregate.first, pure, Except.pure]

/-- An aggregate with one more signer describes the signers so far and the new one. -/
theorem Describes.addSigner (keyed : n.Keyed) (described : Describes C n signing g)
    (member : n.operators.get? a.operator = some operator) (has : operator.pubkeys.g2 = some key)
    (added : g.addSigner C operator key a.signature = .ok merged) :
    Describes C n (signing ++ [a]) merged := by
  obtain ⟨signatures, keys, hsignatures, hkeys, rfl⟩ := Aggregate.addSigner_eq_ok_iff.1 added
  refine ⟨fun id => ?_, fun q => ?_, fun q => ?_, ?_, ?_⟩
  · rw [SortedMap.contains_insert, keyed _ _ member, Bool.or_eq_true, described.signers,
      decide_eq_true_eq]
    simp [or_comm, or_and_right, exists_or, eq_comm]
  · rw [Stakes.contains_add, Bool.or_eq_true, described.quorums, ← Snapshot.stakesOf_of_get? member]
    simp [or_and_right, exists_or]
  · rw [Stakes.amount_add, described.amounts, U256.saturatingAdd_clamp, List.map_append,
      Snapshot.total_append]
    simp [Snapshot.total, Snapshot.stakesOf_of_get? member]
  · rw [List.map_append]
    exact described.signature.snoc hsignatures
  · have found : n.verificationKey? a.operator = some key := by
      rw [Snapshot.verificationKey?, member, Option.bind_some, has]
    rw [List.filterMap_append, List.filterMap_cons, found]
    exact described.key.snoc hkeys

end Merging

/-- An accepted submission is by an operator of the snapshot, over the digest of its response, and
verified under the operator's key. -/
def Acceptance.Vouched {ρ : Type} (J : Judge ρ) (n : Snapshot) (a : Acceptance ρ) : Prop :=
  ∃ operator key, n.operators.get? a.operator = some operator ∧ operator.pubkeys.g2 = some key ∧
    J.hash a.response = .ok a.digest ∧ J.verify a.digest a.signature key = .ok true

/-- Those of a run's accepted submissions that are over a digest. -/
def signing {ρ : Type} (accepted : List (Acceptance ρ)) (d : Digest) : List (Acceptance ρ) :=
  accepted.filter (·.digest = d)

theorem mem_signing {ρ : Type} {accepted : List (Acceptance ρ)} {d : Digest} {a : Acceptance ρ} :
    a ∈ signing accepted d ↔ a ∈ accepted ∧ a.digest = d := by
  simp [signing]

/-- The invariant of a task: its state beside the list of what it has accepted. -/
structure Ledger {ρ : Type} (J : Judge ρ) (t : TaskParameters) (n : Snapshot)
    (accepted : List (Acceptance ρ)) (s : TaskState ρ) : Prop where
  parameters : s.parameters = t
  snapshot : s.snapshot = n
  once : (accepted.map (·.operator)).Nodup
  vouched : ∀ a ∈ accepted, a.Vouched J n
  signed : ∀ id d, s.signed.get? id = some d ↔ ∃ a ∈ accepted, a.operator = id ∧ a.digest = d
  missing : ∀ d, s.aggregates.get? d = none → signing accepted d = []
  described : ∀ d g, s.aggregates.get? d = some g → Describes J.curve n (signing accepted d) g

namespace Ledger

variable {ρ : Type} {J : Judge ρ} {t : TaskParameters} {n : Snapshot} {accepted : List (Acceptance ρ)}
  {s next : TaskState ρ} {x : Submission ρ} {report : Accepted}

theorem start : Ledger J t n [] (.start t n) where
  parameters := rfl
  snapshot := rfl
  once := List.nodup_nil
  vouched := by simp
  signed := by simp [TaskState.start]
  missing := fun _ _ => rfl
  described := by simp [TaskState.start]

/-- An operator that is about to sign has not signed before. -/
theorem fresh (ledger : Ledger J t n accepted s) {id : OperatorId} (unsigned : s.signed.get? id = none) :
    id ∉ accepted.map (·.operator) := by
  intro listed
  obtain ⟨a, member, rfl⟩ := List.mem_map.1 listed
  have found := (ledger.signed a.operator a.digest).2 ⟨a, member, rfl, rfl⟩
  rw [unsigned] at found
  cases found

/-- The aggregate that an accepted submission leaves describes the earlier signers of its digest and the
new one. -/
theorem describes_merged (ledger : Ledger J t n accepted s) (keyed : n.Keyed) {operator : OperatorState}
    {key : G2PublicKey} {aggregate : Aggregate}
    (admits : TaskState.Admits J s x report next operator key aggregate) :
    Describes J.curve n (signing accepted report.digest ++ [⟨x, report⟩]) aggregate := by
  have member := admits.member
  rw [ledger.snapshot] at member
  -- Without an aggregate the digest has no signers yet, and the list is the new one alone.
  rcases TaskState.merge_eq_ok_iff.1 admits.merged with ⟨none, rfl⟩ | ⟨old, some, added⟩
  · rw [ledger.missing _ none]
    exact describes_first (a := ⟨x, report⟩) keyed member admits.keyed
  · exact (ledger.described _ _ some).addSigner keyed member admits.keyed added

/-- Every accepted submission keeps the books. -/
theorem step (ledger : Ledger J t n accepted s) (keyed : n.Keyed)
    (decided : s.submit J x.operator x.response x.signature = .ok (report, next)) :
    Ledger J t n (accepted ++ [⟨x, report⟩]) next := by
  obtain ⟨operator, key, aggregate, admits⟩ := TaskState.submit_eq_ok_iff.1 decided
  have merged := ledger.describes_merged keyed admits
  have fresh := ledger.fresh admits.unsigned
  obtain ⟨hmember, hhashed, -, hkeyed, hverified, -, -, rfl⟩ := admits
  rw [ledger.snapshot] at hmember
  -- Only this operator and this digest have new entries; the others are as in the books so far.
  refine ⟨ledger.parameters, ledger.snapshot, ?_, ?_, fun id d => ?_, fun d => ?_, fun d g => ?_⟩
  · rw [List.map_append]
    exact List.nodup_append.2 ⟨ledger.once, by simp, by simpa using fresh⟩
  · intro a member
    rcases List.mem_append.1 member with earlier | last
    · exact ledger.vouched a earlier
    · rw [List.mem_singleton.1 last]
      exact ⟨operator, key, hmember, hkeyed, hhashed, hverified⟩
  · show (s.signed.insert x.operator report.digest).get? id = some d ↔ _
    rw [SortedMap.get?_insert]
    by_cases same : id = x.operator
    · subst same
      have none : ∀ a ∈ accepted, a.operator ≠ x.operator := by simpa using fresh
      simpa [or_and_right, exists_or] using fun a member same _ => absurd same (none a member)
    · rw [if_neg same, ledger.signed]
      simp [or_and_right, exists_or, Ne.symm same]
  · show (s.aggregates.insert report.digest aggregate).get? d = none → _
    rw [SortedMap.get?_insert]
    split
    next => simp
    next other => simpa [signing, List.filter_append, Ne.symm other] using ledger.missing d
  · show (s.aggregates.insert report.digest aggregate).get? d = some g → _
    rw [SortedMap.get?_insert]
    split
    next same =>
      rintro ⟨⟩
      simpa [same, signing, List.filter_append] using merged
    next other => simpa [signing, List.filter_append, Ne.symm other] using ledger.described d g

/-- Those who signed a digest, listed by id or in the order in which they came. -/
theorem keys_perm (ledger : Ledger J t n accepted s) {d : Digest} {g : Aggregate}
    (found : s.aggregates.get? d = some g) :
    g.signers.keys.Perm ((signing accepted d).map (·.operator)) := by
  have once : ((signing accepted d).map (·.operator)).Nodup :=
    ledger.once.sublist (List.filter_sublist.map _)
  -- Neither list has repetitions, so it is enough that they have the same elements.
  refine (List.perm_ext_iff_of_nodup g.signers.nodup_keys once).2 fun id => ?_
  rw [SortedMap.mem_keys_iff, (ledger.described d g found).signers, List.mem_map]

/-- A digest has an aggregate exactly if it was signed. -/
theorem contains_iff (ledger : Ledger J t n accepted s) (d : Digest) :
    s.aggregates.contains d = true ↔ ∃ a ∈ accepted, a.digest = d := by
  rw [SortedMap.contains_iff_exists]
  constructor
  · rintro ⟨g, found⟩
    -- A sum has a first element, so some signature was added.
    have sum := (ledger.described d g found).signature
    cases signed : signing accepted d with
    | nil =>
      rw [signed] at sum
      cases sum
    | cons a rest => exact ⟨a, mem_signing.1 (signed ▸ List.mem_cons_self)⟩
  · rintro ⟨a, member, same⟩
    rw [← Option.isSome_iff_exists, Option.isSome_iff_ne_none]
    intro none
    have listed := mem_signing.2 ⟨member, same⟩
    rw [ledger.missing d none] at listed
    cases listed

/-- The signers of a digest are the operators that were accepted with it. -/
theorem signers_iff (ledger : Ledger J t n accepted s) {d : Digest} {g : Aggregate}
    (found : s.aggregates.get? d = some g) (id : OperatorId) :
    g.signers.contains id = true ↔ ∃ a ∈ accepted, a.operator = id ∧ a.digest = d := by
  rw [(ledger.described d g found).signers]
  constructor
  · rintro ⟨a, listed, same⟩
    obtain ⟨member, digest⟩ := mem_signing.1 listed
    exact ⟨a, member, same, digest⟩
  · rintro ⟨a, member, same, digest⟩
    exact ⟨a, mem_signing.2 ⟨member, digest⟩, same⟩

/-- Nobody signs two digests. -/
theorem digest_unique (ledger : Ledger J t n accepted s) {d d' : Digest} {g g' : Aggregate}
    (found : s.aggregates.get? d = some g) (found' : s.aggregates.get? d' = some g') {id : OperatorId}
    (signer : g.signers.contains id = true) (signer' : g'.signers.contains id = true) : d = d' := by
  have one := (ledger.signed id d).2 ((ledger.signers_iff found id).1 signer)
  have two := (ledger.signed id d').2 ((ledger.signers_iff found' id).1 signer')
  exact Option.some.inj (one.symm.trans two)

end Ledger

/-- The books of a task balance after every run. -/
theorem TaskState.ledger_after {ρ : Type} (J : Judge ρ) (t : TaskParameters) {n : Snapshot}
    (keyed : n.Keyed) (xs : List (Submission ρ)) :
    Ledger J t n ((start t n).accepted J xs) ((start t n).after J xs) :=
  run_induction Ledger.start (fun _ _ _ _ _ ledger decided => ledger.step keyed decided) xs

/-- What the accepted submissions of a run imply about the state after it. -/
structure Accounts {ρ : Type} (J : Judge ρ) (t : TaskParameters) (n : Snapshot)
    (accepted : List (Acceptance ρ)) (s : TaskState ρ) : Prop where
  parameters : s.parameters = t
  snapshot : s.snapshot = n
  /-- No operator is accepted twice. -/
  once : (accepted.map (·.operator)).Nodup
  /-- Who is accepted belongs to the snapshot, has a key, and signed the digest under it. -/
  vouched : ∀ a ∈ accepted, a.Vouched J n
  signed : ∀ id d, s.signed.get? id = some d ↔ ∃ a ∈ accepted, a.operator = id ∧ a.digest = d
  recorded : ∀ d, s.aggregates.contains d = true ↔ ∃ a ∈ accepted, a.digest = d
  signers : ∀ d g, s.aggregates.get? d = some g →
    ∀ id, g.signers.contains id = true ↔ ∃ a ∈ accepted, a.operator = id ∧ a.digest = d
  nonempty : ∀ d g, s.aggregates.get? d = some g → ∃ id, g.signers.contains id = true
  /-- Nobody is among the signers of two digests. -/
  disjoint : ∀ d d' g g', s.aggregates.get? d = some g → s.aggregates.get? d' = some g' → d ≠ d' →
    ∀ id, ¬ (g.signers.contains id = true ∧ g'.signers.contains id = true)
  quorums : ∀ d g, s.aggregates.get? d = some g → ∀ q, g.stakes.contains q = true ↔
    ∃ id, g.signers.contains id = true ∧ (n.stakesOf id).contains q = true
  /-- A recorded stake is the exact sum over the signers, or the largest amount if that is smaller. -/
  amounts : ∀ d g, s.aggregates.get? d = some g → ∀ q amount, g.stakes.get? q = some amount →
    amount.val = min (n.total g.signers.keys q) ((1 <<< 256) - 1)
  /-- The points are the sums over the same signers, in the order in which they came. -/
  points : ∀ d g, s.aggregates.get? d = some g →
    SumOf (Bls.addSignature J.curve) ((signing accepted d).map (·.signature)) g.signature ∧
    SumOf (Bls.addPublicKey J.curve)
      ((signing accepted d).filterMap fun a => n.verificationKey? a.operator) g.key
  winner : s.winner = (latestMet accepted).map fun a => (a.digest, a.response)

/-- After every run of submissions, in any order and with any rejections in between, the state of a task
is what the accepted ones imply. -/
theorem TaskState.accounts_after {ρ : Type} (J : Judge ρ) (t : TaskParameters) (n : Snapshot)
    (keyed : n.Keyed) (xs : List (Submission ρ)) :
    Accounts J t n ((start t n).accepted J xs) ((start t n).after J xs) := by
  have ledger := ledger_after J t keyed xs
  refine
    { ledger with
      recorded := ledger.contains_iff
      signers := fun _ _ found => ledger.signers_iff found
      winner := (prevails_after J t n xs).winner
      nonempty := ?_, disjoint := ?_, quorums := ?_, amounts := ?_, points := ?_ }
  · intro d g found
    obtain ⟨a, member, same⟩ := (ledger.contains_iff d).1 (SortedMap.contains_iff_exists.2 ⟨g, found⟩)
    exact ⟨a.operator, (ledger.signers_iff found _).2 ⟨a, member, rfl, same⟩⟩
  · rintro d d' g g' found found' other id ⟨signer, signer'⟩
    exact other (ledger.digest_unique found found' signer signer')
  · intro d g found q
    have described := ledger.described d g found
    rw [described.quorums]
    constructor
    · rintro ⟨a, listed, present⟩
      exact ⟨a.operator, (described.signers _).2 ⟨a, listed, rfl⟩, present⟩
    · rintro ⟨id, signer, present⟩
      obtain ⟨a, listed, rfl⟩ := (described.signers id).1 signer
      exact ⟨a, listed, present⟩
  · intro d g found q amount recorded
    rw [← Stakes.amount_of_get? recorded, (ledger.described d g found).amounts, U256.val_clamp,
      n.total_perm (ledger.keys_perm found)]
  · intro d g found
    exact ⟨(ledger.described d g found).signature, (ledger.described d g found).key⟩

/-- Four submissions of which three are accepted, two of them over one digest. -/
theorem TaskState.accounts_after_sample_run :
    SampleTask.snapshot.Keyed ∧
    ((start (SampleTask.parameters 0) SampleTask.snapshot).accepted SampleTask.judge SampleTask.run).map
      (·.digest.toNat) = [7, 8, 7] ∧
    Accounts SampleTask.judge (SampleTask.parameters 0) SampleTask.snapshot
      ((start (SampleTask.parameters 0) SampleTask.snapshot).accepted SampleTask.judge SampleTask.run)
      ((start (SampleTask.parameters 0) SampleTask.snapshot).after SampleTask.judge SampleTask.run) :=
  ⟨by decide, by decide, accounts_after SampleTask.judge (SampleTask.parameters 0) SampleTask.snapshot
    (by decide) SampleTask.run⟩

end Attestation
