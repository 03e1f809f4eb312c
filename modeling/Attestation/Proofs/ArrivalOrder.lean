/-
Module: Attestation.Proofs.ArrivalOrder
Purpose: The order in which signatures arrive does not count. Where every operator submits once, a
  submission is answered as it would be on its own, so the same submissions are accepted in any order;
  and what the books hold of a list of accepted submissions is the same for every order of the list.
  Which digest wins may depend on the order, but not where only one can.
Main exports: TaskState.verdicts, TaskState.Certifies, TaskState.verdicts_eq_map, Ledger.signed_eq,
  Ledger.aggregates_eq, TaskState.winner_of_certifies, TaskState.arrival_order
-/
import Attestation.Proofs.Independence
import Attestation.Proofs.PointSums

namespace Attestation

/-- Stakes in the same quorums with the same amounts are the same. -/
theorem Stakes.eq_of_amounts {a b : Stakes} (quorums : ∀ q, a.contains q = b.contains q)
    (amounts : ∀ q, a.amount q = b.amount q) : a = b := by
  apply SortedMap.ext_get?
  intro q
  have present := quorums q
  have amount := amounts q
  unfold SortedMap.contains at present
  unfold Stakes.amount at amount
  cases one : a.get? q <;> cases two : b.get? q <;> simp_all

/-- An accepted submission without what was reported of the thresholds. -/
def Acceptance.vote {ρ : Type} (a : Acceptance ρ) : Submission ρ × Digest := (a.toSubmission, a.digest)

namespace TaskState

variable {ρ : Type} (J : Judge ρ)

/-- The submissions of a run, each with its answer. -/
def verdicts (s : TaskState ρ) :
    List (Submission ρ) → List (Submission ρ × Except (Failure SignatureError) Digest)
  | [] => []
  | x :: rest => (x, s.verdict J x) :: (s.step J x).verdicts rest

/-- The digest has an aggregate that meets the thresholds. -/
def Certifies (s : TaskState ρ) (d : Digest) : Prop :=
  ∃ g, s.aggregates.get? d = some g ∧
    meetsThresholds g.stakes s.snapshot.totals s.parameters.thresholds = true

variable {J} {t : TaskParameters} {n : Snapshot}

/-- The accepted submissions are those with a positive answer. -/
theorem votes_accepted (xs : List (Submission ρ)) : ∀ s : TaskState ρ,
    (s.accepted J xs).map Acceptance.vote =
      (s.verdicts J xs).filterMap fun e => e.2.toOption.map (e.1, ·) := by
  induction xs with
  | nil => exact fun _ => rfl
  | cons x rest ih =>
    intro s
    have first : (s.acceptance? J x).toList.map Acceptance.vote =
        ((s.verdict J x).toOption.map (x, ·)).toList := by
      unfold acceptance? verdict
      cases s.submit J x.operator x.response x.signature <;> rfl
    rw [accepted, List.map_append, first, ih, verdicts, List.filterMap_cons]
    dsimp only
    cases (s.verdict J x).toOption <;> rfl

/-- Nothing is recorded of an operator that has not submitted. -/
theorem get?_signed_of_absent {xs : List (Submission ρ)} {o : OperatorId}
    (absent : o ∉ xs.map (·.operator)) : ((start t n).after J xs).signed.get? o = none := by
  induction xs using List.reverseRecOn with
  | nil => rfl
  | append_singleton xs x ih =>
    rw [List.map_append, List.mem_append, not_or] at absent
    have other : o ≠ x.operator := by simpa using absent.2
    rw [after_append]
    show (((start t n).after J xs).step J x).signed.get? o = none
    rw [get?_signed_step]
    cases ((start t n).after J xs).verdict J x with
    | ok d => exact (if_neg other).trans (ih absent.1)
    | error e => exact ih absent.1

/-- Where nobody submits twice, every submission is answered as if it came first. -/
theorem verdicts_eq_map (merges : ∀ vs, ((start t n).after J vs).Merges J) {xs : List (Submission ρ)}
    (distinct : (xs.map (·.operator)).Nodup) :
    (start t n).verdicts J xs = xs.map fun x => (x, (start t n).verdict J x) := by
  suffices later : ∀ (zs vs : List (Submission ρ)), ((vs ++ zs).map (·.operator)).Nodup →
      ((start t n).after J vs).verdicts J zs = zs.map fun x => (x, (start t n).verdict J x) from
    later xs [] distinct
  intro zs
  induction zs with
  | nil => exact fun _ _ => rfl
  | cons z rest ih =>
    intro vs distinct
    have absent : z.operator ∉ vs.map (·.operator) := by
      rw [List.map_append, List.map_cons] at distinct
      intro earlier
      exact (List.nodup_append.1 distinct).2.2 _ earlier _ List.mem_cons_self rfl
    have verdict : ((start t n).after J vs).verdict J z = (start t n).verdict J z := by
      apply verdict_congr (prevails_after J t n vs).snapshot ?_ (merges vs) (merges [])
      exact get?_signed_of_absent absent
    have forward : ((start t n).after J vs).step J z = (start t n).after J (vs ++ [z]) :=
      (after_append _ vs [z]).symm
    rw [verdicts, verdict, forward, ih (vs ++ [z]) (by simpa using distinct)]
    rfl

end TaskState

section Votes

variable {ρ : Type} {accepted accepted' : List (Acceptance ρ)}

/-- The submissions that were accepted with a digest, in the order of the votes. -/
theorem signing_submissions (d : Digest) : (signing accepted d).map (·.toSubmission) =
    ((accepted.map Acceptance.vote).filter (·.2 = d)).map (·.1) := by
  unfold signing
  rw [List.filter_map, List.map_map]
  rfl

theorem signing_perm (same : (accepted.map Acceptance.vote).Perm (accepted'.map Acceptance.vote))
    (d : Digest) :
    ((signing accepted d).map (·.toSubmission)).Perm ((signing accepted' d).map (·.toSubmission)) := by
  rw [signing_submissions, signing_submissions]
  exact (same.filter _).map _

variable {C : PairingCurve} {hash : Hasher ρ} {t : TaskParameters} {n : Snapshot} {s s' : TaskState ρ}

/-- The same votes in another order leave the same record of who signed what. -/
theorem Ledger.signed_eq {J : Judge ρ} (ledger : Ledger J t n accepted s)
    (ledger' : Ledger J t n accepted' s')
    (same : (accepted.map Acceptance.vote).Perm (accepted'.map Acceptance.vote)) :
    s.signed = s'.signed := by
  have recorded : ∀ {id d} {votes : List (Acceptance ρ)}, (∃ a ∈ votes, a.operator = id ∧ a.digest = d) ↔
      ∃ v ∈ votes.map Acceptance.vote, v.1.operator = id ∧ v.2 = d := by
    simp [Acceptance.vote]
  apply SortedMap.ext_get?
  intro id
  apply Option.ext
  intro d
  rw [ledger.signed, ledger'.signed, recorded, recorded]
  simp only [same.mem_iff]

section Describing

variable {signing signing' : List (Acceptance ρ)} {g g' : Aggregate}

theorem Describes.signers_eq (described : Describes C n signing g) (described' : Describes C n signing' g')
    (operators : (signing.map (·.operator)).Perm (signing'.map (·.operator))) : g.signers = g'.signers := by
  apply SortedMap.ext_get?
  intro id
  have present : g.signers.contains id = g'.signers.contains id := by
    rw [Bool.eq_iff_iff, described.signers, described'.signers, ← List.mem_map, ← List.mem_map]
    exact operators.mem_iff
  unfold SortedMap.contains at present
  cases one : g.signers.get? id <;> cases two : g'.signers.get? id <;> simp_all

theorem Describes.stakes_eq (described : Describes C n signing g) (described' : Describes C n signing' g')
    (operators : (signing.map (·.operator)).Perm (signing'.map (·.operator))) : g.stakes = g'.stakes := by
  apply Stakes.eq_of_amounts
  · intro q
    have present : ∀ {votes : List (Acceptance ρ)},
        (∃ a ∈ votes, (n.stakesOf a.operator).contains q = true) ↔
          ∃ id ∈ votes.map (·.operator), (n.stakesOf id).contains q = true := by
      simp
    rw [Bool.eq_iff_iff, described.quorums, described'.quorums, present, present]
    simp only [operators.mem_iff]
  · intro q
    rw [described.amounts, described'.amounts, n.total_perm operators]

/-- Aggregates that describe the same submissions are equal if these were verified. -/
theorem Describes.unique (signatures : C.G1.Abelian) (keys : C.G2.Abelian)
    (vouched : ∀ a ∈ signing, a.Vouched (.pairing C hash) n)
    (same : (signing.map (·.toSubmission)).Perm (signing'.map (·.toSubmission)))
    (described : Describes C n signing g) (described' : Describes C n signing' g') : g = g' := by
  have operators : (signing.map (·.operator)).Perm (signing'.map (·.operator)) := by
    simpa only [List.map_map, Function.comp_def] using same.map (·.operator)
  have signed : (signing.map (·.signature)).Perm (signing'.map (·.signature)) := by
    simpa only [List.map_map, Function.comp_def] using same.map (·.signature)
  have verified : (signing.filterMap fun a => n.verificationKey? a.operator).Perm
      (signing'.filterMap fun a => n.verificationKey? a.operator) := by
    simpa only [List.filterMap_map, Function.comp_def] using operators.filterMap n.verificationKey?
  have signers := described.signers_eq described' operators
  have stakes := described.stakes_eq described' operators
  have signature : g.signature.bytes = g'.signature.bytes := by
    apply described.signature.bytes_eq_of_perm signatures Bls.bytes_addSignature ?_ signed
      described'.signature
    intro x listed
    obtain ⟨a, member, rfl⟩ := List.mem_map.1 listed
    obtain ⟨points, contributes⟩ := (vouched a member).contributes
    exact ⟨_, contributes.signature⟩
  have key : g.key.bytes = g'.key.bytes := by
    apply described.key.bytes_eq_of_perm keys Bls.bytes_addPublicKey ?_ verified described'.key
    intro k listed
    obtain ⟨a, member, found⟩ := List.mem_filterMap.1 listed
    obtain ⟨points, contributes⟩ := (vouched a member).contributes
    obtain ⟨k', found', encodes⟩ := contributes.key
    cases found.symm.trans found'
    exact ⟨_, encodes⟩
  obtain ⟨⟨_⟩, ⟨_⟩, _, _⟩ := g
  obtain ⟨⟨_⟩, ⟨_⟩, _, _⟩ := g'
  simp_all

end Describing

/-- The same votes in another order leave the same aggregates. -/
theorem Ledger.aggregates_eq (signatures : C.G1.Abelian) (keys : C.G2.Abelian)
    (ledger : Ledger (.pairing C hash) t n accepted s)
    (ledger' : Ledger (.pairing C hash) t n accepted' s')
    (same : (accepted.map Acceptance.vote).Perm (accepted'.map Acceptance.vote)) :
    s.aggregates = s'.aggregates := by
  have recorded : ∀ {d} {votes : List (Acceptance ρ)}, (∃ a ∈ votes, a.digest = d) ↔
      ∃ v ∈ votes.map Acceptance.vote, v.2 = d := by
    simp [Acceptance.vote]
  apply SortedMap.ext_get?
  intro d
  have present : s.aggregates.contains d = s'.aggregates.contains d := by
    rw [Bool.eq_iff_iff, ledger.contains_iff, ledger'.contains_iff, recorded, recorded]
    simp only [same.mem_iff]
  unfold SortedMap.contains at present
  cases one : s.aggregates.get? d with
  | none =>
    rw [one, Option.isSome_none, eq_comm, Option.isSome_eq_false_iff, Option.isNone_iff_eq_none] at present
    exact present.symm
  | some g =>
    rw [one, Option.isSome_some, eq_comm, Option.isSome_iff_exists] at present
    obtain ⟨g', two⟩ := present
    have vouched : ∀ a ∈ signing accepted d, a.Vouched (.pairing C hash) n := fun a listed =>
      ledger.vouched a (mem_signing.1 listed).1
    rw [two, Describes.unique signatures keys vouched (signing_perm same d) (ledger.described d g one)
      (ledger'.described d g' two)]

end Votes

namespace TaskState

section Winning

variable {ρ : Type} {J : Judge ρ} {t : TaskParameters} {n : Snapshot} {xs : List (Submission ρ)} {d : Digest}

/-- An aggregate is as its latest signer has left it, so it was then reported whether it meets the
thresholds. -/
theorem exists_of_certifies (certified : ((start t n).after J xs).Certifies d) :
    ∃ a ∈ (start t n).accepted J xs, a.digest = d ∧ a.thresholdsMet = true := by
  suffices reported : ∀ d, ((start t n).after J xs).Certifies d →
      ∃ a ∈ (start t n).accepted J xs, a.digest = d ∧ a.thresholdsMet = true from reported d certified
  refine run_induction (P := fun past s => ∀ d, s.Certifies d →
    ∃ a ∈ past, a.digest = d ∧ a.thresholdsMet = true) ?_ ?_ xs
  · rintro d ⟨g, found, -⟩
    cases found
  · intro past s x report next ih decided d ⟨g, found, enough⟩
    obtain ⟨operator, key, aggregate, admits⟩ := submit_eq_ok_iff.1 decided
    have met := admits.met
    rw [admits.result] at found enough
    rw [SortedMap.get?_insert] at found
    split at found
    next same =>
      cases found
      exact ⟨⟨x, report⟩, by simp, same.symm, met.trans enough⟩
    next =>
      obtain ⟨a, member, reported⟩ := ih d ⟨g, found, enough⟩
      exact ⟨a, List.mem_append_left _ member, reported⟩

/-- Where only one digest meets the thresholds at the end, it is the winner. -/
theorem winner_of_certifies (only : ∀ d', ((start t n).after J xs).Certifies d' ↔ d' = d) :
    ((start t n).after J xs).winner.map (·.1) = some d := by
  have prevails := prevails_after J t n xs
  obtain ⟨a, member, -, met⟩ := exists_of_certifies ((only d).2 rfl)
  have some := isSome_latestMet.2 ⟨a, member, met⟩
  obtain ⟨b, latest⟩ := Option.isSome_iff_exists.1 some
  obtain ⟨listed, crossed⟩ := mem_of_latestMet latest
  obtain ⟨g, found, enough⟩ := prevails.standing b listed crossed
  have certified : ((start t n).after J xs).Certifies b.digest := by
    refine ⟨g, found, ?_⟩
    rw [prevails.snapshot, prevails.parameters]
    exact enough
  rw [prevails.winner, latest]
  exact congrArg Option.some ((only _).1 certified)

end Winning

/-- With verification by the pairing, and operators that submit once each, the order of the submissions
changes neither how they are answered nor what the task has recorded in the end; and if one digest only
meets the thresholds then, it wins in every order. -/
theorem arrival_order {ρ : Type} (C : PairingCurve) (signatures : C.G1.Abelian) (keys : C.G2.Abelian)
    (hash : Hasher ρ) (t : TaskParameters) (n : Snapshot) (keyed : n.Keyed) (xs ys : List (Submission ρ))
    (distinct : (xs.map (·.operator)).Nodup) (same : xs.Perm ys) :
    let J := Judge.pairing C hash
    let first := (start t n).after J xs
    let second := (start t n).after J ys
    ((start t n).verdicts J xs).Perm ((start t n).verdicts J ys) ∧
    first.aggregates = second.aggregates ∧ first.signed = second.signed ∧
    ∀ d, (∀ d', first.Certifies d' ↔ d' = d) →
      first.winner.map (·.1) = some d ∧ second.winner.map (·.1) = some d := by
  intro J first second
  have merges := merges_pairing hash t signatures.toClosed keys.toClosed keyed
  have verdicts : ((start t n).verdicts J xs).Perm ((start t n).verdicts J ys) := by
    rw [verdicts_eq_map merges distinct,
      verdicts_eq_map merges ((same.map _).nodup_iff.1 distinct)]
    exact same.map _
  have votes : (((start t n).accepted J xs).map Acceptance.vote).Perm
      (((start t n).accepted J ys).map Acceptance.vote) := by
    rw [votes_accepted, votes_accepted]
    exact verdicts.filterMap _
  have ledger := ledger_after J t keyed xs
  have ledger' := ledger_after J t keyed ys
  have aggregates := ledger.aggregates_eq signatures keys ledger' votes
  refine ⟨verdicts, aggregates, ledger.signed_eq ledger' votes, ?_⟩
  intro d only
  refine ⟨winner_of_certifies only, winner_of_certifies fun d' => ?_⟩
  rw [← only d']
  unfold Certifies
  rw [aggregates, ledger.snapshot, ledger'.snapshot, ledger.parameters, ledger'.parameters]

/-- The first and the third operator sign seven, the second eight, and a stranger is turned away, in two
orders. -/
theorem arrival_order_sample_runs :
    let J := Judge.pairing SampleCurve.curve SampleCurve.hasher
    let xs := [SampleCurve.submission 1 1 7, SampleCurve.submission 2 4 8, SampleCurve.submission 3 2 7,
      SampleCurve.submission 4 1 7]
    let after := (start SampleCurve.parameters SampleCurve.snapshot : TaskState Nat).after J
    SampleCurve.snapshot.Keyed ∧ (xs.map (·.operator)).Nodup ∧ xs.Perm xs.reverse ∧
    (after xs).aggregates = (after xs.reverse).aggregates ∧
    (after xs).winner.map (·.1) = some (.ofNat 32 7) ∧
    (after xs.reverse).winner.map (·.1) = some (.ofNat 32 7) := by
  intro J xs after
  have keyed : SampleCurve.snapshot.Keyed := by decide
  have distinct : (xs.map (·.operator)).Nodup := by decide
  have same : xs.Perm xs.reverse := xs.reverse_perm.symm
  obtain ⟨-, aggregates, -, winner⟩ := arrival_order SampleCurve.curve SampleCurve.abelian_signatures
    SampleCurve.abelian_keys SampleCurve.hasher SampleCurve.parameters SampleCurve.snapshot keyed xs
    xs.reverse distinct same
  have only : ∀ d, (after xs).Certifies d ↔ d = .ofNat 32 7 := by
    have each : ∀ e ∈ (after xs).aggregates.toList, meetsThresholds e.2.stakes
        (after xs).snapshot.totals (after xs).parameters.thresholds = true ↔ e.1 = .ofNat 32 7 := by
      decide +kernel
    have recorded : (after xs).aggregates.contains (.ofNat 32 7) = true := by decide +kernel
    intro d
    constructor
    · rintro ⟨g, found, enough⟩
      exact (each _ (SortedMap.get?_eq_some_iff.1 found)).1 enough
    · rintro rfl
      obtain ⟨g, found⟩ := SortedMap.contains_iff_exists.1 recorded
      exact ⟨g, found, (each _ (SortedMap.get?_eq_some_iff.1 found)).2 rfl⟩
  exact ⟨keyed, distinct, same, aggregates, winner _ only⟩

end TaskState

end Attestation
