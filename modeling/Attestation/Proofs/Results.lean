/-
Module: Attestation.Proofs.Results
Purpose: What a result says. The operators that did not sign the winning digest are listed by ascending
  number, each with its key; the keys and stakes of the quorums are those that the registry told, for the
  quorums of the task and no others; and the reported stakes meet every threshold. The indices are the
  answer to the one query for exactly these operators.
Main exports: Snapshot.combines_ofStates, Snapshot.mem_nonSigners, TaskResult.Reports,
  TaskState.reports_of_result?, TaskState.passed_of_result?, Service.valid_of_starts, Service.results
-/
import Attestation.Proofs.Inquiries
import Attestation.Proofs.Subgroups

namespace Attestation

namespace Snapshot

variable {quorums : List QuorumNum} {operators : OperatorStates} {states : QuorumStates} {n : Snapshot}

/-- What a snapshot holds of the answers from which it is made. -/
structure Combines (quorums : List QuorumNum) (states : QuorumStates) (n : Snapshot) : Prop where
  /-- Every quorum was answered. -/
  known : ∀ q ∈ quorums, ∃ state, states.get? q = some state
  totals : ∀ q, n.totals.get? q = if q ∈ quorums then (states.get? q).map (·.totalStake) else none
  quorumKeys : n.quorumKeys.map some = quorums.map fun q => (states.get? q).map (·.aggregateKey)

theorem combines_ofStates (built : ofStates quorums operators states = .ok n) :
    Combines quorums states n := by
  obtain ⟨found, answered, same⟩ := bind_eq_ok_iff.1 built
  cases same
  have pairs : List.Forall₂ (fun q e => e.1 = q ∧ states.get? q = some e.2) quorums found := by
    apply (mapM_eq_ok_iff.1 answered).imp
    intro q e found
    split at found
    next state known =>
      cases found
      exact ⟨rfl, known⟩
    next => cases found
  clear answered built
  have each : (∀ q ∈ quorums, ∃ state, states.get? q = some state) ∧
      (found.map fun e => (e.1, e.2.totalStake)) =
        quorums.map (fun q => (q, ((states.get? q).map (·.totalStake)).getD 0)) ∧
      (found.map fun e => some e.2.aggregateKey) =
        quorums.map fun q => (states.get? q).map (·.aggregateKey) := by
    induction pairs with
    | nil => simp
    | cons first _ ih =>
      obtain ⟨rfl, known⟩ := first
      simpa [known, ih] using ih.1
  obtain ⟨known, totals, keys⟩ := each
  refine ⟨known, ?_, ?_⟩
  · intro q
    show (SortedMap.ofList (found.map fun e => (e.1, e.2.totalStake))).get? q = _
    rw [totals, SortedMap.get?_ofList_map]
    split
    next listed =>
      obtain ⟨state, same⟩ := known q listed
      simp [same]
    next => rfl
  · rw [List.map_map]
    exact keys

/-- The totals are those of the quorums and of no others. -/
theorem Combines.contains_totals (combines : n.Combines quorums states) (q : QuorumNum) :
    n.totals.contains q = true ↔ q ∈ quorums := by
  unfold SortedMap.contains
  rw [combines.totals]
  split
  next listed =>
    obtain ⟨state, known⟩ := combines.known q listed
    simp [known, listed]
  next unlisted => simp [unlisted]

theorem Combines.exists_total (combines : n.Combines quorums states) {q : QuorumNum} (listed : q ∈ quorums) :
    ∃ total, n.totals.get? q = some total :=
  SortedMap.contains_iff_exists.1 ((combines.contains_totals q).2 listed)

/-- The operators that did not sign come in the order of their ids. -/
theorem nonSigners_ascending (n : Snapshot) (signers : SortedMap OperatorId Unit) :
    (n.nonSigners signers).Pairwise fun a b => a.1.toU256.val < b.1.toU256.val := by
  unfold nonSigners
  rw [List.pairwise_map]
  refine (n.operators.ascending.filter _).imp ?_
  intro a b less
  exact OperatorId.compare_eq_lt_iff.1 less

/-- They are the operators of the snapshot that are not among the signers, each with its own key. -/
theorem mem_nonSigners {signers : SortedMap OperatorId Unit} {id : OperatorId} {key : G1PublicKey} :
    (id, key) ∈ n.nonSigners signers ↔
      signers.contains id = false ∧ (n.operators.get? id).map (·.pubkeys.g1) = some key := by
  unfold nonSigners
  simp only [List.mem_map, List.mem_filter, Bool.not_eq_true', Option.map_eq_some_iff,
    SortedMap.get?_eq_some_iff]
  constructor
  · rintro ⟨⟨_, operator⟩, ⟨member, unsigned⟩, same⟩
    cases same
    exact ⟨unsigned, operator, member, rfl⟩
  · rintro ⟨unsigned, operator, member, rfl⟩
    exact ⟨(id, operator), ⟨member, unsigned⟩, rfl⟩

theorem mem_ids_nonSigners {signers : SortedMap OperatorId Unit} {id : OperatorId} :
    id ∈ (n.nonSigners signers).map (·.1) ↔
      n.operators.contains id = true ∧ ¬ signers.contains id = true := by
  simp only [List.mem_map, Prod.exists, mem_nonSigners]
  constructor
  · rintro ⟨_, key, ⟨unsigned, known⟩, rfl⟩
    obtain ⟨operator, member, -⟩ := Option.map_eq_some_iff.1 known
    exact ⟨SortedMap.contains_iff_exists.2 ⟨operator, member⟩, by simp [unsigned]⟩
  · rintro ⟨member, unsigned⟩
    obtain ⟨operator, member⟩ := SortedMap.contains_iff_exists.1 member
    exact ⟨id, operator.pubkeys.g1, ⟨by simpa using unsigned, by rw [member, Option.map_some]⟩, rfl⟩

end Snapshot

/-- What a result reports of the task, of the registry's answers and of the submissions that were merged. -/
structure TaskResult.Reports {ρ : Type} (t : TaskParameters) (states : QuorumStates) (n : Snapshot)
    (merged : List (Acceptance ρ)) (result : TaskResult ρ) : Prop where
  winner : ∃ a, latestMet merged = some a ∧ result.digest = a.digest ∧ result.response = a.response
  ascending : result.nonSigners.Pairwise fun a b => a.toU256.val < b.toU256.val
  /-- Those are listed that have not signed the winning digest, whether they have signed another or none. -/
  listed : ∀ id, id ∈ result.nonSigners ↔ n.operators.contains id = true ∧
    ¬ ∃ a ∈ merged, a.operator = id ∧ a.digest = result.digest
  keys : result.nonSignerKeys.map some =
    result.nonSigners.map fun id => (n.operators.get? id).map (·.pubkeys.g1)
  quorumKeys : result.quorumKeys.map some = t.quorums.map fun q => (states.get? q).map (·.aggregateKey)
  signedQuorums : ∀ q, result.signedStakes.contains q = true ↔ q ∈ t.quorums
  totalQuorums : ∀ q, result.totalStakes.contains q = true ↔ q ∈ t.quorums
  reached : ∀ (i : Nat) (q : QuorumNum) (p : UInt8), t.quorums[i]? = some q → t.percentages[i]? = some p →
    ∃ signed total, result.signedStakes.get? q = some signed ∧ result.totalStakes.get? q = some total ∧
      total.val * p.toNat ≤ signed.val * 100

namespace TaskState

variable {ρ : Type} {J : Judge ρ} {t : TaskParameters} {n : Snapshot} {states : QuorumStates}
  {taken : List (Submission ρ)} {indices : SignatureCheckIndices} {result : TaskResult ρ}

/-- The reported stakes are those of the quorums of the task. -/
theorem get?_signedStakes (s : TaskState ρ) (g : Aggregate) (q : QuorumNum) :
    (s.signedStakes g).get? q = if q ∈ s.parameters.quorums then some (g.stakes.amount q) else none :=
  SortedMap.get?_ofList_map _ g.stakes.amount q

theorem contains_signedStakes (s : TaskState ρ) (g : Aggregate) (q : QuorumNum) :
    (s.signedStakes g).contains q = true ↔ q ∈ s.parameters.quorums := by
  unfold SortedMap.contains
  rw [get?_signedStakes]
  split <;> simp_all

/-- Every result of a valid task reports what has happened. -/
theorem reports_of_result? (valid : t.validate = .ok ()) (keyed : n.Keyed)
    (combines : n.Combines t.quorums states)
    (built : ((start t n).after J taken).result? indices = some result) :
    result.Reports t states n ((start t n).accepted J taken) := by
  have ledger := ledger_after J t keyed taken
  have prevails := prevails_after J t n taken
  unfold result? at built
  obtain ⟨⟨d, r⟩, won, built⟩ := Option.bind_eq_some_iff.1 built
  obtain ⟨g, found, built⟩ := Option.bind_eq_some_iff.1 built
  cases built
  obtain ⟨-, g', found', enough⟩ := winner_stands won
  cases found.symm.trans found'
  rw [prevails.snapshot]
  constructor
  · rw [prevails.winner] at won
    obtain ⟨a, latest, same⟩ := Option.map_eq_some_iff.1 won
    cases same
    exact ⟨a, latest, rfl, rfl⟩
  · rw [List.pairwise_map]
    exact n.nonSigners_ascending g.signers
  · intro id
    rw [← ledger.signers_iff found]
    exact Snapshot.mem_ids_nonSigners
  · rw [List.map_map, List.map_map]
    apply List.map_congr_left
    rintro ⟨id, key⟩ listed
    exact (Snapshot.mem_nonSigners.1 listed).2.symm
  · exact combines.quorumKeys
  · intro q
    have signed := contains_signedStakes ((start t n).after J taken) g q
    rw [ledger.parameters] at signed
    exact signed
  · exact combines.contains_totals
  · intro i q p listed required
    have member := List.mem_of_getElem? listed
    obtain ⟨total, known⟩ := combines.exists_total member
    have threshold := TaskParameters.get?_thresholds valid listed required
    obtain ⟨-, -, reached⟩ := meetsThresholds_iff.1 enough q p threshold
    rw [Stakes.amount_of_get? known] at reached
    have signed := get?_signedStakes ((start t n).after J taken) g q
    rw [ledger.parameters, if_pos member] at signed
    exact ⟨_, total, signed, known, reached⟩

/-- A result passes on the totals and keys of the snapshot, and reports as signed the stakes of those that
were merged with its digest, summed up and cut off. -/
theorem passed_of_result? (keyed : n.Keyed)
    (built : ((start t n).after J taken).result? indices = some result) :
    result.totalStakes = n.totals ∧ result.quorumKeys = n.quorumKeys ∧ ∀ q ∈ t.quorums,
      result.signedStakes.get? q =
        some (.clamp (n.total ((signing ((start t n).accepted J taken) result.digest).map (·.operator)) q)) := by
  have ledger := ledger_after J t keyed taken
  unfold result? at built
  obtain ⟨⟨d, r⟩, -, built⟩ := Option.bind_eq_some_iff.1 built
  obtain ⟨g, found, built⟩ := Option.bind_eq_some_iff.1 built
  cases built
  refine ⟨congrArg Snapshot.totals ledger.snapshot, congrArg Snapshot.quorumKeys ledger.snapshot, ?_⟩
  intro q listed
  rw [get?_signedStakes, ledger.parameters, if_pos listed, (ledger.described d g found).amounts]

end TaskState

/-- A list of endings that shows something of one result holds that result. -/
theorem exists_of_shown {ρ α : Type} {ended : List (WorkerId × Option (TaskResponse ρ))}
    {f : TaskResult ρ → α} {id : WorkerId} {x : α}
    (shown : ended.map (fun e => (e.1, e.2.bind fun r => r.toOption.map f)) = [(id, some x)]) :
    ∃ result, (id, some (.ok result)) ∈ ended ∧ f result = x := by
  obtain ⟨⟨id', ending⟩, rfl, same⟩ := List.map_eq_singleton_iff.1 shown
  obtain ⟨rfl, responded⟩ := Prod.mk.inj same
  obtain ⟨response, rfl, resulted⟩ := Option.bind_eq_some_iff.1 responded
  obtain ⟨result, answered, seen⟩ := Option.map_eq_some_iff.1 resulted
  cases response with
  | error e => cases answered
  | ok result =>
    cases answered
    exact ⟨result, List.mem_singleton_self _, seen⟩

namespace Service

variable {ρ σ : Type}

/-- Only valid tasks are started. -/
theorem valid_of_starts {E : Setting ρ σ} {s : Service ρ σ} {actions : List (Action ρ σ)} {id : WorkerId}
    {t : TaskParameters} (began : (id, t) ∈ s.along E starts actions) : t.validate = .ok () := by
  obtain ⟨before, a, rest, -, observed⟩ := mem_along.1 began
  cases a with
  | startTask runtime t' =>
    simp only [starts] at observed
    split at observed
    next next' done =>
      cases List.mem_singleton.1 observed
      unfold startTask at done
      split at done
      next => cases done
      next valid => exact valid
    next => cases observed
  | _ => cases observed

/-- A result that a service gives reports what its task was told and what was merged for it, and the
registry was asked for its indices once. -/
theorem results (E : Setting ρ σ) {config : Config} {registry : σ} {s : Service ρ σ}
    (created : create config registry = .ok s) (actions : List (Action ρ σ)) (id : WorkerId)
    (result : TaskResult ρ) (ended : (id, some (.ok result)) ∈ s.along E (endings E) actions) :
    ∃ t states n first second third, (id, t) ∈ s.along E starts actions ∧
      E.Fetches t first second states n ∧
      valuesAt id (s.along E (inquiries E) actions) =
        [.operators first t.quorums t.block, .quorums second t.quorums t.block,
          .indices third t.block t.quorums result.nonSigners] ∧
      (E.provider.indices third t.block t.quorums result.nonSigners).answer = .ok result.indices ∧
      (n.Keyed → result.Reports t states n (valuesAt id (s.along E (merges E) actions))) := by
  obtain ⟨t, states, n, began, resolves⟩ := (inquires_after E created actions).resolved id result ended
  obtain ⟨first, second, third, fetches, answered, asked⟩ := resolves.inquiries
  refine ⟨t, states, n, first, second, third, began, fetches, asked, answered, fun keyed => ?_⟩
  rw [resolves.merged]
  exact TaskState.reports_of_result? (valid_of_starts began) keyed
    (Snapshot.combines_ofStates fetches.snapshot) resolves.built

/-- Two operators sign seven and meet the threshold; the second signs eight, and is reported among those
that did not sign seven. -/
theorem results_sample_run :
    let E := SampleTask.setting
    let submit (id response : Nat) : Action Nat Nat :=
      .submit 1 (SampleTask.operatorId id) response ⟨.ofNat 48 id⟩ false
    let actions := [.startTask true (SampleTask.parameters 0), .work 0, .work 0, .work 0, submit 1 7,
      submit 2 8, submit 3 7, .poll 0, .poll 0, .poll 1, .poll 1, .poll 2, .poll 2, .work 0, .work 0, .work 0,
      .work 0]
    ∃ (s : Service Nat Nat) (result : TaskResult Nat) (states : QuorumStates) (n : Snapshot),
      create .default 0 = .ok s ∧ (0, some (.ok result)) ∈ s.along E (endings E) actions ∧ n.Keyed ∧
      result.nonSigners = [SampleTask.operatorId 2] ∧
      result.Reports (SampleTask.parameters 0) states n (valuesAt 0 (s.along E (merges E) actions)) := by
  intro E submit actions
  obtain ⟨s, created, began, given⟩ : ∃ s : Service Nat Nat, create .default 0 = .ok s ∧
      s.along E starts actions = [(0, SampleTask.parameters 0)] ∧
      (s.along E (endings E) actions).map (fun e => (e.1, e.2.bind fun r => r.toOption.map (·.nonSigners))) =
        [(0, some [SampleTask.operatorId 2])] :=
    ⟨_, rfl, by decide +kernel, by decide +kernel⟩
  obtain ⟨result, ended, listed⟩ := exists_of_shown given
  obtain ⟨t, states, n, first, second, third, start, fetches, -, -, reports⟩ :=
    results E created actions 0 result ended
  rw [began] at start
  cases List.mem_singleton.1 start
  have operators : n.operators = SampleTask.snapshot.operators :=
    (Except.ok.inj fetches.operators).symm
  have keyed : n.Keyed := by
    have own : SampleTask.snapshot.Keyed := by decide
    unfold Snapshot.Keyed
    rw [operators]
    exact own
  exact ⟨s, result, states, n, created, ended, keyed, listed, reports keyed⟩

end Service

end Attestation
