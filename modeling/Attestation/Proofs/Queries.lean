/-
Module: Attestation.Proofs.Queries
Purpose: What the two queries of a registry tell of one block. The one goes through the operators and keeps
  of each the stakes in the listed quorums; the other goes through the quorums and sums up the stakes and the
  keys of each. Both find the same holders of stake: a quorum is unknown when the first query tells of
  nobody that holds stake in it, and otherwise its state sums up those of whom it tells. Hence the two
  answers fit together to a snapshot, however often a quorum is listed and whatever stakes are zero.
Main exports: OperatorStates.holders, Registration.ShownAs, Membership.get?_operatorsAt_iff,
  Membership.membersOf_eq_holders, QuorumState.Sums, Membership.sums_of_quorumAt,
  Membership.get?_quorumsAt, QuorumStates.Accord, Membership.accord_of_quorumsAt, Registry.queries_agree
-/
import Attestation.Proofs.Registrations

namespace Attestation

theorem SortedMap.isEmpty_eq_false_iff {κ ν : Type} [Ord κ] [Std.LawfulEqOrd κ] {m : SortedMap κ ν} :
    m.isEmpty = false ↔ ∃ k, m.contains k = true := by
  constructor
  · intro listed
    obtain ⟨e, member⟩ := List.exists_mem_of_ne_nil m.toList (by simpa [isEmpty] using listed)
    exact ⟨e.1, contains_iff_exists.2 ⟨e.2, get?_eq_some_iff.2 member⟩⟩
  · rintro ⟨k, present⟩
    cases empty : m.isEmpty with
    | false => rfl
    | true => simp [contains, get?_of_isEmpty empty] at present

/-- The operators of an answer that hold stake in a quorum, by ascending id. -/
def OperatorStates.holders (operators : OperatorStates) (q : QuorumNum) : List OperatorState :=
  operators.values.filter fun o => o.stakes.contains q

namespace Registration

variable {e : Registration} {quorums : List QuorumNum} {block : BlockNumber} {id : OperatorId}
  {q : QuorumNum}

/-! ### What is told of operators -/

/-- How a registration is shown to one who asks for some quorums at a block. -/
def shown (e : Registration) (quorums : List QuorumNum) (block : BlockNumber) (id : OperatorId) :
    OperatorState :=
  ⟨id, e.pubkeys, e.stakes.filter fun q _ => q ∈ quorums, block⟩

/-- What is told of a registration: the keys, and the stakes in the listed quorums and in no others. -/
structure ShownAs (e : Registration) (quorums : List QuorumNum) (block : BlockNumber) (id : OperatorId)
    (o : OperatorState) : Prop where
  stakes : ∀ q, o.stakes.get? q = if q ∈ quorums then e.stakes.get? q else none
  pubkeys : o.pubkeys = e.pubkeys
  block : o.block = block
  id : o.id = id

/-- The stakes in the listed quorums are shown and no others. -/
theorem get?_shown : (e.shown quorums block id).stakes.get? q =
    if q ∈ quorums then e.stakes.get? q else none := by
  simp only [shown, SortedMap.get?_filter]
  cases e.stakes.get? q <;> by_cases listed : q ∈ quorums <;> simp [Option.filter, listed]

theorem shownAs_iff {o : OperatorState} : e.ShownAs quorums block id o ↔ o = e.shown quorums block id := by
  constructor
  · rintro ⟨stakes, pubkeys, rfl, rfl⟩
    have same : o.stakes = (e.shown quorums o.block o.id).stakes :=
      SortedMap.ext_get? fun q => by rw [stakes, get?_shown]
    calc o = ⟨o.id, o.pubkeys, o.stakes, o.block⟩ := rfl
      _ = e.shown quorums o.block o.id := by rw [pubkeys, same]; rfl
  · rintro rfl
    exact ⟨fun _ => get?_shown, rfl, rfl, rfl⟩

/-- Something is shown of an operator with stake in a listed quorum. -/
theorem shown_nonempty_iff : (e.shown quorums block id).stakes.isEmpty = false ↔
    ∃ q ∈ quorums, e.stakes.contains q = true := by
  rw [SortedMap.isEmpty_eq_false_iff]
  refine exists_congr fun q => ?_
  unfold SortedMap.contains
  rw [get?_shown]
  by_cases listed : q ∈ quorums <;> simp [listed]

end Registration

namespace Membership

variable {m : Membership} {quorums : List QuorumNum} {block : BlockNumber} {q : QuorumNum}

theorem values_operatorsAt : (m.operatorsAt quorums block).values =
    ((m.activeAt block).toList.map fun e => e.2.shown quorums block e.1).filter
      fun o => !o.stakes.isEmpty := by
  simp [operatorsAt, SortedMap.values, SortedMap.filter, SortedMap.mapValues, Registration.shown,
    List.filter_map, Function.comp_def]

/-- Who holds stake in a listed quorum is found among all that are active. -/
theorem holders_operatorsAt : (m.operatorsAt quorums block).holders q =
    ((m.activeAt block).toList.map fun e => e.2.shown quorums block e.1).filter
      fun o => o.stakes.contains q := by
  rw [OperatorStates.holders, values_operatorsAt, List.filter_filter]
  apply List.filter_congr
  intro o _
  cases present : o.stakes.contains q with
  | false => rfl
  | true => simp [SortedMap.isEmpty_eq_false_iff.2 ⟨q, present⟩]

/-- Both scans find the same holders of stake in a listed quorum, in the same order. -/
theorem membersOf_eq_holders (listed : q ∈ quorums) : m.membersOf q block =
    ((m.operatorsAt quorums block).holders q).map fun o => (o.pubkeys.g1, o.stakes.amount q) := by
  rw [holders_operatorsAt, membersOf_eq_filterMap, SortedMap.values, List.filterMap_map]
  induction (m.activeAt block).toList with
  | nil => rfl
  | cons e rest ih =>
    have own : (e.2.shown quorums block e.1).stakes.get? q = e.2.stakes.get? q := by
      rw [Registration.get?_shown, if_pos listed]
    cases stake : e.2.stakes.get? q with
    | none => simp_all [SortedMap.contains]
    | some v =>
      have keys : (e.2.shown quorums block e.1).pubkeys = e.2.pubkeys := rfl
      simp_all [SortedMap.contains, Stakes.amount]

/-- The operators that are told are those that are active and hold stake in a listed quorum, each under its
own id. -/
theorem get?_operatorsAt_iff {id : OperatorId} {o : OperatorState} :
    (m.operatorsAt quorums block).get? id = some o ↔
      ∃ e, m.get? id = some e ∧ e.activeAt block = true ∧ (∃ q ∈ quorums, e.stakes.contains q = true) ∧
        e.ShownAs quorums block id o := by
  have shows : m.operatorsAt quorums block = ((m.activeAt block).mapValues fun id e =>
      e.shown quorums block id).filter fun _ o => !o.stakes.isEmpty := rfl
  rw [shows, SortedMap.get?_filter, SortedMap.get?_mapValues, get?_activeAt]
  simp only [Option.filter_eq_some_iff, Option.map_eq_some_iff, Bool.not_eq_true', Registration.shownAs_iff]
  constructor
  · rintro ⟨⟨e, ⟨found, active⟩, rfl⟩, nonempty⟩
    exact ⟨e, found, active, Registration.shown_nonempty_iff.1 nonempty, rfl⟩
  · rintro ⟨e, found, active, staked, rfl⟩
    exact ⟨⟨e, ⟨found, active⟩, rfl⟩, Registration.shown_nonempty_iff.2 staked⟩

end Membership

namespace Bls

variable {C : PairingCurve} {keys : List G1PublicKey}

/-! ### What is told of quorums -/

theorem exists_aggregateG1 (each : ∀ k ∈ keys, C.G1.IsKey k.bytes) (nonempty : keys ≠ []) :
    ∃ sum, aggregateG1 C keys = .ok sum := by
  have summed : C.G1.sumKeys (keys.map (·.bytes)) = .ok _ :=
    PointGroup.sumKeys_of_isKey (by simpa using each) (by simpa using nonempty)
  exact ⟨_, bind_eq_ok_iff.2 ⟨_, summed, rfl⟩⟩

end Bls

/-- A quorum's state sums up the stakes and the keys of some operators, in whatever order they are listed. -/
structure QuorumState.Sums (C : PairingCurve) (state : QuorumState) (q : QuorumNum) (block : BlockNumber)
    (operators : List OperatorState) : Prop where
  quorum : state.quorum = q
  block : state.block = block
  /-- The total is the exact sum, cut off at the largest amount. -/
  total : state.totalStake = .clamp (operators.map fun o => (o.stakes.amount q).val).sum
  total_perm : ∀ listing : List OperatorState, listing.Perm operators →
    (listing.map (·.stakes.amount q)).foldl U256.saturatingAdd 0 = state.totalStake
  key : Bls.aggregateG1 C (operators.map (·.pubkeys.g1)) = .ok state.aggregateKey
  key_perm : C.G1.Abelian → ∀ listing : List OperatorState, listing.Perm operators →
    Bls.aggregateG1 C (listing.map (·.pubkeys.g1)) = .ok state.aggregateKey

namespace Membership

variable {C : PairingCurve} {m : Membership} {quorums : List QuorumNum} {block : BlockNumber}
  {q : QuorumNum} {state : QuorumState} {states : QuorumStates}

/-- The keys and the stakes of which a quorum's state is made are told of those that hold stake in it. -/
theorem keys_membersOf_eq (listed : q ∈ quorums) : (m.membersOf q block).map (·.1) =
    ((m.operatorsAt quorums block).holders q).map (·.pubkeys.g1) := by
  rw [membersOf_eq_holders listed, List.map_map]
  rfl

theorem stakes_membersOf_eq (listed : q ∈ quorums) : (m.membersOf q block).map (·.2) =
    ((m.operatorsAt quorums block).holders q).map (·.stakes.amount q) := by
  rw [membersOf_eq_holders listed, List.map_map]
  rfl

theorem membersOf_eq_nil_iff (listed : q ∈ quorums) :
    m.membersOf q block = [] ↔ (m.operatorsAt quorums block).holders q = [] := by
  rw [membersOf_eq_holders listed, List.map_eq_nil_iff]

/-- A quorum without members has no holders of stake. -/
theorem holders_of_unknown (listed : q ∈ quorums) {p : QuorumNum}
    (unknown : m.quorumAt C q block = .error (.unknownQuorum p)) :
    p = q ∧ (m.operatorsAt quorums block).holders q = [] := by
  rw [quorumAt_eq] at unknown
  split at unknown
  next none =>
    cases unknown
    exact ⟨rfl, (membersOf_eq_nil_iff listed).1 (List.isEmpty_iff.1 none)⟩
  next => split at unknown <;> cases unknown

/-- The state of a quorum sums up what is told of its holders. -/
theorem sums_of_quorumAt (listed : q ∈ quorums) (answered : m.quorumAt C q block = .ok state) :
    (m.operatorsAt quorums block).holders q ≠ [] ∧
      state.Sums C q block ((m.operatorsAt quorums block).holders q) := by
  rw [quorumAt_eq] at answered
  split at answered
  · cases answered
  next members =>
    refine ⟨fun none => members (List.isEmpty_iff.2 ((membersOf_eq_nil_iff listed).2 none)), ?_⟩
    split at answered
    next => cases answered
    next key summed =>
      cases answered
      rw [keys_membersOf_eq listed] at summed
      have cutOff (listing : List OperatorState) :
          (listing.map (·.stakes.amount q)).foldl U256.saturatingAdd 0 =
            .clamp (listing.map fun o => (o.stakes.amount q).val).sum := by
        rw [U256.foldl_saturatingAdd, List.map_map]
        rfl
      constructor
      · rfl
      · rfl
      · dsimp only
        rw [stakes_membersOf_eq listed, cutOff]
      · intro listing same
        dsimp only
        rw [stakes_membersOf_eq listed, cutOff, cutOff, (same.map _).sum_nat]
      · exact summed
      · intro abelian listing same
        exact Bls.aggregateG1_of_perm abelian summed (same.map _)

/-- With valid keys the state of a quorum is known as soon as somebody holds stake in it. -/
theorem exists_quorumAt (listed : q ∈ quorums)
    (valid : ∀ o ∈ (m.operatorsAt quorums block).holders q, C.G1.IsKey o.pubkeys.g1.bytes)
    (held : (m.operatorsAt quorums block).holders q ≠ []) :
    ∃ state, m.quorumAt C q block = .ok state := by
  have each : ∀ k ∈ (m.membersOf q block).map (·.1), C.G1.IsKey k.bytes := by
    rw [keys_membersOf_eq listed]
    simpa using valid
  have members : m.membersOf q block ≠ [] := fun none => held ((membersOf_eq_nil_iff listed).1 none)
  obtain ⟨key, summed⟩ := Bls.exists_aggregateG1 each (by simpa using members)
  refine ⟨⟨q, ((m.membersOf q block).map (·.2)).foldl U256.saturatingAdd 0, key, block⟩, ?_⟩
  simp [quorumAt_eq, members, summed]

/-! ### Lists of quorums -/

/-- The states are those of the listed quorums, however often each is listed. -/
theorem get?_quorumsAt (answered : m.quorumsAt C quorums block = .ok states) :
    states.get? q = some state ↔ q ∈ quorums ∧ m.quorumAt C q block = .ok state := by
  obtain ⟨found, each, same⟩ := bind_eq_ok_iff.1 answered
  cases same
  have pairs := mapM_eq_ok_iff.1 each
  have exchange : ∀ p s, (p, s) ∈ found.map (fun s => (s.quorum, s)) ↔
      p ∈ quorums ∧ m.quorumAt C p block = .ok s := by
    intro p s
    clear each answered
    induction pairs with
    | nil => simp
    | cons first _ ih =>
      obtain ⟨rfl, -⟩ := quorumAt_eq_ok first
      rw [List.map_cons, List.mem_cons, List.mem_cons, ih, or_and_right]
      refine or_congr_left ⟨?_, ?_⟩
      · rintro ⟨⟩
        exact ⟨rfl, first⟩
      · -- A quorum that is listed again has the same state again.
        rintro ⟨rfl, again⟩
        cases first.symm.trans again
        rfl
  constructor
  · intro known
    exact (exchange q state).1 (SortedMap.mem_of_get?_ofList known)
  · rintro ⟨listed, own⟩
    have member : q ∈ (found.map fun s => (s.quorum, s)).map Prod.fst :=
      List.mem_map.2 ⟨_, (exchange q state).2 ⟨listed, own⟩, rfl⟩
    obtain ⟨other, known⟩ := SortedMap.contains_iff_exists.1 ((SortedMap.contains_ofList _ q).2 member)
    cases own.symm.trans ((exchange q other).1 (SortedMap.mem_of_get?_ofList known)).2
    exact known

/-- The query about quorums is answered if each of them has a state. -/
theorem exists_quorumsAt_iff : (∃ states, m.quorumsAt C quorums block = .ok states) ↔
    ∀ q ∈ quorums, ∃ state, m.quorumAt C q block = .ok state := by
  rw [← exists_mapM_eq_ok_iff]
  constructor
  · rintro ⟨states, answered⟩
    obtain ⟨found, each, -⟩ := bind_eq_ok_iff.1 answered
    exact ⟨found, each⟩
  · rintro ⟨found, each⟩
    exact ⟨_, bind_eq_ok_iff.2 ⟨found, each, rfl⟩⟩

/-- Where the query fails, it fails at a listed quorum. -/
theorem exists_of_quorumsAt_eq_error {e : ProviderError} (failed : m.quorumsAt C quorums block = .error e) :
    ∃ q ∈ quorums, m.quorumAt C q block = .error e := by
  rcases bind_eq_error_iff.1 failed with failed | ⟨_, -, impossible⟩
  · exact exists_of_mapM_eq_error failed
  · cases impossible

end Membership

/-- There is a snapshot as soon as every quorum has a state. -/
theorem Snapshot.exists_ofStates {quorums : List QuorumNum} {states : QuorumStates}
    (operators : OperatorStates) (known : ∀ q ∈ quorums, ∃ state, states.get? q = some state) :
    ∃ n, ofStates quorums operators states = .ok n := by
  cases built : ofStates quorums operators states with
  | ok n => exact ⟨n, rfl⟩
  | error q =>
    rcases bind_eq_error_iff.1 built with failed | ⟨_, -, impossible⟩
    · obtain ⟨q', listed, fails⟩ := exists_of_mapM_eq_error failed
      obtain ⟨state, found⟩ := known q' listed
      rw [found] at fails
      cases fails
    · cases impossible

/-! ### Both queries

The query about quorums makes its own scan of the entries. It finds the same operators as the query about
operators, so its sums are sums over that answer. -/

/-- The answer about some quorums accords with what is told of their operators. -/
structure QuorumStates.Accord (C : PairingCurve) (states : QuorumStates) (quorums : List QuorumNum)
    (block : BlockNumber) (operators : OperatorStates) : Prop where
  /-- The listed quorums are told of and no others. -/
  contains : ∀ q, states.contains q = true ↔ q ∈ quorums
  held : ∀ q ∈ quorums, operators.holders q ≠ []
  sums : ∀ q state, states.get? q = some state → state.Sums C q block (operators.holders q)
  /-- Both answers together make a snapshot. -/
  snapshot : ∃ n, Snapshot.ofStates quorums operators states = .ok n ∧ n.operators = operators ∧
    n.Combines quorums states

namespace Membership

variable {C : PairingCurve} {m : Membership} {quorums : List QuorumNum} {block : BlockNumber}
  {states : QuorumStates}

/-- Where both queries are answered, the answers accord. -/
theorem accord_of_quorumsAt (answered : m.quorumsAt C quorums block = .ok states) :
    states.Accord C quorums block (m.operatorsAt quorums block) := by
  have own := exists_quorumsAt_iff.1 ⟨states, answered⟩
  have known : ∀ q ∈ quorums, ∃ state, states.get? q = some state := by
    intro q listed
    obtain ⟨state, same⟩ := own q listed
    exact ⟨state, (get?_quorumsAt answered).2 ⟨listed, same⟩⟩
  constructor
  · intro q
    rw [SortedMap.contains_iff_exists]
    exact ⟨fun ⟨_, found⟩ => ((get?_quorumsAt answered).1 found).1, known q⟩
  · intro q listed
    obtain ⟨state, same⟩ := own q listed
    exact (sums_of_quorumAt listed same).1
  · intro q state found
    obtain ⟨listed, same⟩ := (get?_quorumsAt answered).1 found
    exact (sums_of_quorumAt listed same).2
  · obtain ⟨n, built⟩ := Snapshot.exists_ofStates (m.operatorsAt quorums block) known
    exact ⟨n, built, Snapshot.operators_ofStates built, Snapshot.combines_ofStates built⟩

/-- With valid keys the query about quorums is answered if somebody holds stake in each of them. -/
theorem exists_quorumsAt_iff_held (valid : ∀ id e, m.get? id = some e → C.G1.IsKey e.pubkeys.g1.bytes) :
    (∃ states, m.quorumsAt C quorums block = .ok states) ↔
      ∀ q ∈ quorums, (m.operatorsAt quorums block).holders q ≠ [] := by
  constructor
  · rintro ⟨states, answered⟩
    exact (accord_of_quorumsAt answered).held
  · intro held
    refine exists_quorumsAt_iff.2 fun q listed => exists_quorumAt listed ?_ (held q listed)
    intro o holder
    obtain ⟨⟨id, _⟩, member, rfl⟩ := List.mem_map.1 (List.mem_filter.1 holder).1
    obtain ⟨e, found, -, -, shown⟩ := get?_operatorsAt_iff.1 (SortedMap.get?_eq_some_iff.2 member)
    rw [shown.pubkeys]
    exact valid id e found

end Membership

namespace Registry

/-- Both queries tell of the same membership, whatever has been done to the registry. The operators are those
that are active and hold stake in a listed quorum. A quorum is unknown only if none of them holds stake in
it; an answer about the quorums accords with them; and with valid keys there is one as soon as each
quorum is held. -/
theorem queries_agree (C : PairingCurve) (history : List RegistryCommand) (quorums : List QuorumNum)
    (block : BlockNumber) :
    let m := (empty.after C history).membership
    let operators := m.operatorsAt quorums block
    (∀ id o, operators.get? id = some o ↔ ∃ e, Leaves history id e ∧ e.activeAt block = true ∧
      (∃ q ∈ quorums, e.stakes.contains q = true) ∧ e.ShownAs quorums block id o) ∧
    (∀ q, m.quorumsAt C quorums block = .error (.unknownQuorum q) →
      q ∈ quorums ∧ operators.holders q = []) ∧
    (∀ states, m.quorumsAt C quorums block = .ok states → states.Accord C quorums block operators) ∧
    ((∀ id e, Leaves history id e → C.G1.IsKey e.pubkeys.g1.bytes) →
      ((∃ states, m.quorumsAt C quorums block = .ok states) ↔
        ∀ q ∈ quorums, operators.holders q ≠ [])) := by
  intro m operators
  refine ⟨?_, ?_, ?_, ?_⟩
  · intro id o
    rw [Membership.get?_operatorsAt_iff]
    simp only [m, get?_after]
  · intro q unknown
    obtain ⟨p, listed, unknown⟩ := Membership.exists_of_quorumsAt_eq_error unknown
    obtain ⟨rfl, nobody⟩ := Membership.holders_of_unknown listed unknown
    exact ⟨listed, nobody⟩
  · exact fun states answered => Membership.accord_of_quorumsAt answered
  · intro valid
    exact Membership.exists_quorumsAt_iff_held fun id e found => valid id e (get?_after.1 found)

/-- A quorum is listed twice, and its total is cut off; of another only a stake of zero is left; and one has
no stake. -/
theorem queries_agree_sample :
    let C := SampleCurve.curve
    let quorum (n : UInt8) : QuorumNum := ⟨n⟩
    let key (n : Nat) : G1PublicKey := ⟨.ofNat 48 (2 * n)⟩
    let operator (n : Nat) (stakes : List (QuorumNum × U256)) : RegistryCommand :=
      .register (SampleCurve.operatorId n) ⟨key n, some (SampleCurve.key n)⟩ (.ofList stakes) 0
    let history := [operator 1 [(quorum 0, .clamp (2 ^ 256 - 1))],
      operator 2 [(quorum 0, .clamp 100), (quorum 1, 0)], operator 3 [(quorum 1, .clamp 50)],
      .deregister (SampleCurve.operatorId 3) 7]
    let m := (empty.after C history).membership
    let quorums := [quorum 0, quorum 1, quorum 0]
    (∀ id e, Leaves history id e → C.G1.IsKey e.pubkeys.g1.bytes) ∧ C.G1.Abelian ∧
    (∃ states state, m.quorumsAt C quorums 7 = .ok states ∧
      states.Accord C quorums 7 (m.operatorsAt quorums 7) ∧ states.get? (quorum 0) = some state ∧
      state.totalStake = .clamp (2 ^ 256 - 1) ∧
      Bls.aggregateG1 C [key 2, key 1] = .ok state.aggregateKey) ∧
    m.quorumsAt C [quorum 0, quorum 2] 7 = .error (.unknownQuorum (quorum 2)) ∧
    (m.operatorsAt [quorum 0, quorum 2] 7).holders (quorum 2) = [] := by
  intro C quorum key operator history m quorums
  have keys : ∀ e ∈ m.toList, e.2.pubkeys.g1 ∈ [key 1, key 2, key 3] := by decide +kernel
  have isKey (p : Fin 10) (member : 5 * p = 0) (finite : decide (p = 0) = false) :
      C.G1.IsKey (.ofNat 48 p.val) :=
    ⟨p, SampleCurve.encodes_residues (by decide) member, finite⟩
  have valid : ∀ id e, Leaves history id e → C.G1.IsKey e.pubkeys.g1.bytes := by
    intro id e left
    have listed := keys _ (SortedMap.get?_eq_some_iff.1 (get?_after (C := C).2 left))
    simp only [List.mem_cons, List.not_mem_nil, or_false] at listed
    rcases listed with same | same | same <;> rw [same]
    · exact isKey 2 rfl rfl
    · exact isKey 4 rfl rfl
    · exact isKey 6 rfl rfl
  obtain ⟨-, -, accord, exists_iff⟩ := queries_agree C history quorums 7
  obtain ⟨states, answered⟩ := (exists_iff valid).2 (by decide +kernel)
  have accord := accord states answered
  obtain ⟨state, found⟩ := SortedMap.contains_iff_exists.1 ((accord.contains (quorum 0)).2 (by decide))
  have sums := accord.sums (quorum 0) state found
  have total : state.totalStake = .clamp (2 ^ 256 - 1) := sums.total.trans (by decide +kernel)
  have turned : (((m.operatorsAt quorums 7).holders (quorum 0)).reverse.map (·.pubkeys.g1)) =
      [key 2, key 1] := by
    decide +kernel
  have summed := sums.key_perm SampleCurve.abelian_signatures _ (List.reverse_perm _)
  have unknown : m.quorumsAt C [quorum 0, quorum 2] 7 = .error (.unknownQuorum (quorum 2)) := by
    decide +kernel
  exact ⟨valid, SampleCurve.abelian_signatures,
    ⟨states, state, answered, accord, found, total, turned ▸ summed⟩, unknown,
    ((queries_agree C history [quorum 0, quorum 2] 7).2.1 _ unknown).2⟩

end Registry

end Attestation
