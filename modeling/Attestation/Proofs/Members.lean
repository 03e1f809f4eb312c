/-
Module: Attestation.Proofs.Members
Purpose: What a registry kept in memory answers about a block. An operator is a member of a quorum if it
  is active at the block and holds stake in the quorum; the states of the operators and those of the
  quorums, although they are filtered and summed up apart, tell of the same members and stakes. Only the
  total is cut off where it is larger than the largest amount.
Main exports: Membership.stakeAt, Membership.among, Membership.members, Membership.totalAt,
  Membership.keyOf, Membership.quorumAt_eq_ok, Membership.get?_stakesOf, Membership.Tells,
  Membership.tells_of_fetches
-/
import Attestation.Proofs.Results

namespace Attestation

namespace SortedMap

variable {κ ν : Type} [Ord κ] [Std.LawfulEqOrd κ]

/-- The values are found at the keys, in their order. -/
theorem filterMap_values {α : Type} (m : SortedMap κ ν) (f : ν → Option α) :
    m.values.filterMap f = m.keys.filterMap fun k => (m.get? k).bind f := by
  unfold keys values
  rw [List.filterMap_map, List.filterMap_map]
  apply List.filterMap_congr
  intro e listed
  have found : m.get? e.1 = some e.2 := get?_eq_some_iff.2 listed
  simp [found]

omit [Std.LawfulEqOrd κ] in
theorem get?_of_isEmpty {m : SortedMap κ ν} (empty : m.isEmpty = true) (k : κ) : m.get? k = none := by
  unfold get?
  rw [List.isEmpty_iff.1 empty]
  rfl

end SortedMap

/-- Amounts that are added up one by one give the exact sum, cut off. -/
theorem U256.foldl_saturatingAdd (amounts : List U256) :
    amounts.foldl U256.saturatingAdd 0 = .clamp (amounts.map (·.val)).sum := by
  suffices further : ∀ n, amounts.foldl U256.saturatingAdd (.clamp n) = .clamp (n + (amounts.map (·.val)).sum) by
    have start : (0 : U256) = .clamp 0 := rfl
    rw [start, further, Nat.zero_add]
  induction amounts with
  | nil => simp
  | cons a rest ih =>
    intro n
    rw [List.foldl_cons, U256.saturatingAdd_clamp, ih, List.map_cons, List.sum_cons, Nat.add_assoc]

namespace Membership

variable (m : Membership) (block : BlockNumber) (q : QuorumNum)

/-- The stake with which an operator is a member of a quorum at a block. -/
def stakeAt (id : OperatorId) : Option U256 := ((m.activeAt block).get? id).bind (·.stakes.get? q)

/-- Those of some operators that are members of a quorum at a block. -/
def among (ids : List OperatorId) : List OperatorId := ids.filter fun id => (m.stakeAt block q id).isSome

/-- The members of a quorum at a block. -/
def members : List OperatorId := m.among block q (m.activeAt block).keys

/-- The exact sum of the stakes of some operators in a quorum; who is no member has none. -/
def totalAt (ids : List OperatorId) : Nat := (ids.map fun id => ((m.stakeAt block q id).getD 0).val).sum

/-- The key that stands for an operator on chain. -/
def keyOf (id : OperatorId) : Option G1PublicKey := (m.get? id).map (·.pubkeys.g1)

variable {m block q} {C : PairingCurve} {id : OperatorId}

theorem get?_activeAt : (m.activeAt block).get? id = (m.get? id).filter (·.activeAt block) :=
  SortedMap.get?_filter _ _ _

/-- Those among some who are members are those with a stake. -/
theorem mem_among {ids : List OperatorId} :
    id ∈ m.among block q ids ↔ id ∈ ids ∧ (m.stakeAt block q id).isSome = true := List.mem_filter

/-- A member is who has a stake in the quorum at the block. -/
theorem mem_members : id ∈ m.members block q ↔ (m.stakeAt block q id).isSome = true := by
  unfold members
  rw [mem_among, SortedMap.mem_keys_iff, SortedMap.contains]
  unfold stakeAt
  cases (m.activeAt block).get? id <;> simp

/-- That is to be active at the block and to have named the quorum. -/
theorem isSome_stakeAt : (m.stakeAt block q id).isSome =
    (m.get? id).any fun r => r.activeAt block && r.stakes.contains q := by
  unfold stakeAt
  rw [get?_activeAt]
  cases m.get? id with
  | none => rfl
  | some r => cases active : r.activeAt block <;> simp [Option.filter, active, SortedMap.contains]

/-- An operator has one stake index in each listed quorum of which it is a member. -/
theorem length_nonSignerStakes {quorums : List QuorumNum} (ids : List OperatorId) :
    (m.indicesAt block quorums ids).nonSignerStakes.map (·.length) =
      quorums.map fun q => (m.among block q ids).length := by
  unfold indicesAt among
  rw [List.map_map]
  apply List.map_congr_left
  intro q _
  simp only [Function.comp_apply, List.length_map, isSome_stakeAt]

/-- Every member has a key. -/
theorem exists_keyOf (member : id ∈ m.members block q) : ∃ k, m.keyOf id = some k := by
  rw [mem_members, isSome_stakeAt] at member
  unfold keyOf
  cases found : m.get? id with
  | none => simp [found] at member
  | some r => exact ⟨r.pubkeys.g1, rfl⟩

theorem nodup_among {ids : List OperatorId} (distinct : ids.Nodup) : (m.among block q ids).Nodup :=
  distinct.filter _

theorem nodup_members : (m.members block q).Nodup := nodup_among (m.activeAt block).nodup_keys

/-- Stakes of two groups add up. -/
theorem totalAt_append (ids ids' : List OperatorId) :
    m.totalAt block q (ids ++ ids') = m.totalAt block q ids + m.totalAt block q ids' := by
  unfold totalAt
  rw [List.map_append, List.sum_append]

/-- The order in which stakes are added makes no difference to the unbounded total. -/
theorem totalAt_perm {ids ids' : List OperatorId} (same : ids.Perm ids') :
    m.totalAt block q ids = m.totalAt block q ids' := (same.map _).sum_eq

/-- Who is no member does not count. -/
theorem totalAt_among (ids : List OperatorId) :
    m.totalAt block q (m.among block q ids) = m.totalAt block q ids := by
  unfold totalAt among
  induction ids with
  | nil => rfl
  | cons id rest ih =>
    cases stake : m.stakeAt block q id <;> simp [stake, ih]

/-- The members in ascending order are the active operators that have named the quorum. -/
theorem membersOf_eq_filterMap : m.membersOf q block = (m.activeAt block).values.filterMap fun r =>
    (r.stakes.get? q).map fun stake => (r.pubkeys.g1, stake) := by
  rw [SortedMap.values, List.filterMap_map]
  rfl

/-- The stakes and the keys of which a quorum's state is made are those of its members. -/
theorem stakes_membersOf :
    (m.membersOf q block).map (·.2) = (m.members block q).filterMap (m.stakeAt block q) := by
  unfold members among
  rw [membersOf_eq_filterMap, SortedMap.filterMap_values, List.map_filterMap, List.filterMap_filter]
  apply List.filterMap_congr
  intro id _
  have same : m.stakeAt block q id = ((m.activeAt block).get? id).bind (·.stakes.get? q) := rfl
  cases found : (m.activeAt block).get? id with
  | none => simp [same, found]
  | some r => cases stake : r.stakes.get? q <;> simp [same, found, stake]

/-- The keys that are added up are those of the members. -/
theorem keys_membersOf : (m.membersOf q block).map (·.1) = (m.members block q).filterMap m.keyOf := by
  unfold members among
  rw [membersOf_eq_filterMap, SortedMap.filterMap_values, List.map_filterMap, List.filterMap_filter]
  apply List.filterMap_congr
  intro id _
  have same : m.stakeAt block q id = ((m.activeAt block).get? id).bind (·.stakes.get? q) := rfl
  cases found : (m.activeAt block).get? id with
  | none => simp [same, found]
  | some r =>
    have registered : m.get? id = some r := by
      rw [get?_activeAt, Option.filter_eq_some_iff] at found
      exact found.1
    cases stake : r.stakes.get? q <;> simp [same, found, stake, keyOf, registered]

/-- The exact total of the members is the sum of their stakes. -/
theorem sum_stakes (ids : List OperatorId) :
    ((ids.filterMap (m.stakeAt block q)).map (·.val)).sum = m.totalAt block q ids := by
  unfold totalAt
  induction ids with
  | nil => rfl
  | cons id rest ih => cases stake : m.stakeAt block q id <;> simp [stake, ih]

/-- A quorum is unknown if it has no members; otherwise its key is the sum of their keys, if there is one.
-/
theorem quorumAt_eq : m.quorumAt C q block =
    if (m.membersOf q block).isEmpty then .error (.unknownQuorum q)
    else match Bls.aggregateG1 C ((m.membersOf q block).map (·.1)) with
      | .error e => .error (.communication e.message)
      | .ok key =>
        .ok ⟨q, ((m.membersOf q block).map (·.2)).foldl U256.saturatingAdd 0, key, block⟩ := rfl

/-- The state of a quorum that has members: its total is cut off, and its key is the sum of their keys. -/
theorem quorumAt_eq_ok {state : QuorumState} (answered : m.quorumAt C q block = .ok state) :
    state.quorum = q ∧ state.totalStake = .clamp (m.totalAt block q (m.members block q)) ∧
      Bls.aggregateG1 C ((m.members block q).filterMap m.keyOf) = .ok state.aggregateKey := by
  rw [quorumAt_eq] at answered
  split at answered
  · cases answered
  · split at answered
    next => cases answered
    next key summed =>
      cases answered
      rw [← keys_membersOf]
      refine ⟨rfl, ?_, summed⟩
      rw [U256.foldl_saturatingAdd, stakes_membersOf, sum_stakes]

/-- Of quorums that are listed once each the state is found under its quorum. -/
theorem get?_of_quorumsAt {quorums : List QuorumNum} {states : QuorumStates} (distinct : quorums.Nodup)
    (answered : m.quorumsAt C quorums block = .ok states) (listed : q ∈ quorums) :
    ∃ state, m.quorumAt C q block = .ok state ∧ states.get? q = some state := by
  obtain ⟨found, each, same⟩ := bind_eq_ok_iff.1 answered
  cases same
  have pairs := mapM_eq_ok_iff.1 each
  have states : (∀ state ∈ found, m.quorumAt C state.quorum block = .ok state) ∧
      found.map (·.quorum) = quorums := by
    clear each distinct listed answered
    induction pairs with
    | nil => simp
    | cons first _ ih =>
      obtain ⟨rfl, -⟩ := quorumAt_eq_ok first
      rw [List.forall_mem_cons, List.map_cons, ih.2]
      exact ⟨⟨first, ih.1⟩, rfl⟩
  obtain ⟨own, same⟩ := states
  obtain ⟨state, member, rfl⟩ := List.mem_map.1 (same ▸ listed)
  refine ⟨state, own state member, SortedMap.get?_ofList ?_ (List.mem_map_of_mem member)⟩
  rw [List.map_map]
  exact same ▸ distinct

/-- The recorded stakes of an operator are those with which it is a member of the listed quorums. -/
theorem get?_stakesOf {quorums : List QuorumNum} {n : Snapshot}
    (operators : n.operators = m.operatorsAt quorums block) (listed : q ∈ quorums) (id : OperatorId) :
    (n.stakesOf id).get? q = m.stakeAt block q id := by
  unfold Snapshot.stakesOf stakeAt
  rw [operators, operatorsAt, SortedMap.get?_filter, SortedMap.get?_mapValues]
  cases (m.activeAt block).get? id with
  | none => rfl
  | some r =>
    have stakes : (r.stakes.filter fun q _ => q ∈ quorums).get? q = r.stakes.get? q := by
      rw [SortedMap.get?_filter]
      cases r.stakes.get? q <;> simp [Option.filter, listed]
    rw [Option.map_some, Option.bind_some, ← stakes]
    cases empty : (r.stakes.filter fun q _ => q ∈ quorums).isEmpty with
    | true =>
      rw [SortedMap.get?_of_isEmpty empty]
      simp [Option.filter, empty]
    | false => simp [Option.filter, empty]

variable {quorums : List QuorumNum} {n : Snapshot}

/-- An operator in a snapshot has the key with which it is registered. -/
theorem get?_operators (operators : n.operators = m.operatorsAt quorums block) {operator : OperatorState}
    (found : n.operators.get? id = some operator) :
    operator.id = id ∧ m.keyOf id = some operator.pubkeys.g1 := by
  rw [operators, operatorsAt, SortedMap.get?_filter, SortedMap.get?_mapValues, get?_activeAt,
    Option.filter_eq_some_iff, Option.map_eq_some_iff] at found
  obtain ⟨⟨r, active, rfl⟩, -⟩ := found
  rw [Option.filter_eq_some_iff] at active
  exact ⟨rfl, by rw [keyOf, active.1, Option.map_some]⟩

end Membership

/-- A failure that is injected gives no answer. -/
theorem Registry.orFailure_eq_ok {α : Type} {failure : Option ProviderError}
    {answer : Except ProviderError α} {a : α} (given : orFailure failure answer = .ok a) :
    answer = .ok a := by
  unfold orFailure at given
  split at given
  · cases given
  · cases given
  · cases given
    rfl

/-- What a task's snapshot tells of the membership. -/
structure Membership.Tells (C : PairingCurve) (m : Membership) (t : TaskParameters) (n : Snapshot) :
    Prop where
  keyed : n.Keyed
  stakes : ∀ q ∈ t.quorums, ∀ id, (n.stakesOf id).get? q = m.stakeAt t.block q id
  keys : ∀ id operator, n.operators.get? id = some operator → m.keyOf id = some operator.pubkeys.g1
  /-- The total is the exact sum of the members' stakes, cut off. -/
  totals : ∀ q ∈ t.quorums,
    n.totals.get? q = some (.clamp (m.totalAt t.block q (m.members t.block q)))
  quorumKeys : ∀ (i : Nat) (q : QuorumNum), t.quorums[i]? = some q → ∃ key, n.quorumKeys[i]? = some key ∧
    Bls.aggregateG1 C ((m.members t.block q).filterMap m.keyOf) = .ok key

section Telling

variable {ρ : Type} {J : Judge ρ} {C : PairingCurve} {m : Membership} {t : TaskParameters} {n : Snapshot}
  {first second : Registry} {states : QuorumStates}

/-- A snapshot is told by a membership that both queries have found. -/
theorem Membership.tells_of_fetches (distinct : t.quorums.Nodup)
    (fetches : Setting.Fetches ⟨J, Registry.provider C⟩ t first second states n)
    (one : first.membership = m) (two : second.membership = m) : m.Tells C t n := by
  have operators : n.operators = m.operatorsAt t.quorums t.block := by
    have answered := Except.ok.inj (Registry.orFailure_eq_ok fetches.operators)
    rw [← answered, one]
  have answered : m.quorumsAt C t.quorums t.block = .ok states := by
    rw [← two]
    exact Registry.orFailure_eq_ok fetches.quorums
  have combines := Snapshot.combines_ofStates fetches.snapshot
  constructor
  · intro id operator found
    exact (get?_operators operators found).1
  · intro q listed id
    exact get?_stakesOf operators listed id
  · intro id operator found
    exact (get?_operators operators found).2
  · intro q listed
    obtain ⟨state, own, found⟩ := get?_of_quorumsAt distinct answered listed
    rw [combines.totals, if_pos listed, found, Option.map_some, (quorumAt_eq_ok own).2.1]
  · intro i q listed
    obtain ⟨state, own, found⟩ := get?_of_quorumsAt distinct answered (List.mem_of_getElem? listed)
    have place := congrArg (·[i]?) combines.quorumKeys
    simp only [List.getElem?_map, listed, found, Option.map_some] at place
    obtain ⟨key, place, same⟩ := Option.map_eq_some_iff.1 place
    cases same
    exact ⟨_, place, (quorumAt_eq_ok own).2.2⟩

/-- The members of the task's quorums belong to the snapshot. -/
theorem Membership.Tells.contains (tells : m.Tells C t n) {q : QuorumNum} (listed : q ∈ t.quorums)
    {id : OperatorId} (member : id ∈ m.members t.block q) : n.operators.contains id = true := by
  rw [mem_members, ← tells.stakes q listed, Snapshot.stakesOf] at member
  unfold SortedMap.contains
  cases found : n.operators.get? id with
  | none => simp [found] at member
  | some operator => rfl

/-- The stakes that the snapshot records of operators are those with which they are members. -/
theorem Membership.Tells.total (tells : m.Tells C t n) {q : QuorumNum} (listed : q ∈ t.quorums)
    (ids : List OperatorId) : n.total ids q = m.totalAt t.block q ids := by
  unfold Snapshot.total totalAt Stakes.amount
  simp only [tells.stakes q listed]

end Telling

end Attestation
