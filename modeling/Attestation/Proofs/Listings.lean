/-
Module: Attestation.Proofs.Listings
Purpose: What a registry tells of a block, in whatever order it goes through its entries. The order is up to
  the registry, and a change of one entry can change the order of the others. All answers about a block
  depend on the operators that are seen at it; their order decides only which of several keys is reported
  that cannot be summed up. So registries in which the same operators are seen at a block give the same
  answers about it, but for that key, and have the same choice of answers.
Main exports: BlsError.RefusesKey, Bls.aggregateG1_of_perm, AnsweredAlike, Membership.seenIn,
  Membership.seenAt, Membership.quorumsIn_alike, Membership.Listing, Membership.exists_listing,
  Membership.answersAt, Membership.AgreesAt, Membership.agreesAt_of_seenAt
-/
import Attestation.Proofs.Batches
import Attestation.Proofs.Members

namespace Attestation

/-- A computation over a list succeeds if it does at every element. -/
theorem exists_mapM_eq_ok_iff {ε α β : Type} {f : α → Except ε β} {xs : List α} :
    (∃ ys, xs.mapM f = .ok ys) ↔ ∀ x ∈ xs, ∃ y, f x = .ok y := by
  simp only [mapM_eq_ok_iff]
  constructor
  · rintro ⟨ys, pairs⟩
    induction pairs with
    | nil => simp
    | cons first _ ih => exact List.forall_mem_cons.2 ⟨⟨_, first⟩, ih⟩
  · exact exists_forall₂

/-- Where a computation over a list fails, it fails at an element. -/
theorem exists_of_mapM_eq_error {ε α β : Type} {f : α → Except ε β} {xs : List α} {e : ε}
    (failed : xs.mapM f = .error e) : ∃ x ∈ xs, f x = .error e := by
  induction xs with
  | nil => cases failed
  | cons x rest ih =>
    rw [List.mapM_cons, bind_eq_error_iff] at failed
    rcases failed with first | ⟨y, -, later⟩
    · exact ⟨x, List.mem_cons_self, first⟩
    · rcases bind_eq_error_iff.1 later with later | ⟨_, -, impossible⟩
      · obtain ⟨x', listed, fails⟩ := ih later
        exact ⟨x', List.mem_cons_of_mem x listed, fails⟩
      · cases impossible

/-! ### Sums of keys in any order

All keys are decoded before the first is checked, so it does not depend on the order whether one stands for
no point. Of the others the first that is refused is reported. -/

/-- The error of a point that is no key: it is infinity, or outside the subgroup. -/
def BlsError.RefusesKey (e : BlsError) : Prop := e = .keyIsInfinity ∨ e = .notInGroup

namespace PointGroup

variable {n : Nat} {G : PointGroup n} {keys keys' : List (Bytes n)} {sum : Bytes n} {p : G.Point}
  {e e' : BlsError}

/-- A key that passes is not the point at infinity. -/
theorem finite_of_checkKey (valid : G.checkKey p = .ok ()) : G.isIdentity p = false := by
  cases finite : G.isIdentity p with
  | false => rfl
  | true => simp [checkKey, finite] at valid

/-- What the check of a key reports is about that key. -/
theorem refusesKey_of_checkKey (refused : G.checkKey p = .error e) : e.RefusesKey := by
  unfold checkKey checkMember at refused
  split at refused
  · cases refused
    exact .inl rfl
  · split at refused
    · cases refused
    · cases refused
      exact .inr rfl

theorem refusesKey_of_forM {points : List G.Point} (refused : points.forM G.checkKey = .error e) :
    e.RefusesKey := by
  induction points with
  | nil => cases refused
  | cons p rest ih =>
    rw [List.forM_eq_forM, List.forM_cons, ← List.forM_eq_forM, bind_eq_error_iff] at refused
    rcases refused with first | ⟨_, -, later⟩
    · exact refusesKey_of_checkKey first
    · exact ih later

/-- Only keys have a sum. -/
theorem isKey_of_sumKeys (summed : G.sumKeys keys = .ok sum) : ∀ k ∈ keys, G.IsKey k := by
  have encodes := (encodes_of_sumKeys summed).1
  unfold sumKeys at summed
  split at summed
  · cases summed
  obtain ⟨points, decoded, rest⟩ := bind_eq_ok_iff.1 summed
  obtain ⟨_, checked, -⟩ := bind_eq_ok_iff.1 rest
  have checked := forM_eq_ok_iff.1 checked
  obtain ⟨-, same⟩ := encodes_of_decoded (mapM_eq_ok_iff.1 decoded) checked
  intro k listed
  have valid := checked (G.point k) (same ▸ List.mem_map_of_mem listed)
  exact ⟨G.point k, encodes k listed, finite_of_checkKey valid⟩

/-- Why keys have no sum: there are none, or one stands for no point, or one is refused. -/
theorem cause_of_sumKeys (failed : G.sumKeys keys = .error e) :
    keys = [] ∧ e = .emptyAggregation ∨
    keys ≠ [] ∧ (∃ k ∈ keys, G.decode? k = none) ∧ e = .invalidPublicKey ∨
    keys ≠ [] ∧ (¬ ∃ k ∈ keys, G.decode? k = none) ∧ e.RefusesKey := by
  unfold sumKeys at failed
  split at failed
  next empty =>
    cases failed
    exact .inl ⟨List.isEmpty_iff.1 empty, rfl⟩
  next listed =>
    have nonempty : keys ≠ [] := by simpa using listed
    right
    rcases bind_eq_error_iff.1 failed with failed | ⟨points, decoded, failed⟩
    · left
      obtain ⟨k, listed, fails⟩ := exists_of_mapM_eq_error failed
      unfold decode at fails
      cases decodes : G.decode? k with
      | none =>
        rw [decodes] at fails
        cases fails
        exact ⟨nonempty, ⟨k, listed, decodes⟩, rfl⟩
      | some p =>
        rw [decodes] at fails
        cases fails
    · right
      refine ⟨nonempty, ?_, ?_⟩
      · rintro ⟨k, listed, none⟩
        obtain ⟨p, decodes⟩ := exists_mapM_eq_ok_iff.1 ⟨points, decoded⟩ k listed
        rw [decode_eq_ok_iff, none] at decodes
        cases decodes
      · rcases bind_eq_error_iff.1 failed with refused | ⟨_, -, impossible⟩
        · exact refusesKey_of_forM refused
        · cases impossible

/-- Keys that have no sum have none in any order, for the same reason or because one is refused. -/
theorem cause_of_perm (same : keys.Perm keys') (failed : G.sumKeys keys = .error e)
    (failed' : G.sumKeys keys' = .error e') : e = e' ∨ e.RefusesKey ∧ e'.RefusesKey := by
  have nonempty : keys = [] ↔ keys' = [] := ⟨fun none => (none ▸ same).nil_eq.symm,
    fun none => (none ▸ same).eq_nil⟩
  have undecoded : (∃ k ∈ keys, G.decode? k = none) ↔ ∃ k ∈ keys', G.decode? k = none := by
    simp only [same.mem_iff]
  rcases cause_of_sumKeys failed with ⟨none, rfl⟩ | ⟨some, bad, rfl⟩ | ⟨some, good, refuses⟩ <;>
  rcases cause_of_sumKeys failed' with ⟨none', rfl⟩ | ⟨some', bad', rfl⟩ | ⟨some', good', refuses'⟩
  · exact .inl rfl
  · exact absurd (nonempty.1 none) some'
  · exact absurd (nonempty.1 none) some'
  · exact absurd (nonempty.2 none') some
  · exact .inl rfl
  · exact absurd (undecoded.1 bad) good'
  · exact absurd (nonempty.2 none') some
  · exact absurd (undecoded.2 bad') good
  · exact .inr ⟨refuses, refuses'⟩

end PointGroup

namespace Bls

variable {C : PairingCurve} {keys keys' : List G1PublicKey} {sum : G1PublicKey} {e e' : BlsError}

/-- A sum is there only if every key is one. -/
theorem isKey_of_aggregateG1 (summed : aggregateG1 C keys = .ok sum) :
    ∀ k ∈ keys, C.G1.IsKey k.bytes := by
  obtain ⟨bytes, summed, -⟩ := bind_eq_ok_iff.1 summed
  simpa using PointGroup.isKey_of_sumKeys summed

/-- A sum of keys is found in whatever order they are listed. -/
theorem aggregateG1_of_perm (abelian : C.G1.Abelian) (summed : aggregateG1 C keys = .ok sum)
    (same : keys'.Perm keys) : aggregateG1 C keys' = .ok sum := by
  have each : ∀ k ∈ keys.map (·.bytes), C.G1.IsKey k := by simpa using isKey_of_aggregateG1 summed
  unfold aggregateG1
  rw [← PointGroup.sumKeys_perm abelian each (same.symm.map _)]
  exact summed

/-- An aggregation fails only if the sum of the keys does. -/
theorem sumKeys_of_aggregateG1 (failed : aggregateG1 C keys = .error e) :
    C.G1.sumKeys (keys.map (·.bytes)) = .error e := by
  rcases bind_eq_error_iff.1 failed with failed | ⟨_, -, impossible⟩
  · exact failed
  · cases impossible

end Bls

/-! ### Answers that differ in the reported key at most -/

/-- Two answers are the same, but that they may refuse different keys. -/
inductive AnsweredAlike {α : Type} : Except ProviderError α → Except ProviderError α → Prop where
  | same (answer : Except ProviderError α) : AnsweredAlike answer answer
  | refused {e e' : BlsError} : e.RefusesKey → e'.RefusesKey →
    AnsweredAlike (.error (.communication e.message)) (.error (.communication e'.message))

namespace AnsweredAlike

variable {α β : Type} {a a' : Except ProviderError α} {f f' : α → Except ProviderError β}

/-- An answer with a value is the same in any order. -/
theorem eq_of_ok {x : α} (alike : AnsweredAlike (.ok x) a) : a = .ok x := by
  cases alike
  rfl

/-- Which of two answers comes first makes no difference. -/
theorem symm (alike : AnsweredAlike a a') : AnsweredAlike a' a := by
  cases alike with
  | same => exact .same _
  | refused refuses refuses' => exact .refused refuses' refuses

/-- What follows from alike answers is alike if it follows alike. -/
theorem bind (first : AnsweredAlike a a') (next : ∀ x, AnsweredAlike (f x) (f' x)) :
    AnsweredAlike (a >>= f) (a' >>= f') := by
  cases first with
  | refused refuses refuses' => exact .refused refuses refuses'
  | same =>
    cases a with
    | error e => exact .same _
    | ok x => exact next x

/-- A computation over a list whose steps are alike is alike. -/
theorem mapM (each : ∀ x, AnsweredAlike (f x) (f' x)) (xs : List α) :
    AnsweredAlike (xs.mapM f) (xs.mapM f') := by
  induction xs with
  | nil => exact .same _
  | cons x rest ih =>
    rw [List.mapM_cons, List.mapM_cons]
    exact (each x).bind fun _ => ih.bind fun _ => .same _

end AnsweredAlike

namespace Membership

/-! ### What is seen at a block -/

/-- Some entries as they are seen at a block: those that are active at it, with their keys and stakes. -/
def seenIn (entries : List (OperatorId × Registration)) (block : BlockNumber) :
    List (OperatorId × OperatorPubkeys × Stakes) :=
  (entries.filter fun e => e.2.activeAt block).map fun e => (e.1, e.2.pubkeys, e.2.stakes)

/-- What is seen at a block: the operators that are active at it, with their keys and stakes. -/
def seenAt (m : Membership) (block : BlockNumber) : SortedMap OperatorId (OperatorPubkeys × Stakes) :=
  (m.activeAt block).mapValues fun _ e => (e.pubkeys, e.stakes)

variable {C : PairingCurve} {m m' : Membership} {block : BlockNumber} {q : QuorumNum} {id : OperatorId}
  {entries entries' : List (OperatorId × Registration)}

/-- An operator is seen at a block with its keys and stakes if it is active there. -/
theorem get?_seenAt : (m.seenAt block).get? id =
    ((m.get? id).filter (·.activeAt block)).map fun e => (e.pubkeys, e.stakes) := by
  unfold seenAt
  rw [SortedMap.get?_mapValues, get?_activeAt]

/-- The query for operators reads what is seen and nothing else. -/
theorem operatorsAt_eq (quorums : List QuorumNum) : m.operatorsAt quorums block =
    ((m.seenAt block).mapValues fun id seen =>
      (⟨id, seen.1, seen.2.filter fun q _ => q ∈ quorums, block⟩ : OperatorState)).filter
        fun _ state => !state.stakes.isEmpty := by
  apply SortedMap.ext
  simp [operatorsAt, seenAt, SortedMap.filter, SortedMap.mapValues, Function.comp_def]

/-- So do the sums of a quorum, in the order of the entries. -/
theorem membersIn_eq : membersIn entries q block = (seenIn entries block).filterMap fun seen =>
    (seen.2.2.get? q).map fun stake => (seen.2.1.g1, stake) := by
  rw [seenIn, List.filterMap_map]
  rfl

/-- So does the stake of an operator. -/
theorem stakeAt_eq : m.stakeAt block q id = ((m.seenAt block).get? id).bind (·.2.get? q) := by
  unfold stakeAt seenAt
  rw [SortedMap.get?_mapValues, Option.bind_map]
  rfl

/-! ### Entries in any order -/

/-- The state of a quorum depends on the order of its members only in the key that is refused. -/
theorem quorumIn_alike (abelian : C.G1.Abelian)
    (same : (membersIn entries q block).Perm (membersIn entries' q block)) :
    AnsweredAlike (quorumIn C entries q block) (quorumIn C entries' q block) := by
  have total : ((membersIn entries q block).map (·.2)).foldl U256.saturatingAdd 0 =
      ((membersIn entries' q block).map (·.2)).foldl U256.saturatingAdd 0 := by
    rw [U256.foldl_saturatingAdd, U256.foldl_saturatingAdd, ((same.map _).map _).sum_nat]
  have keys := same.map Prod.fst
  unfold quorumIn
  dsimp only
  rw [same.isEmpty_eq, total]
  split
  next => exact .same _
  next =>
    cases summed : Bls.aggregateG1 C ((membersIn entries q block).map (·.1)) with
    | ok key =>
      rw [Bls.aggregateG1_of_perm abelian summed keys.symm]
      exact .same _
    | error e =>
      cases summed' : Bls.aggregateG1 C ((membersIn entries' q block).map (·.1)) with
      | ok key =>
        rw [Bls.aggregateG1_of_perm abelian summed' keys] at summed
        cases summed
      | error e' =>
        rcases PointGroup.cause_of_perm (keys.map _) (Bls.sumKeys_of_aggregateG1 summed)
          (Bls.sumKeys_of_aggregateG1 summed') with rfl | ⟨refuses, refuses'⟩
        · exact .same _
        · exact .refused refuses refuses'

/-- So it is with a list of quorums, since each is asked for by itself. -/
theorem quorumsIn_alike (abelian : C.G1.Abelian) (same : (seenIn entries block).Perm (seenIn entries' block))
    (quorums : List QuorumNum) :
    AnsweredAlike (quorumsIn C entries quorums block) (quorumsIn C entries' quorums block) := by
  refine AnsweredAlike.bind (AnsweredAlike.mapM (fun q => quorumIn_alike abelian ?_) quorums) fun _ => .same _
  rw [membersIn_eq, membersIn_eq]
  exact same.filterMap _

/-- What is not seen does not count. -/
theorem quorumsIn_congr (same : seenIn entries block = seenIn entries' block) (quorums : List QuorumNum) :
    quorumsIn C entries quorums block = quorumsIn C entries' quorums block := by
  unfold quorumsIn quorumIn
  simp only [membersIn_eq, same]

/-- An order in which a registry may go through its entries. -/
structure Listing (m : Membership) where
  entries : List (OperatorId × Registration)
  perm : entries.Perm m.toList

/-- The entries by ascending id. -/
def ascending (m : Membership) : m.Listing := ⟨m.toList, .refl _⟩

theorem Listing.perm_seenAt (o : m.Listing) : (seenIn o.entries block).Perm (m.seenAt block).toList :=
  (o.perm.filter _).map _

/-- Registries in which the same operators are seen at a block may show them in the same order. -/
theorem exists_listing (same : m.seenAt block = m'.seenAt block) (o : m.Listing) :
    ∃ o' : m'.Listing, seenIn o'.entries block = seenIn o.entries block := by
  -- Those that are active come first, in the order that is given, and the others after them.
  have pairs : List.Forall₂ (fun e e' => (e.1, e.2.pubkeys, e.2.stakes) = (e'.1, e'.2.pubkeys, e'.2.stakes))
      (m.toList.filter fun e => e.2.activeAt block) (m'.toList.filter fun e => e.2.activeAt block) := by
    have equal : seenIn m.toList block = seenIn m'.toList block := congrArg SortedMap.toList same
    unfold seenIn at equal
    rw [← List.forall₂_eq_eq_eq, List.forall₂_map_left_iff, List.forall₂_map_right_iff] at equal
    exact equal
  obtain ⟨active, shown, listed⟩ := List.perm_comp_forall₂ (o.perm.filter _) pairs
  refine ⟨⟨active ++ m'.toList.filter fun e => !e.2.activeAt block, ?_⟩, ?_⟩
  · exact (listed.append_right _).trans (List.filter_append_perm _ _)
  · have first : (active.filter fun e => e.2.activeAt block) = active :=
      List.filter_eq_self.2 fun e member => (List.mem_filter.1 (listed.mem_iff.1 member)).2
    have others : ((m'.toList.filter fun e => !e.2.activeAt block).filter fun e => e.2.activeAt block) =
        [] := by simp
    unfold seenIn
    rw [List.filter_append, first, others, List.append_nil, ← List.forall₂_eq_eq_eq,
      List.forall₂_map_left_iff, List.forall₂_map_right_iff]
    exact shown.flip.imp fun _ _ => Eq.symm

/-- The answers that may be given to questions about quorums at a block, depending on the order of the
entries. -/
def answersAt (C : PairingCurve) (m : Membership) (block : BlockNumber) :
    Set (List QuorumNum → Except ProviderError QuorumStates) :=
  Set.range fun (o : m.Listing) quorums => quorumsIn C o.entries quorums block

/-- Where the same is seen at a block, some order of the entries gives the same answers. -/
theorem answersAt_subset (C : PairingCurve) (same : m.seenAt block = m'.seenAt block) :
    m.answersAt C block ⊆ m'.answersAt C block := by
  rintro _ ⟨o, rfl⟩
  obtain ⟨o', shown⟩ := exists_listing same o
  exact ⟨o', funext fun quorums => quorumsIn_congr shown quorums⟩

/-- The answers to all questions about a block are the same, whatever the orders of the entries; only the key
may be another that an answer about quorums refuses. -/
structure AgreesAt (C : PairingCurve) (block : BlockNumber) (m m' : Membership) : Prop where
  operators : ∀ quorums, m.operatorsAt quorums block = m'.operatorsAt quorums block
  quorums : C.G1.Abelian → ∀ (o : m.Listing) (o' : m'.Listing) (quorums : List QuorumNum),
    AnsweredAlike (quorumsIn C o.entries quorums block) (quorumsIn C o'.entries quorums block)
  /-- Each answer that the one may give the other may give as well. -/
  choice : m.answersAt C block = m'.answersAt C block
  indices : ∀ quorums ids, m.indicesAt block quorums ids = m'.indicesAt block quorums ids

/-- Every answer about a block comes from what is seen at it. -/
theorem agreesAt_of_seenAt (C : PairingCurve) (same : m.seenAt block = m'.seenAt block) :
    m.AgreesAt C block m' := by
  constructor
  · intro quorums
    rw [operatorsAt_eq, same, operatorsAt_eq]
  · intro abelian o o' quorums
    refine quorumsIn_alike abelian (o.perm_seenAt.trans ?_) quorums
    rw [same]
    exact o'.perm_seenAt.symm
  · exact (answersAt_subset C same).antisymm (answersAt_subset C same.symm)
  · intro quorums ids
    simp only [indicesAt, ← isSome_stakeAt, stakeAt_eq, same]

end Membership

end Attestation
