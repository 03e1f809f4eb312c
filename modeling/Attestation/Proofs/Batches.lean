/-
Module: Attestation.Proofs.Batches
Purpose: Sums made one by one and sums made at once. The one way encodes and decodes every partial sum,
  the other keeps the point; they check their operands at different times. Where the encoding of a point
  of the subgroup is its only one, both give the same bytes, and a signature that cannot be added stops
  both with the same error. What is summed at once does not depend on the order.
Main exports: PointGroup.Faithful, PointGroup.IsKey, Bls.offence?, Bls.foldlM_addSignature,
  Bls.foldlM_addPublicKey, PointGroup.sumKeys_perm, Bls.incremental_eq_batch
-/
import Attestation.Proofs.PointSums

namespace Attestation

namespace PointGroup

variable {n : Nat} (G : PointGroup n)

/-- The points of the subgroup form an abelian group, and encoding and decoding them are inverse to each
other. -/
structure Faithful : Prop extends G.Abelian where
  canonical : ∀ {bytes p}, G.Encodes bytes p → G.encode p = bytes

/-- The bytes stand for a point that may be a public key: one of the subgroup that is not infinity. -/
def IsKey (bytes : Bytes n) : Prop := ∃ p, G.Encodes bytes p ∧ G.isIdentity p = false

variable {G} {bytes : Bytes n} {keys keys' : List (Bytes n)} {p : G.Point}

theorem IsKey.encodes (key : G.IsKey bytes) : G.Encodes bytes (G.point bytes) := by
  rcases key with ⟨p, encodes, -⟩
  simpa [encodes.point] using encodes

theorem IsKey.checkKey (key : G.IsKey bytes) : G.checkKey (G.point bytes) = .ok () := by
  rcases key with ⟨p, encodes, finite⟩
  simp [PointGroup.checkKey, encodes.point, finite, encodes.checkMember]

theorem members_of_encodes {α : Type} {bytes : α → Bytes n} {xs : List α}
    (each : ∀ x ∈ xs, G.Encodes (bytes x) (G.point (bytes x))) :
    ∀ p ∈ xs.map fun x => G.point (bytes x), G.Member p := by
  intro p listed
  rcases List.mem_map.1 listed with ⟨x, summand, rfl⟩
  exact (each x summand).member

/-- Keys have a sum, whatever their partial sums are. -/
theorem sumKeys_of_isKey (each : ∀ k ∈ keys, G.IsKey k) (nonempty : keys ≠ []) :
    G.sumKeys keys = .ok (G.encode ((keys.map G.point).foldl G.add G.identity)) := by
  have decoded : keys.mapM (G.decode .invalidPublicKey) = .ok (keys.map G.point) := by
    apply mapM_eq_ok_iff.2
    rw [List.forall₂_map_right_iff, List.forall₂_same]
    exact fun k listed => (each k listed).encodes.decode
  have checked : (keys.map G.point).forM G.checkKey = .ok () := by
    apply forM_eq_ok_iff.2
    simpa using fun k listed => (each k listed).checkKey
  unfold sumKeys
  rw [if_neg (by simpa using nonempty), decoded, ok_bind, checked, ok_bind]
  rfl

/-- The sum of keys does not depend on their order. -/
theorem sumKeys_perm (abelian : G.Abelian) (each : ∀ k ∈ keys, G.IsKey k) (same : keys.Perm keys') :
    G.sumKeys keys = G.sumKeys keys' := by
  cases keys with
  | nil => rw [same.nil_eq]
  | cons k rest =>
    have each' : ∀ k' ∈ keys', G.IsKey k' := fun k' listed => each k' (same.mem_iff.2 listed)
    have nonempty : keys' ≠ [] := by
      rintro rfl
      simpa using same.length_eq
    have members := members_of_encodes fun k listed => (each k listed).encodes
    rw [sumKeys_of_isKey each (List.cons_ne_nil k rest), sumKeys_of_isKey each' nonempty,
      abelian.foldl_perm (same.map G.point) abelian.identity members]

end PointGroup

namespace Bls

variable (C : PairingCurve)

/-- Why a signature cannot be added to a sum: it stands for no point, or for one outside the subgroup. -/
def offence? (s : Signature) : Option BlsError :=
  match C.G1.decode? s.bytes with
  | none => some .invalidSignature
  | some p => if C.G1.inSubgroup p then none else some .notInGroup

/-- Adds the point of a signature to a sum that is kept as a point. -/
def addPoint (sum : C.G1.Point) (s : Signature) : Except BlsError C.G1.Point :=
  match offence? C s with
  | none => .ok (C.G1.add sum (C.G1.point s.bytes))
  | some e => .error e

variable {C} {first s : Signature} {rest xs ys : List Signature} {p : C.G1.Point} {e : BlsError}

theorem offence?_eq_none_iff : offence? C s = none ↔ C.G1.Encodes s.bytes (C.G1.point s.bytes) := by
  unfold offence? PointGroup.Encodes PointGroup.point
  cases C.G1.decode? s.bytes <;> simp

/-- The check of a signature in a batch. -/
theorem decode_checked (sum : C.G1.Point) (s : Signature) :
    (C.G1.decode .invalidSignature s.bytes >>= fun q => C.G1.checkMember q >>= fun _ =>
      pure (C.G1.add sum q)) = addPoint C sum s := by
  unfold addPoint offence? PointGroup.decode PointGroup.point PointGroup.checkMember
  cases C.G1.decode? s.bytes with
  | none => rfl
  | some q => by_cases member : C.G1.inSubgroup q <;> simp [member, ok_bind, error_bind, pure, Except.pure]

/-- A batch of signatures is summed up as points. -/
theorem aggregateSignatures_cons (encodes : C.G1.Encodes first.bytes p) :
    aggregateSignatures C (first :: rest) =
      (rest.foldlM (addPoint C) p).map fun sum => ⟨C.G1.encode sum⟩ := by
  have steps : (fun sum (s : Signature) => C.G1.decode .invalidSignature s.bytes >>= fun q =>
      C.G1.checkMember q >>= fun _ => pure (C.G1.add sum q)) = addPoint C := by
    funext sum s
    exact decode_checked sum s
  rw [aggregateSignatures, encodes.decode, ok_bind, steps]
  cases rest.foldlM (addPoint C) p <;> rfl

/-- A sum kept as bytes is added to like one that is kept as a point. -/
theorem addSignature_eq (encodes : C.G1.Encodes first.bytes p) (s : Signature) :
    addSignature C first s = (addPoint C p s).map fun sum => ⟨C.G1.encode sum⟩ := by
  rw [← decode_checked]
  unfold addSignature
  rw [encodes.decode, ok_bind]
  cases C.G1.decode .invalidSignature s.bytes with
  | error e => rfl
  | ok q =>
    simp only [ok_bind]
    cases C.G1.checkMember q <;> rfl

/-- The partial sums that are encoded and decoded again are those of the points. -/
theorem foldlM_addSignature (faithful : C.G1.Faithful) :
    ∀ {first : Signature} {p : C.G1.Point}, C.G1.Encodes first.bytes p →
      rest.foldlM (addSignature C) first =
        (rest.foldlM (addPoint C) p).map fun sum => ⟨C.G1.encode sum⟩ := by
  induction rest with
  | nil =>
    intro first p encodes
    simp [pure, Except.pure, Except.map, faithful.canonical encodes]
  | cons s rest ih =>
    intro first p encodes
    rw [List.foldlM_cons, List.foldlM_cons, addSignature_eq encodes]
    unfold addPoint
    cases valid : offence? C s with
    | some e => rfl
    | none =>
      have added := faithful.encodes_add encodes (offence?_eq_none_iff.1 valid)
      exact ih added

/-- The first signature that cannot be added is the one that stops a sum. -/
theorem foldlM_addPoint_eq_error_iff :
    ∀ {p : C.G1.Point}, rest.foldlM (addPoint C) p = .error e ↔
      rest.findSome? (offence? C) = some e := by
  induction rest with
  | nil => simp [pure, Except.pure]
  | cons s rest ih =>
    intro p
    rw [List.foldlM_cons, List.findSome?_cons]
    unfold addPoint
    cases offence? C s with
    | some e' => simp [error_bind]
    | none => exact ih

/-- Signatures that can be added have a sum. -/
theorem foldlM_addPoint (each : ∀ s ∈ rest, offence? C s = none) : ∀ {p : C.G1.Point},
    rest.foldlM (addPoint C) p = .ok ((rest.map fun s => C.G1.point s.bytes).foldl C.G1.add p) := by
  induction rest with
  | nil => simp [pure, Except.pure]
  | cons s rest ih =>
    rcases List.forall_mem_cons.1 each with ⟨valid, each⟩
    intro p
    rw [List.foldlM_cons, addPoint, valid]
    exact ih each

/-- A batch of signatures that can be added is the encoding of the sum of their points. -/
theorem aggregateSignatures_of_valid (abelian : C.G1.Abelian) (each : ∀ s ∈ xs, offence? C s = none)
    (nonempty : xs ≠ []) : aggregateSignatures C xs =
      .ok ⟨C.G1.encode ((xs.map fun s => C.G1.point s.bytes).foldl C.G1.add C.G1.identity)⟩ := by
  cases xs with
  | nil => exact absurd rfl nonempty
  | cons first rest =>
    rcases List.forall_mem_cons.1 each with ⟨valid, each⟩
    have encodes := offence?_eq_none_iff.1 valid
    rw [aggregateSignatures_cons encodes, foldlM_addPoint each, List.map_cons, List.foldl_cons,
      abelian.identity_add encodes.member]
    rfl

theorem aggregateSignatures_perm (abelian : C.G1.Abelian) (each : ∀ s ∈ xs, offence? C s = none)
    (same : xs.Perm ys) : aggregateSignatures C xs = aggregateSignatures C ys := by
  cases xs with
  | nil => rw [same.nil_eq]
  | cons s rest =>
    have each' : ∀ y ∈ ys, offence? C y = none := fun y listed => each y (same.mem_iff.2 listed)
    have nonempty : ys ≠ [] := by
      rintro rfl
      simpa using same.length_eq
    have members := PointGroup.members_of_encodes fun s listed => offence?_eq_none_iff.1 (each s listed)
    rw [aggregateSignatures_of_valid abelian each (List.cons_ne_nil s rest),
      aggregateSignatures_of_valid abelian each' nonempty,
      abelian.foldl_perm (same.map _) abelian.identity members]

/-- Keys that are added one by one have the sum of their points, infinite partial sums included. -/
theorem foldlM_addPublicKey (faithful : C.G2.Faithful) {keys : List G2PublicKey} :
    ∀ {first : G2PublicKey} {u : C.G2.Point}, C.G2.Encodes first.bytes u →
      (∀ k ∈ keys, C.G2.IsKey k.bytes) → keys.foldlM (addPublicKey C) first =
        .ok ⟨C.G2.encode ((keys.map fun k => C.G2.point k.bytes).foldl C.G2.add u)⟩ := by
  induction keys with
  | nil =>
    intro first u encodes _
    simp [pure, Except.pure, faithful.canonical encodes]
  | cons k rest ih =>
    intro first u encodes each
    rcases List.forall_mem_cons.1 each with ⟨⟨v, key, finite⟩, each⟩
    have added := faithful.encodes_add encodes key
    rw [List.foldlM_cons, addPublicKey_of_encodes encodes key finite, ok_bind]
    simpa [key.point] using ih added each

theorem aggregateG2_of_isKey {keys : List G2PublicKey} (each : ∀ k ∈ keys, C.G2.IsKey k.bytes)
    (nonempty : keys ≠ []) : aggregateG2 C keys =
      .ok ⟨C.G2.encode ((keys.map fun k => C.G2.point k.bytes).foldl C.G2.add C.G2.identity)⟩ := by
  have summed : C.G2.sumKeys (keys.map (·.bytes)) = .ok _ :=
    PointGroup.sumKeys_of_isKey (by simpa using each) (by simpa using nonempty)
  unfold aggregateG2
  rw [summed, ok_bind, List.map_map]
  rfl

/-- Whether signatures are summed up one by one or at once, the result is the same, and so is the error
of the first signature that cannot be added. Keys have the same sum either way, whatever their partial
sums are. The sum of valid signatures, or of keys of either group, does not depend on their order. -/
theorem incremental_eq_batch (C : PairingCurve) (signatures : C.G1.Faithful) (keys : C.G2.Faithful) :
    (∀ (first : Signature) (rest : List Signature) p, C.G1.Encodes first.bytes p →
      rest.foldlM (addSignature C) first = aggregateSignatures C (first :: rest) ∧
      ∀ e, aggregateSignatures C (first :: rest) = .error e ↔
        rest.findSome? (offence? C) = some e) ∧
    (∀ (first : G2PublicKey) (rest : List G2PublicKey),
      (∀ k ∈ first :: rest, C.G2.IsKey k.bytes) →
      ∃ sum, aggregateG2 C (first :: rest) = .ok sum ∧ rest.foldlM (addPublicKey C) first = .ok sum) ∧
    (∀ xs ys : List Signature, xs.Perm ys → (∀ s ∈ xs, ∃ p, C.G1.Encodes s.bytes p) →
      aggregateSignatures C xs = aggregateSignatures C ys) ∧
    (∀ xs ys : List G2PublicKey, xs.Perm ys → (∀ k ∈ xs, C.G2.IsKey k.bytes) →
      aggregateG2 C xs = aggregateG2 C ys) ∧
    ∀ xs ys : List G1PublicKey, xs.Perm ys → (∀ k ∈ xs, C.G1.IsKey k.bytes) →
      aggregateG1 C xs = aggregateG1 C ys ∧ (xs ≠ [] → ∃ sum, aggregateG1 C xs = .ok sum) := by
  refine ⟨?_, ?_, ?_, ?_, ?_⟩
  · intro first rest p encodes
    rw [foldlM_addSignature signatures encodes, aggregateSignatures_cons encodes]
    refine ⟨rfl, fun e => ?_⟩
    rw [← foldlM_addPoint_eq_error_iff (p := p)]
    cases rest.foldlM (addPoint C) p <;> simp [Except.map]
  · intro first rest each
    rcases List.forall_mem_cons.1 each with ⟨⟨u, encodes, -⟩, others⟩
    refine ⟨_, aggregateG2_of_isKey each (List.cons_ne_nil first rest), ?_⟩
    rw [foldlM_addPublicKey keys encodes others, List.map_cons, List.foldl_cons, encodes.point,
      keys.identity_add encodes.member]
  · intro xs ys same each
    apply aggregateSignatures_perm signatures.toAbelian _ same
    intro s listed
    rcases each s listed with ⟨p, encodes⟩
    apply offence?_eq_none_iff.2
    simpa [encodes.point] using encodes
  · intro xs ys same each
    unfold aggregateG2
    rw [PointGroup.sumKeys_perm keys.toAbelian (by simpa using each) (same.map _)]
  · intro xs ys same each
    have each' : ∀ k ∈ xs.map (·.bytes), C.G1.IsKey k := by simpa using each
    unfold aggregateG1
    refine ⟨by rw [PointGroup.sumKeys_perm signatures.toAbelian each' (same.map _)], ?_⟩
    intro nonempty
    rw [PointGroup.sumKeys_of_isKey each' (by simpa using nonempty)]
    exact ⟨_, rfl⟩

end Bls

namespace SampleCurve

variable {n m : Nat} [NeZero m]

theorem faithful_residues (abelian : (residues n m).Abelian) : (residues n m).Faithful where
  toAbelian := abelian
  canonical := by
    rintro bytes p ⟨decoded, -⟩
    change (if h : bytes.toNat < m then some (⟨_, h⟩ : Fin m) else none) = some p at decoded
    split at decoded
    · cases decoded
      exact Bytes.ofNat_toNat bytes
    · cases decoded

end SampleCurve

/-- The partial sums of the first two signatures and of the first two keys are infinity. The number three
is a point outside the subgroup, and twelve is none. -/
theorem incremental_eq_batch_sample_sums :
    let C := SampleCurve.curve
    let s (v : Nat) : Signature := ⟨.ofNat 48 v⟩
    let keys := [SampleCurve.key 1, SampleCurve.key 4, SampleCurve.key 2]
    [s 8, s 4].foldlM (Bls.addSignature C) (s 2) = Bls.aggregateSignatures C [s 2, s 8, s 4] ∧
    Bls.aggregateSignatures C [s 2, s 8, s 3, s 12] = .error .notInGroup ∧
    (∃ sum, Bls.aggregateG2 C keys = .ok sum ∧
      [SampleCurve.key 4, SampleCurve.key 2].foldlM (Bls.addPublicKey C) (SampleCurve.key 1) = .ok sum) ∧
    Bls.aggregateSignatures C [s 2, s 8, s 4] = Bls.aggregateSignatures C [s 4, s 8, s 2] ∧
    Bls.aggregateG2 C keys = Bls.aggregateG2 C keys.reverse ∧
    Bls.aggregateG1 C [⟨.ofNat 48 2⟩, ⟨.ofNat 48 6⟩] = Bls.aggregateG1 C [⟨.ofNat 48 6⟩, ⟨.ofNat 48 2⟩] := by
  intro C s keys
  obtain ⟨sums, keySums, signatures, secondGroup, firstGroup⟩ := Bls.incremental_eq_batch C
    (SampleCurve.faithful_residues SampleCurve.abelian_signatures)
    (SampleCurve.faithful_residues SampleCurve.abelian_keys)
  have encodes : ∀ p : Fin 10, 5 * p = 0 → C.G1.Encodes (.ofNat 48 p.val) p :=
    fun p member => SampleCurve.encodes_residues (by decide) member
  have encodesKey : ∀ u : Fin 15, 5 * u = 0 → C.G2.Encodes (.ofNat 96 u.val) u :=
    fun u member => SampleCurve.encodes_residues (by decide) member
  have valid : ∀ x ∈ [s 2, s 8, s 4], ∃ p, C.G1.Encodes x.bytes p := by
    simp only [List.forall_mem_cons]
    exact ⟨⟨_, encodes 2 rfl⟩, ⟨_, encodes 8 rfl⟩, ⟨_, encodes 4 rfl⟩, nofun⟩
  have keyed : ∀ k ∈ keys, C.G2.IsKey k.bytes := by
    simp only [keys, List.forall_mem_cons]
    exact ⟨⟨_, encodesKey 3 rfl, rfl⟩, ⟨_, encodesKey 12 rfl, rfl⟩, ⟨_, encodesKey 6 rfl, rfl⟩, nofun⟩
  have keyed' : ∀ k ∈ [(⟨.ofNat 48 2⟩ : G1PublicKey), ⟨.ofNat 48 6⟩], C.G1.IsKey k.bytes := by
    simp only [List.forall_mem_cons]
    exact ⟨⟨_, encodes 2 rfl, rfl⟩, ⟨_, encodes 6 rfl, rfl⟩, nofun⟩
  refine ⟨(sums (s 2) [s 8, s 4] _ (encodes 2 rfl)).1, ?_, keySums _ _ keyed,
    signatures _ _ (List.reverse_perm _).symm valid, secondGroup _ _ (List.reverse_perm _).symm keyed,
    (firstGroup _ _ (List.reverse_perm _).symm keyed').1⟩
  exact ((sums (s 2) [s 8, s 3, s 12] _ (encodes 2 rfl)).2 _).2 (by decide +kernel)

end Attestation
