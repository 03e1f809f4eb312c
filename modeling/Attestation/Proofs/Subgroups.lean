/-
Module: Attestation.Proofs.Subgroups
Purpose: What the curve has to guarantee for signatures to be added. Points of the subgroup that have an
  encoding are closed under addition and survive being encoded; then every sum that is kept as bytes
  stands for the sum of the points that were put in, infinity included, and no later addition to it
  fails.
Main exports: PointGroup.Encodes, PointGroup.Member, PointGroup.Closed, PointGroup.sum, SumOf.relates,
  Bls.verify_eq_true_iff, Bls.encodes_addSignature, Bls.encodes_addPublicKey, Judge.pairing,
  Contributes, Ledger.sums, SampleCurve.closed_signatures, SampleCurve.closed_keys
-/
import Attestation.Proofs.Accounting
import Attestation.Fixture.SampleCurve

namespace Attestation

namespace PointGroup

variable {n : Nat} (G : PointGroup n)

/-- The bytes stand for a point of the subgroup. -/
def Encodes (bytes : Bytes n) (p : G.Point) : Prop := G.decode? bytes = some p ∧ G.inSubgroup p = true

/-- A point of the subgroup that some bytes stand for. The type of points may contain others, of which
nothing is known. -/
def Member (p : G.Point) : Prop := ∃ bytes, G.Encodes bytes p

/-- The subgroup is closed under addition, and the encoding of each of its points is read back. -/
structure Closed : Prop where
  add : ∀ {p q}, G.Member p → G.Member q → G.Member (G.add p q)
  encode : ∀ {p}, G.Member p → G.Encodes (G.encode p) p

/-- The sum of points, added one after another to the first. -/
def sum : List G.Point → G.Point
  | [] => G.identity
  | p :: rest => rest.foldl G.add p

variable {G} {bytes other : Bytes n} {p q : G.Point} {e : BlsError}

theorem Encodes.member (encodes : G.Encodes bytes p) : G.Member p := ⟨bytes, encodes⟩

theorem Encodes.decode (encodes : G.Encodes bytes p) : G.decode e bytes = .ok p := by
  rw [PointGroup.decode, encodes.1]

theorem Encodes.checkMember (encodes : G.Encodes bytes p) : G.checkMember p = .ok () := if_pos encodes.2

theorem decode_eq_ok_iff : G.decode e bytes = .ok p ↔ G.decode? bytes = some p := by
  unfold decode
  cases G.decode? bytes <;> simp

/-- The encoding of a sum stands for the sum. -/
theorem Closed.encodes_add (closed : G.Closed) (left : G.Encodes bytes p) (right : G.Encodes other q) :
    G.Encodes (G.encode (G.add p q)) (G.add p q) :=
  closed.encode (closed.add left.member right.member)

end PointGroup

/-- If single additions respect a relation to points, then so does a whole sum. -/
theorem SumOf.relates {n : Nat} {G : PointGroup n} {ε α : Type} {R : α → G.Point → Prop}
    {add : α → α → Except ε α} {xs : List α} {ps : List G.Point} {total : α} (so : SumOf add xs total)
    (step : ∀ {a b c p q}, R a p → R b q → add a b = .ok c → R c (G.add p q))
    (pairs : List.Forall₂ R xs ps) : R total (G.sum ps) := by
  cases pairs with
  | nil => cases so
  | cons first rest =>
    rename_i a p xs ps
    -- The sum so far is general, since the induction goes through the summands from the front.
    show R total (ps.foldl G.add p)
    change xs.foldlM add a = .ok total at so
    induction rest generalizing a p with
    | nil =>
      cases so
      exact first
    | cons next _ ih =>
      obtain ⟨larger, added, so⟩ := bind_eq_ok_iff.1 so
      exact ih (step first next added) so

namespace Bls

variable {C : PairingCurve} {d : Digest} {a b s : Signature} {k l : G2PublicKey} {p q : C.G1.Point}
  {u v : C.G2.Point}

/-- A signature is valid exactly if it and the key stand for points of the subgroups, the key is not at
infinity, and the pairings agree. -/
theorem verify_eq_true_iff : verify C d s k = .ok true ↔ ∃ p u, C.G1.Encodes s.bytes p ∧
    C.G2.Encodes k.bytes u ∧ C.G2.isIdentity u = false ∧
    C.pair p C.generator = C.pair (C.hashToG1 d) u := by
  unfold verify
  constructor
  · intro h
    obtain ⟨p, hp, h⟩ := bind_eq_ok_iff.1 h
    obtain ⟨u, hu, h⟩ := bind_eq_ok_iff.1 h
    have valid := Except.ok.inj h
    simp only [Bool.and_eq_true, Bool.not_eq_true', decide_eq_true_eq] at valid
    obtain ⟨⟨⟨signature, finite⟩, key⟩, same⟩ := valid
    exact ⟨p, u, ⟨PointGroup.decode_eq_ok_iff.1 hp, signature⟩,
      ⟨PointGroup.decode_eq_ok_iff.1 hu, key⟩, finite, same⟩
  · rintro ⟨p, u, signature, key, finite, same⟩
    refine bind_eq_ok_iff.2 ⟨p, signature.decode, bind_eq_ok_iff.2 ⟨u, key.decode, ?_⟩⟩
    simp [signature.2, key.2, finite, same, pure, Except.pure]

/-- Where both stand for points of the subgroups and the pairings agree, only infinity is refused. -/
theorem verify_of_encodes (signature : C.G1.Encodes s.bytes p) (key : C.G2.Encodes k.bytes u)
    (same : C.pair p C.generator = C.pair (C.hashToG1 d) u) :
    verify C d s k = .ok (!C.G2.isIdentity u) := by
  unfold verify
  rw [signature.decode, key.decode, ok_bind, ok_bind]
  simp [signature.2, key.2, same, pure, Except.pure]

theorem addSignature_of_encodes (left : C.G1.Encodes a.bytes p) (right : C.G1.Encodes b.bytes q) :
    addSignature C a b = .ok ⟨C.G1.encode (C.G1.add p q)⟩ := by
  unfold addSignature
  rw [left.decode, right.decode, ok_bind, ok_bind, right.checkMember]
  rfl

/-- Only a key at infinity cannot be added; the sum may well be at infinity. -/
theorem addPublicKey_of_encodes (left : C.G2.Encodes k.bytes u) (right : C.G2.Encodes l.bytes v)
    (finite : C.G2.isIdentity v = false) :
    addPublicKey C k l = .ok ⟨C.G2.encode (C.G2.add u v)⟩ := by
  unfold addPublicKey PointGroup.addKey PointGroup.checkKey
  rw [left.decode, right.decode, ok_bind, ok_bind, finite, right.checkMember]
  rfl

theorem bytes_addSignature {sum : Signature} (left : C.G1.Encodes a.bytes p)
    (right : C.G1.Encodes b.bytes q) (added : addSignature C a b = .ok sum) :
    sum.bytes = C.G1.encode (C.G1.add p q) := by
  rw [addSignature_of_encodes left right] at added
  cases added
  rfl

/-- Whatever is added to a key, the result is the encoding of a sum. -/
theorem bytes_addPublicKey {sum : G2PublicKey} (left : C.G2.Encodes k.bytes u)
    (right : C.G2.Encodes l.bytes v) (added : addPublicKey C k l = .ok sum) :
    sum.bytes = C.G2.encode (C.G2.add u v) := by
  unfold addPublicKey PointGroup.addKey at added
  rw [left.decode, right.decode, ok_bind, ok_bind] at added
  obtain ⟨_, summed, added⟩ := bind_eq_ok_iff.1 added
  obtain ⟨_, -, summed⟩ := bind_eq_ok_iff.1 summed
  cases summed
  cases added
  rfl

/-- What was added to a signature stands for the sum of the points. -/
theorem encodes_addSignature (closed : C.G1.Closed) {sum : Signature}
    (left : C.G1.Encodes a.bytes p) (right : C.G1.Encodes b.bytes q)
    (added : addSignature C a b = .ok sum) : C.G1.Encodes sum.bytes (C.G1.add p q) := by
  rw [bytes_addSignature left right added]
  exact closed.encodes_add left right

theorem encodes_addPublicKey (closed : C.G2.Closed) {sum : G2PublicKey}
    (left : C.G2.Encodes k.bytes u) (right : C.G2.Encodes l.bytes v)
    (added : addPublicKey C k l = .ok sum) : C.G2.Encodes sum.bytes (C.G2.add u v) := by
  rw [bytes_addPublicKey left right added]
  exact closed.encodes_add left right

end Bls

/-- Decides with the pairing. -/
def Judge.pairing {ρ : Type} (C : PairingCurve) (hash : Hasher ρ) : Judge ρ := ⟨C, hash, pairingVerifier C⟩

theorem pairingVerifier_eq_true_iff {C : PairingCurve} {d : Digest} {s : Signature} {k : G2PublicKey} :
    pairingVerifier C d s k = .ok true ↔ Bls.verify C d s k = .ok true := by
  unfold pairingVerifier
  cases Bls.verify C d s k <;> simp

/-- The points that an accepted submission contributes: its signature and the operator's key stand for
them, and the one is a signature of the digest under the other. -/
structure Contributes {ρ : Type} (C : PairingCurve) (n : Snapshot) (a : Acceptance ρ)
    (points : C.G1.Point × C.G2.Point) : Prop where
  signature : C.G1.Encodes a.signature.bytes points.1
  key : ∃ k, n.verificationKey? a.operator = some k ∧ C.G2.Encodes k.bytes points.2
  finite : C.G2.isIdentity points.2 = false
  valid : C.pair points.1 C.generator = C.pair (C.hashToG1 a.digest) points.2

section Contributions

variable {ρ : Type} {C : PairingCurve} {hash : Hasher ρ} {n : Snapshot}

theorem Acceptance.Vouched.contributes {a : Acceptance ρ} (vouched : a.Vouched (.pairing C hash) n) :
    ∃ points, Contributes C n a points := by
  obtain ⟨operator, key, member, has, -, verified⟩ := vouched
  obtain ⟨p, u, signature, encodes, finite, valid⟩ :=
    Bls.verify_eq_true_iff.1 (pairingVerifier_eq_true_iff.1 verified)
  refine ⟨(p, u), signature, ⟨key, ?_, encodes⟩, finite, valid⟩
  rw [Snapshot.verificationKey?, member, Option.bind_some, has]

/-- Every element of a list has a partner if each of them has one. -/
theorem exists_forall₂ {α β : Type} {R : α → β → Prop} {xs : List α} (each : ∀ a ∈ xs, ∃ b, R a b) :
    ∃ ys, List.Forall₂ R xs ys := by
  induction xs with
  | nil => exact ⟨[], .nil⟩
  | cons a rest ih =>
    obtain ⟨b, first⟩ := each a List.mem_cons_self
    obtain ⟨ys, later⟩ := ih fun x member => each x (List.mem_cons_of_mem a member)
    exact ⟨b :: ys, .cons first later⟩

/-- The keys of the signers that contribute, in their order. -/
theorem Contributes.keys {signing : List (Acceptance ρ)} {points : List (C.G1.Point × C.G2.Point)}
    (contributed : List.Forall₂ (Contributes C n) signing points) :
    List.Forall₂ (fun k u => C.G2.Encodes (G2PublicKey.bytes k) u)
      (signing.filterMap fun a => n.verificationKey? a.operator) (points.map (·.2)) := by
  induction contributed with
  | nil => exact .nil
  | cons first _ ih =>
    obtain ⟨k, found, encodes⟩ := first.key
    rw [List.filterMap_cons, found]
    exact .cons encodes ih

/-- The sums of an aggregate stand for the sums of what its signers contributed. -/
theorem Ledger.sums (signatures : C.G1.Closed) (keys : C.G2.Closed) {t : TaskParameters}
    {accepted : List (Acceptance ρ)} {s : TaskState ρ} (ledger : Ledger (.pairing C hash) t n accepted s)
    {d : Digest} {g : Aggregate} (found : s.aggregates.get? d = some g) :
    ∃ points, List.Forall₂ (Contributes C n) (signing accepted d) points ∧
      C.G1.Encodes g.signature.bytes (C.G1.sum (points.map (·.1))) ∧
      C.G2.Encodes g.key.bytes (C.G2.sum (points.map (·.2))) := by
  obtain ⟨points, contributed⟩ := exists_forall₂ fun a (listed : a ∈ signing accepted d) =>
    (ledger.vouched a (mem_signing.1 listed).1).contributes
  have described := ledger.described d g found
  have signed : List.Forall₂ (fun s p => C.G1.Encodes (Signature.bytes s) p)
      ((signing accepted d).map (·.signature)) (points.map (·.1)) := by
    rw [List.forall₂_map_left_iff, List.forall₂_map_right_iff]
    exact contributed.imp fun _ _ c => c.signature
  refine ⟨points, contributed, ?_, ?_⟩
  · exact described.signature.relates (Bls.encodes_addSignature signatures) signed
  · exact described.key.relates (Bls.encodes_addPublicKey keys) (Contributes.keys contributed)

end Contributions

namespace SampleCurve

variable {n m : Nat} [NeZero m]

theorem encodes_residues (fits : m ≤ LittleEndian.bound n) {p : Fin m} (member : 5 * p = 0) :
    (residues n m).Encodes (.ofNat n p.val) p := by
  have value : (Bytes.ofNat n p.val).toNat = p.val := by
    rw [Bytes.toNat_ofNat, Nat.mod_eq_of_lt (Nat.lt_of_lt_of_le p.isLt fits)]
  constructor
  · show (if h : (Bytes.ofNat n p.val).toNat < m then some (⟨_, h⟩ : Fin m) else none) = some p
    rw [dif_pos (lt_of_eq_of_lt value p.isLt)]
    exact congrArg some (Fin.ext value)
  · exact decide_eq_true member

theorem closed_residues (fits : m ≤ LittleEndian.bound n)
    (sums : ∀ p q : Fin m, 5 * p = 0 → 5 * q = 0 → 5 * (p + q) = 0) : (residues n m).Closed where
  add := by
    rintro p q ⟨_, -, left⟩ ⟨_, -, right⟩
    exact (encodes_residues fits (sums p q (of_decide_eq_true left) (of_decide_eq_true right))).member
  encode := by
    rintro p ⟨_, -, member⟩
    exact encodes_residues fits (of_decide_eq_true member)

theorem closed_signatures : curve.G1.Closed := closed_residues (by decide) (by decide)

theorem closed_keys : curve.G2.Closed := closed_residues (by decide) (by decide)

end SampleCurve

end Attestation
