/-
Module: Attestation.Proofs.PointSums
Purpose: Sums of points in any order. Where the points of the subgroup form an abelian group, a sum does
  not depend on the order of its summands, and neither do the bytes that are kept of it: a single summand
  is kept as it came, and every larger sum is the encoding of the point.
Main exports: PointGroup.Abelian, PointGroup.Abelian.sum_perm, PointGroup.Abelian.sum_append,
  SumOf.bytes_eq_of_perm, Bls.encodes_of_aggregateG1, SampleCurve.abelian_signatures,
  SampleCurve.abelian_keys
-/
import Attestation.Proofs.Subgroups

namespace Attestation

namespace PointGroup

variable {n : Nat} (G : PointGroup n)

/-- The points of the subgroup form an abelian group under addition. No use is made of inverses. -/
structure Abelian : Prop extends G.Closed where
  identity : G.Member G.identity
  identity_add : ∀ {p}, G.Member p → G.add G.identity p = p
  comm : ∀ {p q}, G.Member p → G.Member q → G.add p q = G.add q p
  assoc : ∀ {p q r}, G.Member p → G.Member q → G.Member r →
    G.add (G.add p q) r = G.add p (G.add q r)

namespace Abelian

variable {G} (abelian : G.Abelian) {ps qs : List G.Point} {p : G.Point}

include abelian

/-- The order in which points are added to another does not count. -/
theorem foldl_perm (same : ps.Perm qs) : ∀ {p : G.Point}, G.Member p → (∀ q ∈ ps, G.Member q) →
    ps.foldl G.add p = qs.foldl G.add p := by
  induction same with
  | nil => intros; rfl
  | cons q _ ih =>
    intro p start members
    obtain ⟨first, members⟩ := List.forall_mem_cons.1 members
    exact ih (abelian.add start first) members
  | swap q r rest =>
    intro p start members
    simp only [List.forall_mem_cons] at members
    have exchange : G.add (G.add p r) q = G.add (G.add p q) r := by
      rw [abelian.assoc start members.1 members.2.1, abelian.comm members.1 members.2.1,
        abelian.assoc start members.2.1 members.1]
    simp only [List.foldl_cons, exchange]
  | trans first _ ih₁ ih₂ =>
    intro p start members
    have members' := fun q listed => members q (first.mem_iff.2 listed)
    exact (ih₁ start members).trans (ih₂ start members')

/-- Points that are added one after another to a point may as well be summed up first. -/
theorem foldl_eq_add (members : ∀ q ∈ ps, G.Member q) : ∀ {p : G.Point}, G.Member p →
    ps.foldl G.add p = G.add p (ps.foldl G.add G.identity) ∧
      G.Member (ps.foldl G.add G.identity) := by
  induction ps with
  | nil =>
    intro p start
    refine ⟨?_, abelian.identity⟩
    rw [List.foldl_nil, List.foldl_nil, abelian.comm start abelian.identity, abelian.identity_add start]
  | cons q rest ih =>
    intro p start
    obtain ⟨first, members⟩ := List.forall_mem_cons.1 members
    obtain ⟨fromSum, sum⟩ := ih members (abelian.add start first)
    obtain ⟨fromFirst, -⟩ := ih members first
    rw [List.foldl_cons, List.foldl_cons, abelian.identity_add first, fromSum, fromFirst]
    exact ⟨abelian.assoc start first sum, abelian.add first sum⟩

theorem sum_eq_foldl (members : ∀ q ∈ ps, G.Member q) : G.sum ps = ps.foldl G.add G.identity := by
  cases ps with
  | nil => rfl
  | cons p rest =>
    have first := members p List.mem_cons_self
    simp only [sum, List.foldl_cons, abelian.identity_add first]

/-- A sum does not depend on the order of its summands. -/
theorem sum_perm (same : ps.Perm qs) (members : ∀ p ∈ ps, G.Member p) : G.sum ps = G.sum qs := by
  have members' : ∀ q ∈ qs, G.Member q := fun q listed => members q (same.mem_iff.2 listed)
  rw [abelian.sum_eq_foldl members, abelian.sum_eq_foldl members']
  exact abelian.foldl_perm same abelian.identity members

/-- A list may be summed up in two parts. -/
theorem sum_append (left : ∀ p ∈ ps, G.Member p) (right : ∀ q ∈ qs, G.Member q) :
    G.sum (ps ++ qs) = G.add (G.sum ps) (G.sum qs) := by
  have both : ∀ p ∈ ps ++ qs, G.Member p := by
    intro p listed
    exact (List.mem_append.1 listed).elim (left p) (right p)
  have first := (abelian.foldl_eq_add left abelian.identity).2
  rw [abelian.sum_eq_foldl both, abelian.sum_eq_foldl left, abelian.sum_eq_foldl right,
    List.foldl_append]
  exact (abelian.foldl_eq_add right first).1

end Abelian

/-- The point that bytes stand for; infinity if they stand for none. -/
def point (bytes : Bytes n) : G.Point := (G.decode? bytes).getD G.identity

theorem Encodes.point {G : PointGroup n} {bytes : Bytes n} {p : G.Point} (encodes : G.Encodes bytes p) :
    G.point bytes = p := by
  rw [PointGroup.point, encodes.1, Option.getD_some]

variable {G}

theorem inSubgroup_of_checkKey {p : G.Point} (valid : G.checkKey p = .ok ()) : G.inSubgroup p = true := by
  unfold checkKey checkMember at valid
  cases member : G.inSubgroup p with
  | true => rfl
  | false =>
    rw [member] at valid
    cases finite : G.isIdentity p <;> simp [finite] at valid

theorem encodes_of_decoded {keys : List (Bytes n)} {points : List G.Point} {e : BlsError}
    (decoded : List.Forall₂ (fun k p => G.decode e k = .ok p) keys points)
    (checked : ∀ p ∈ points, G.checkKey p = .ok ()) :
    (∀ k ∈ keys, G.Encodes k (G.point k)) ∧ keys.map G.point = points := by
  induction decoded with
  | nil => exact ⟨nofun, rfl⟩
  | cons first _ ih =>
    obtain ⟨valid, checked⟩ := List.forall_mem_cons.1 checked
    obtain ⟨each, same⟩ := ih checked
    have encodes : G.Encodes _ _ := ⟨decode_eq_ok_iff.1 first, inSubgroup_of_checkKey valid⟩
    rw [List.forall_mem_cons, List.map_cons, encodes.point, same]
    exact ⟨⟨encodes, each⟩, rfl⟩

/-- Where keys have a sum, each of them stands for a point of the subgroup, and the sum is the encoding
of the sum of these points. -/
theorem encodes_of_sumKeys {keys : List (Bytes n)} {sum : Bytes n} (summed : G.sumKeys keys = .ok sum) :
    (∀ k ∈ keys, G.Encodes k (G.point k)) ∧
      sum = G.encode ((keys.map G.point).foldl G.add G.identity) := by
  unfold sumKeys at summed
  split at summed
  · cases summed
  obtain ⟨points, decoded, rest⟩ := bind_eq_ok_iff.1 summed
  obtain ⟨_, checked, same⟩ := bind_eq_ok_iff.1 rest
  cases same
  obtain ⟨each, same⟩ := encodes_of_decoded (mapM_eq_ok_iff.1 decoded) (forM_eq_ok_iff.1 checked)
  rw [same]
  exact ⟨each, rfl⟩

end PointGroup

section Sums

variable {n : Nat} {G : PointGroup n} {ε α : Type} {bytes : α → Bytes n} {add : α → α → Except ε α}

/-- What is kept of a sum that something was added to is the encoding of the point. -/
theorem bytes_foldlM (closed : G.Closed)
    (step : ∀ {a b c p q}, G.Encodes (bytes a) p → G.Encodes (bytes b) q → add a b = .ok c →
      bytes c = G.encode (G.add p q)) {total : α} :
    ∀ {xs : List α} {a : α} {p : G.Point}, G.Member p → bytes a = G.encode p →
      (∀ x ∈ xs, ∃ q, G.Encodes (bytes x) q) → xs.foldlM add a = .ok total →
      bytes total = G.encode ((xs.map fun x => G.point (bytes x)).foldl G.add p) := by
  intro xs
  induction xs with
  | nil =>
    intro a p _ same _ done
    cases done
    exact same
  | cons x rest ih =>
    intro a p start same each done
    obtain ⟨larger, added, done⟩ := bind_eq_ok_iff.1 done
    obtain ⟨⟨q, encodes⟩, each⟩ := List.forall_mem_cons.1 each
    have sum : bytes larger = G.encode (G.add p q) := by
      apply step ?_ encodes added
      rw [same]
      exact closed.encode start
    rw [List.map_cons, List.foldl_cons, encodes.point]
    exact ih (closed.add start encodes.member) sum each done

/-- A sum of two or more summands is the encoding of the sum of their points. -/
theorem SumOf.bytes_eq (closed : G.Closed)
    (step : ∀ {a b c p q}, G.Encodes (bytes a) p → G.Encodes (bytes b) q → add a b = .ok c →
      bytes c = G.encode (G.add p q)) {x y total : α} {rest : List α}
    (each : ∀ a ∈ x :: y :: rest, ∃ p, G.Encodes (bytes a) p)
    (so : SumOf add (x :: y :: rest) total) :
    bytes total = G.encode (G.sum ((x :: y :: rest).map fun a => G.point (bytes a))) := by
  obtain ⟨larger, added, so⟩ := bind_eq_ok_iff.1 so
  obtain ⟨⟨p, first⟩, each⟩ := List.forall_mem_cons.1 each
  obtain ⟨⟨q, second⟩, each⟩ := List.forall_mem_cons.1 each
  have sum := bytes_foldlM closed step (closed.add first.member second.member)
    (step first second added) each so
  simpa only [List.map_cons, PointGroup.sum, List.foldl_cons, first.point, second.point] using sum

/-- The bytes that are kept of a sum do not depend on the order of the summands. -/
theorem SumOf.bytes_eq_of_perm (abelian : G.Abelian)
    (step : ∀ {a b c p q}, G.Encodes (bytes a) p → G.Encodes (bytes b) q → add a b = .ok c →
      bytes c = G.encode (G.add p q)) {xs ys : List α} {a b : α}
    (each : ∀ x ∈ xs, ∃ p, G.Encodes (bytes x) p) (same : xs.Perm ys) (one : SumOf add xs a)
    (two : SumOf add ys b) : bytes a = bytes b := by
  have each' : ∀ y ∈ ys, ∃ p, G.Encodes (bytes y) p := fun y listed => each y (same.mem_iff.2 listed)
  match xs, ys with
  | [], _ => cases one
  | [x], ys =>
    -- A single summand is kept as it came.
    obtain rfl := List.singleton_perm.1 same
    cases one
    cases two
    rfl
  | x :: x' :: rest, [] => cases two
  | x :: x' :: rest, [y] => cases same.length_eq
  | x :: x' :: rest, y :: y' :: rest' =>
    have members : ∀ p ∈ (x :: x' :: rest).map fun a => G.point (bytes a), G.Member p := by
      intro p listed
      obtain ⟨a, summand, rfl⟩ := List.mem_map.1 listed
      obtain ⟨q, encodes⟩ := each a summand
      rw [encodes.point]
      exact encodes.member
    rw [one.bytes_eq abelian.toClosed step each, two.bytes_eq abelian.toClosed step each',
      abelian.sum_perm (same.map _) members]

end Sums

namespace Bls

variable {C : PairingCurve}

/-- Where keys of the first group have a sum, each of them stands for a point that is a key, and the sum
is the encoding of the sum of these points. -/
theorem encodes_of_aggregateG1 {keys : List G1PublicKey} {sum : G1PublicKey}
    (summed : aggregateG1 C keys = .ok sum) :
    (∀ k ∈ keys, C.G1.Encodes k.bytes (C.G1.point k.bytes)) ∧
      sum.bytes = C.G1.encode ((keys.map fun k => C.G1.point k.bytes).foldl C.G1.add C.G1.identity) := by
  unfold aggregateG1 at summed
  obtain ⟨bytes, done, same⟩ := bind_eq_ok_iff.1 summed
  cases same
  obtain ⟨each, sum⟩ := PointGroup.encodes_of_sumKeys done
  rw [List.map_map] at sum
  exact ⟨fun k listed => each _ (List.mem_map_of_mem listed), sum⟩

end Bls

namespace SampleCurve

variable {n m : Nat} [NeZero m]

theorem abelian_residues (closed : (residues n m).Closed) (zero : (residues n m).Member (0 : Fin m)) :
    (residues n m).Abelian where
  toClosed := closed
  identity := zero
  identity_add := fun {p} _ => @zero_add (Fin m) _ p
  comm := fun {p q} _ _ => @add_comm (Fin m) _ p q
  assoc := fun {p q r} _ _ _ => @add_assoc (Fin m) _ p q r

theorem abelian_signatures : curve.G1.Abelian :=
  abelian_residues closed_signatures (encodes_residues (by decide) (by decide)).member

theorem abelian_keys : curve.G2.Abelian :=
  abelian_residues closed_keys (encodes_residues (by decide) (by decide)).member

end SampleCurve

end Attestation
