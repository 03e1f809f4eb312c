/-
Module: Attestation.Proofs.Validity
Purpose: An aggregate is a valid signature whenever it can be one. Signatures and keys are summed over the
  same signers, each of whom was verified, so with a bilinear pairing the sums verify as well; only where
  the keys cancel out is there no key left to verify under. This holds of what a task keeps and of every
  result that a service gives.
Main exports: PairingCurve.Bilinear, PairingCurve.Bilinear.pair_sum, Ledger.verifies, aggregates_verify
-/
import Attestation.Proofs.Lifecycle
import Attestation.Proofs.Subgroups

namespace Attestation

/-- The pairing takes sums of points of the subgroups to products, on either side. -/
structure PairingCurve.Bilinear (C : PairingCurve) (mul : C.Target → C.Target → C.Target) : Prop where
  signatures : C.G1.Closed
  keys : C.G2.Closed
  generator : C.G2.Member C.generator
  hashToG1 : ∀ d, C.G1.Member (C.hashToG1 d)
  add_left : ∀ {p q u}, C.G1.Member p → C.G1.Member q → C.G2.Member u →
    C.pair (C.G1.add p q) u = mul (C.pair p u) (C.pair q u)
  add_right : ∀ {p u v}, C.G1.Member p → C.G2.Member u → C.G2.Member v →
    C.pair p (C.G2.add u v) = mul (C.pair p u) (C.pair p v)

section Sums

variable {ρ : Type} {C : PairingCurve} {mul : C.Target → C.Target → C.Target} {hash : Hasher ρ}
  {n : Snapshot} {d : Digest}

/-- Further signers keep the pairings of the sums equal. -/
theorem PairingCurve.Bilinear.pair_foldl (bilinear : C.Bilinear mul) {signing : List (Acceptance ρ)}
    {points : List (C.G1.Point × C.G2.Point)}
    (contributed : List.Forall₂ (Contributes C n) signing points)
    (same : ∀ a ∈ signing, a.digest = d) : ∀ {p : C.G1.Point} {u : C.G2.Point}, C.G1.Member p →
      C.G2.Member u → C.pair p C.generator = C.pair (C.hashToG1 d) u →
      C.pair ((points.map (·.1)).foldl C.G1.add p) C.generator =
        C.pair (C.hashToG1 d) ((points.map (·.2)).foldl C.G2.add u) := by
  induction contributed with
  | nil => exact fun _ _ equal => equal
  | @cons a added _ _ first _ ih =>
    intro p u signature key equal
    have valid := first.valid
    rw [same a List.mem_cons_self] at valid
    obtain ⟨k, -, encodes⟩ := first.key
    refine ih (fun b listed => same b (List.mem_cons_of_mem a listed))
      (bilinear.signatures.add signature first.signature.member)
      (bilinear.keys.add key encodes.member) ?_
    calc C.pair (C.G1.add p added.1) C.generator
        = mul (C.pair p C.generator) (C.pair added.1 C.generator) :=
          bilinear.add_left signature first.signature.member bilinear.generator
      _ = mul (C.pair (C.hashToG1 d) u) (C.pair (C.hashToG1 d) added.2) := by rw [equal, valid]
      _ = C.pair (C.hashToG1 d) (C.G2.add u added.2) :=
          (bilinear.add_right (bilinear.hashToG1 d) key encodes.member).symm

/-- What was signed one by one is signed by all together. -/
theorem PairingCurve.Bilinear.pair_sum (bilinear : C.Bilinear mul) {signing : List (Acceptance ρ)}
    {points : List (C.G1.Point × C.G2.Point)}
    (contributed : List.Forall₂ (Contributes C n) signing points) (nonempty : signing ≠ [])
    (same : ∀ a ∈ signing, a.digest = d) :
    C.pair (C.G1.sum (points.map (·.1))) C.generator =
      C.pair (C.hashToG1 d) (C.G2.sum (points.map (·.2))) := by
  cases contributed with
  | nil => exact absurd rfl nonempty
  | @cons a _ _ _ first rest =>
    have valid := first.valid
    rw [same a List.mem_cons_self] at valid
    obtain ⟨k, -, encodes⟩ := first.key
    exact bilinear.pair_foldl rest (fun b listed => same b (List.mem_cons_of_mem a listed))
      first.signature.member encodes.member valid

/-- Every aggregate in the books verifies unless its key is at infinity. -/
theorem Ledger.verifies (bilinear : C.Bilinear mul) {t : TaskParameters}
    {accepted : List (Acceptance ρ)} {s : TaskState ρ} (ledger : Ledger (.pairing C hash) t n accepted s)
    {g : Aggregate} (found : s.aggregates.get? d = some g) :
    ∃ keys : List C.G2.Point,
      List.Forall₂ (fun a u => ∃ k, n.verificationKey? a.operator = some k ∧ C.G2.Encodes k.bytes u)
        (signing accepted d) keys ∧
      C.G2.Encodes g.key.bytes (C.G2.sum keys) ∧
      (Judge.pairing C hash).verify d g.signature g.key = .ok (!C.G2.isIdentity (C.G2.sum keys)) := by
  obtain ⟨points, contributed, signature, key⟩ := ledger.sums bilinear.signatures bilinear.keys found
  refine ⟨points.map (·.2), ?_, key, ?_⟩
  · rw [List.forall₂_map_right_iff]
    exact contributed.imp fun _ _ c => c.key
  · have nonempty : signing accepted d ≠ [] := by
      obtain ⟨a, member, same⟩ := (ledger.contains_iff d).1 (SortedMap.contains_iff_exists.2 ⟨g, found⟩)
      exact List.ne_nil_of_mem (mem_signing.2 ⟨member, same⟩)
    have valid := Bls.verify_of_encodes signature key
      (bilinear.pair_sum contributed nonempty fun a listed => (mem_signing.1 listed).2)
    show pairingVerifier C d g.signature g.key = _
    rw [pairingVerifier, valid]

end Sums

/-- Whatever the provider answers, operators are listed under their own ids. -/
def Provider.Keyed {σ : Type} (P : Provider σ) : Prop :=
  ∀ registry quorums block operators, (P.operators registry quorums block).answer = .ok operators →
    ∀ id operator, operators.get? id = some operator → operator.id = id

section Results

variable {ρ σ : Type} {C : PairingCurve} {mul : C.Target → C.Target → C.Target} {hash : Hasher ρ}

/-- The result of a task verifies unless the signers' key is at infinity. -/
theorem verifies_of_result (bilinear : C.Bilinear mul) {t : TaskParameters} {n : Snapshot}
    (keyed : n.Keyed) {xs : List (Submission ρ)} {indices : SignatureCheckIndices}
    {result : TaskResult ρ}
    (built : ((TaskState.start t n).after (.pairing C hash) xs).result? indices = some result) :
    ∃ k, C.G2.Encodes result.signersKey.bytes k ∧
      (Judge.pairing C hash).verify result.digest result.signature result.signersKey =
        .ok (!C.G2.isIdentity k) := by
  unfold TaskState.result? at built
  obtain ⟨⟨d, r⟩, -, built⟩ := Option.bind_eq_some_iff.1 built
  obtain ⟨g, found, built⟩ := Option.bind_eq_some_iff.1 built
  cases built
  obtain ⟨keys, -, key, valid⟩ := (TaskState.ledger_after (.pairing C hash) t keyed xs).verifies
    bilinear found
  exact ⟨C.G2.sum keys, key, valid⟩

/-- With verification by a bilinear pairing every aggregate that a task ever holds is a valid signature
of its digest under its key, the sum of the signers' keys, unless that is infinity; and so is every result
that a service ever gives. -/
theorem aggregates_verify (C : PairingCurve) (mul : C.Target → C.Target → C.Target)
    (bilinear : C.Bilinear mul) (hash : Hasher ρ) :
    (∀ (t : TaskParameters) (n : Snapshot), n.Keyed → ∀ (xs : List (Submission ρ)) d g,
      ((TaskState.start t n).after (.pairing C hash) xs).aggregates.get? d = some g →
      ∃ keys : List C.G2.Point,
        List.Forall₂ (fun a u => ∃ k, n.verificationKey? a.operator = some k ∧ C.G2.Encodes k.bytes u)
          (signing ((TaskState.start t n).accepted (.pairing C hash) xs) d) keys ∧
        C.G2.Encodes g.key.bytes (C.G2.sum keys) ∧
        (Judge.pairing C hash).verify d g.signature g.key = .ok (!C.G2.isIdentity (C.G2.sum keys))) ∧
    ∀ (provider : Provider σ), provider.Keyed → ∀ config registry (s : Service ρ σ),
      Service.create config registry = .ok s → ∀ actions id result,
      (id, .ok result) ∈ (s.after ⟨.pairing C hash, provider⟩ actions).responses →
      ∃ k, C.G2.Encodes result.signersKey.bytes k ∧
        (Judge.pairing C hash).verify result.digest result.signature result.signersKey =
          .ok (!C.G2.isIdentity k) := by
  constructor
  · intro t n keyed xs d g found
    exact (TaskState.ledger_after (.pairing C hash) t keyed xs).verifies bilinear found
  · intro provider keyed config registry s created actions id result sent
    have stream := Service.stream_after ⟨.pairing C hash, provider⟩ created actions
    have ceased := mem_answersOf.1 (stream.sent.subset sent)
    obtain ⟨t, -, fits⟩ := (Service.lives_after _ created actions).fitting _ ceased
    obtain ⟨n, indices, state, ⟨first, _, _, answered, -⟩, arises, built⟩ := fits _ rfl
    rw [arises.state] at built
    exact verifies_of_result bilinear (keyed first _ _ _ answered) built

end Results

namespace SampleCurve

theorem member_iff {n m : Nat} [NeZero m] (fits : m ≤ LittleEndian.bound n) {p : Fin m} :
    (residues n m).Member p ↔ 5 * p = 0 :=
  ⟨fun ⟨_, _, member⟩ => of_decide_eq_true member, fun member => (encodes_residues fits member).member⟩

theorem bilinear : curve.Bilinear (fun x y : Fin 5 => x + y) where
  signatures := closed_signatures
  keys := closed_keys
  generator := (member_iff (by decide)).2 rfl
  hashToG1 d := by
    have annihilated : ∀ k < 4, 5 * Fin.ofNat 10 (2 * (k + 1)) = 0 := by decide
    exact (member_iff (by decide)).2 (annihilated _ (Nat.mod_lt _ (by decide)))
  add_left := by
    have additive : ∀ (p q : Fin 10) (u : Fin 15), 5 * p = 0 → 5 * q = 0 → 5 * u = 0 →
        pairing (p + q) u = pairing p u + pairing q u := by decide +kernel
    intro p q u left right key
    exact additive p q u ((member_iff (by decide)).1 left) ((member_iff (by decide)).1 right)
      ((member_iff (by decide)).1 key)
  add_right := by
    have additive : ∀ (p : Fin 10) (u v : Fin 15), 5 * p = 0 → 5 * u = 0 → 5 * v = 0 →
        pairing p (u + v) = pairing p u + pairing p v := by decide +kernel
    intro p u v signature left right
    exact additive p u v ((member_iff (by decide)).1 signature) ((member_iff (by decide)).1 left)
      ((member_iff (by decide)).1 right)

theorem provider_keyed : provider.Keyed := by
  rintro _ _ _ _ ⟨⟩ id operator listed
  have own : ∀ e ∈ snapshot.operators.toList, e.2.id = e.1 := by decide
  exact own _ (SortedMap.get?_eq_some_iff.1 listed)

end SampleCurve

/-- The keys of the first two signers cancel out, and what they sign together has no key to verify under;
with the third there is one. The first and the third are enough for a result. -/
theorem aggregates_verify_sample_runs :
    let G := SampleCurve.curve.G2
    let J := Judge.pairing SampleCurve.curve SampleCurve.hasher
    let E : Setting Nat Unit := ⟨J, SampleCurve.provider⟩
    let seven : Digest := .ofNat 32 7
    let cancelling := [SampleCurve.submission 1 1 7, SampleCurve.submission 2 4 7]
    let held (xs : List (Submission Nat)) :=
      ((TaskState.start SampleCurve.parameters SampleCurve.snapshot).after J xs).aggregates.get? seven
    let submit (id secret : Nat) : Service.Action Nat Unit :=
      .submit 1 (SampleCurve.operatorId id) 7 (SampleCurve.sign secret seven) false
    let actions := [.startTask true SampleCurve.parameters, .work 0, .work 0, .work 0, submit 1 1,
      submit 3 2, .poll 0, .poll 0, .poll 1, .poll 1, .work 0, .work 0, .work 0]
    (∃ g k, held cancelling = some g ∧ G.Encodes g.key.bytes k ∧ G.isIdentity k = true ∧
      J.verify seven g.signature g.key = .ok false) ∧
    (∃ g k, held (cancelling ++ [SampleCurve.submission 3 2 7]) = some g ∧ G.Encodes g.key.bytes k ∧
      G.isIdentity k = false ∧ J.verify seven g.signature g.key = .ok true) ∧
    ∃ (s : Service Nat Unit) (result : TaskResult Nat) (k : G.Point),
      Service.create .default () = .ok s ∧ (0, .ok result) ∈ (s.after E actions).responses ∧
      G.Encodes result.signersKey.bytes k ∧ G.isIdentity k = false ∧
      J.verify result.digest result.signature result.signersKey = .ok true := by
  intro G J E seven cancelling held submit actions
  obtain ⟨states, services⟩ := aggregates_verify (σ := Unit) SampleCurve.curve _ SampleCurve.bilinear
    SampleCurve.hasher
  have keyed : SampleCurve.snapshot.Keyed := by decide
  refine ⟨?_, ?_, ?_⟩
  · have refused : (held cancelling).map (fun g => J.verify seven g.signature g.key) = some (.ok false) := by
      decide +kernel
    obtain ⟨g, found, valid⟩ := Option.map_eq_some_iff.1 refused
    obtain ⟨keys, -, encodes, known⟩ := states SampleCurve.parameters _ keyed cancelling seven g found
    have cancelled := Except.ok.inj (known.symm.trans valid)
    exact ⟨g, _, found, encodes, by simpa using cancelled, valid⟩
  · have approved : (held (cancelling ++ [SampleCurve.submission 3 2 7])).map
        (fun g => J.verify seven g.signature g.key) = some (.ok true) := by decide +kernel
    obtain ⟨g, found, valid⟩ := Option.map_eq_some_iff.1 approved
    obtain ⟨keys, -, encodes, known⟩ := states SampleCurve.parameters _ keyed _ seven g found
    have finite := Except.ok.inj (known.symm.trans valid)
    exact ⟨g, _, found, encodes, by simpa using finite, valid⟩
  · obtain ⟨s, created, given⟩ : ∃ s : Service Nat Unit, Service.create .default () = .ok s ∧
        (s.after E actions).responses.map (fun e =>
          (e.1, e.2.toOption.map fun r => J.verify r.digest r.signature r.signersKey)) =
            [(0, some (.ok true))] := ⟨_, rfl, by decide +kernel⟩
    obtain ⟨⟨id, response⟩, sent, shown⟩ := List.mem_map.1 (given ▸ List.mem_singleton_self _)
    cases response with
    | error e => cases shown
    | ok result =>
      obtain ⟨rfl, valid⟩ : id = 0 ∧ J.verify result.digest result.signature result.signersKey = .ok true := by
        simpa [Except.toOption] using shown
      obtain ⟨k, encodes, known⟩ := services SampleCurve.provider SampleCurve.provider_keyed _ _ _ created
        actions 0 result sent
      have finite := Except.ok.inj (known.symm.trans valid)
      exact ⟨s, result, k, created, sent, encodes, by simpa using finite, valid⟩

end Attestation
