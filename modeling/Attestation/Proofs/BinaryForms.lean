/-
Module: Attestation.Proofs.BinaryForms
Purpose: The registry's records are restored from their binary forms. A reader takes from the front
  exactly the bytes of one value and looks at none that follow; so a value is read back whatever follows
  its form, and where the end of a form is missing nothing is read. The entries of a stake map may be
  written in any order.
Main exports: BinaryFormat.Reads, BinaryFormat.Steady, BinaryFormat.Restores, BinaryFormat.Steady.restores,
  BinaryFormat.operatorForm, BinaryFormat.records_restored
-/
import Attestation.Binary.Records
import Attestation.Proofs.Numerals
import Mathlib.Data.List.Nodup
import Mathlib.Data.List.Perm.Subperm

namespace Attestation

namespace BinaryFormat

variable {α β : Type} {f : BinaryFormat α} {g : BinaryFormat β} {a : α} {b : β} {n : Nat}
  {bytes bytes' input rest : List UInt8}

/-- The value is read from the bytes, whatever follows them. -/
def Reads (f : BinaryFormat α) (a : α) (bytes : List UInt8) : Prop :=
  ∀ rest, f.decode? (bytes ++ rest) = some (a, rest)

/-- A reader leaves alone what follows the bytes that it takes. -/
def Steady (f : BinaryFormat α) : Prop :=
  ∀ ⦃input a rest⦄, f.decode? input = some (a, rest) →
    ∀ more, f.decode? (input ++ more) = some (a, rest ++ more)

/-- The value is read from the bytes, whatever follows them, and nothing is read where some of them are
missing at the end. -/
def Restores (f : BinaryFormat α) (a : α) (bytes : List UInt8) : Prop :=
  f.Reads a bytes ∧ ∀ part, part <+: bytes → part ≠ bytes → f.decode? part = none

/-- If a part of a form could be read, then so could the form, with the missing bytes left over. -/
theorem Steady.restores (steady : f.Steady) (reads : f.Reads a bytes) : f.Restores a bytes := by
  refine ⟨reads, ?_⟩
  rintro part ⟨missing, rfl⟩ strict
  cases found : f.decode? part with
  | none => rfl
  | some result =>
    rcases result with ⟨a', left⟩
    have whole := steady found missing
    have exactly := reads []
    simp only [List.append_nil, whole, Option.some.injEq, Prod.mk.injEq, List.append_eq_nil_iff] at exactly
    simp [exactly.2.2] at strict

/-! ### Forms of parts -/

/-- The front is cut off where it ends. -/
theorem split?_append {front : List UInt8} (length : front.length = n) :
    split? n (front ++ rest) = some (front, rest) := by
  subst length
  simp [split?]

/-- A cut does not move when more bytes follow. -/
theorem split?_steady {front : List UInt8} (found : split? n input = some (front, rest))
    (more : List UInt8) : split? n (input ++ more) = some (front, rest ++ more) := by
  unfold split? at found ⊢
  split at found
  · next enough =>
    cases found
    have enough' : n ≤ (input ++ more).length := by
      rw [List.length_append]
      omega
    rw [if_pos enough', List.take_append_of_le_length enough, List.drop_append_of_le_length enough]
  · cases found

/-- A number is read back if its bytes can hold it. -/
theorem reads_word {v : Nat} (fits : v < LittleEndian.bound n) :
    (word n).Reads v ((word n).encode v) := by
  intro rest
  simp [word, split?_append, LittleEndian.value_encode, Nat.mod_eq_of_lt fits]

theorem steady_word : (word n).Steady := by
  intro input v rest found more
  simp only [word, Option.map_eq_some_iff, Prod.exists, Prod.mk.injEq] at found
  rcases found with ⟨front, left, found, rfl, rfl⟩
  simp [word, split?_steady found more]

/-- A value is read as what it stands for. -/
theorem Reads.convert {there : β → α} {back : α → β} (reads : f.Reads a bytes) :
    (f.convert there back).Reads (back a) bytes := by
  intro rest
  simp [BinaryFormat.convert, reads rest]

theorem Steady.convert {there : β → α} {back : α → β} (steady : f.Steady) :
    (f.convert there back).Steady := by
  intro input b rest found more
  simp only [BinaryFormat.convert, Option.map_eq_some_iff, Prod.exists, Prod.mk.injEq] at found
  rcases found with ⟨a, left, found, rfl, rfl⟩
  simp [BinaryFormat.convert, steady found more]

/-- The second of two forms begins where the first ends. -/
theorem Reads.pair (first : f.Reads a bytes) (second : g.Reads b bytes') :
    (f.pair g).Reads (a, b) (bytes ++ bytes') := by
  intro rest
  simp [BinaryFormat.pair, first (bytes' ++ rest), second rest]

/-- Neither of two readers looks beyond the second form. -/
theorem Steady.pair (first : f.Steady) (second : g.Steady) : (f.pair g).Steady := by
  intro input p rest found more
  simp only [BinaryFormat.pair, Option.bind_eq_bind, Option.bind_eq_some_iff, Prod.exists] at found
  rcases found with ⟨a, middle, foundFirst, b, left, foundSecond, same⟩
  cases same
  simp [BinaryFormat.pair, first foundFirst more, second foundSecond more]

theorem reads_u8 (v : UInt8) : u8.Reads v (u8.encode v) := by
  have reads : u8.Reads (UInt8.ofNat v.toNat) (u8.encode v) := (reads_word v.toNat_lt).convert
  rwa [UInt8.ofNat_toNat] at reads

theorem reads_u32 (v : UInt32) : u32.Reads v (u32.encode v) := by
  have reads : u32.Reads (UInt32.ofNat v.toNat) (u32.encode v) := (reads_word v.toNat_lt).convert
  rwa [UInt32.ofNat_toNat] at reads

/-- Bytes of a fixed number are their own form. -/
theorem reads_bytes (b : Bytes n) : (BinaryFormat.bytes n).Reads b ((BinaryFormat.bytes n).encode b) := by
  intro rest
  simp [BinaryFormat.bytes, split?_append b.length_toList]

theorem steady_bytes : (BinaryFormat.bytes n).Steady := by
  intro input b rest found more
  simp only [BinaryFormat.bytes, Option.bind_eq_bind, Option.bind_eq_some_iff, Prod.exists] at found
  rcases found with ⟨front, left, found, b', fits, same⟩
  cases same
  simp [BinaryFormat.bytes, split?_steady found more, fits]

/-- As many values are read as were written, one after the other. -/
theorem decodeMany?_reads {as : List α} (each : ∀ a ∈ as, f.Reads a (f.encode a)) (rest : List UInt8) :
    decodeMany? f as.length (as.flatMap f.encode ++ rest) = some (as, rest) := by
  induction as with
  | nil => rfl
  | cons a as ih =>
    rcases List.forall_mem_cons.1 each with ⟨first, each⟩
    simp [decodeMany?, first _, ih each]

/-- Reading many values one looks at nothing after the last. -/
theorem decodeMany?_steady (steady : f.Steady) : ∀ {n : Nat} {input rest : List UInt8} {as : List α},
    decodeMany? f n input = some (as, rest) →
      ∀ more, decodeMany? f n (input ++ more) = some (as, rest ++ more) := by
  intro n
  induction n with
  | zero =>
    intro input rest as found more
    cases found
    rfl
  | succ n ih =>
    intro input rest as found more
    simp only [decodeMany?, Option.bind_eq_bind, Option.bind_eq_some_iff, Prod.exists] at found
    rcases found with ⟨a, middle, foundFirst, later, left, foundLater, same⟩
    cases same
    simp [decodeMany?, steady foundFirst more, ih foundLater more]

/-- A list is read back if eight bytes can hold its length. -/
theorem reads_list {as : List α} (fits : as.length < 1 <<< 64) (each : ∀ a ∈ as, f.Reads a (f.encode a)) :
    (list f).Reads as ((list f).encode as) := by
  intro rest
  have count := reads_word (n := 8) fits
  simp [list, count _, decodeMany?_reads each]

/-- The number in front tells a reader of lists where to stop. -/
theorem Steady.list (steady : f.Steady) : (list f).Steady := by
  intro input as rest found more
  simp only [BinaryFormat.list, Option.bind_eq_bind, Option.bind_eq_some_iff, Prod.exists] at found
  rcases found with ⟨n, middle, count, found⟩
  simp [BinaryFormat.list, steady_word count more, decodeMany?_steady steady found more]

/-- A value that may be absent is read back, present or absent. -/
theorem reads_option (each : ∀ a, f.Reads a (f.encode a)) (a : Option α) :
    (option f).Reads a ((option f).encode a) := by
  intro rest
  cases a with
  | none => rfl
  | some a => simp [option, each a rest]

/-- The first byte tells a reader whether a value follows. -/
theorem Steady.option (steady : f.Steady) : (option f).Steady := by
  intro input a rest found more
  unfold BinaryFormat.option at found
  dsimp only at found
  split at found
  · cases found
    rfl
  · simp only [Option.map_eq_some_iff, Prod.exists, Prod.mk.injEq] at found
    rcases found with ⟨a', left, found, rfl, rfl⟩
    simp [BinaryFormat.option, steady found more]
  · cases found

/-- Bytes of any number are read back behind their length. -/
theorem reads_sized {text : List UInt8} (fits : text.length < 1 <<< 64) :
    sized.Reads text (sized.encode text) := by
  intro rest
  have length := reads_word (n := 8) fits
  simp [sized, length _, split?_append]

theorem steady_sized : sized.Steady := by
  intro input text rest found more
  simp only [sized, Option.bind_eq_bind, Option.bind_eq_some_iff, Prod.exists] at found
  rcases found with ⟨n, middle, length, found⟩
  simp [sized, steady_word length more, split?_steady found more]

/-- Bytes of a fixed number are read back behind their length as well. -/
theorem reads_sizedBytes (fits : n < 1 <<< 64) (b : Bytes n) :
    (sizedBytes n).Reads b ((sizedBytes n).encode b) := by
  intro rest
  have text : sized.Reads b.toList (sized.encode b.toList) := reads_sized (by rwa [b.length_toList])
  simp [sizedBytes, text rest]

theorem steady_sizedBytes : (sizedBytes n).Steady := by
  intro input b rest found more
  simp only [sizedBytes, Option.bind_eq_bind, Option.bind_eq_some_iff, Prod.exists] at found
  rcases found with ⟨text, left, found, b', fits, same⟩
  cases same
  simp [sizedBytes, steady_sized found more, fits]

/-- The text of an amount consists of characters that one byte holds. -/
theorem hexText_of_bytes (a : U256) :
    (a.hexText.map fun c => UInt8.ofNat c.toNat).map (fun b => Char.ofNat b.toNat) = a.hexText := by
  have byte : ∀ d < 16, Char.ofNat (UInt8.ofNat d.digitChar.toNat).toNat = d.digitChar := by decide
  rcases exists_digits (by decide : 1 < 16) a.val with ⟨ds, written, below, -⟩
  have digits : (ds.map Nat.digitChar).map (fun c => Char.ofNat (UInt8.ofNat c.toNat).toNat) =
      ds.map Nat.digitChar := by
    rw [List.map_map]
    exact List.map_congr_left fun d listed => byte d (below d listed)
  rw [List.map_map]
  show '0' :: 'x' :: (Hex.ofNat a.val).map _ = '0' :: 'x' :: Hex.ofNat a.val
  rw [Hex.ofNat, written]
  exact congrArg ('0' :: 'x' :: ·) digits

/-- An amount is read back from its text. -/
theorem reads_u256 (a : U256) : u256.Reads a (u256.encode a) := by
  intro rest
  have fits : (a.hexText.map fun c => UInt8.ofNat c.toNat).length < 1 <<< 64 := by
    have digits : (Nat.toDigits 16 a.val).length ≤ 64 := by
      rw [Nat.length_toDigits_le_iff (by decide) (by decide)]
      exact Nat.lt_of_lt_of_eq a.isLt (by decide)
    simp only [List.length_map, U256.hexText, Hex.ofNat, List.length_cons]
    omega
  simp only [u256, reads_sized fits rest, Option.bind_eq_bind, Option.bind_some, hexText_of_bytes,
    U256.ofHexText?_hexText]
  rfl

/-- The length in front tells a reader where the text of an amount ends. -/
theorem steady_u256 : u256.Steady := by
  intro input a rest found more
  simp only [u256, Option.bind_eq_bind, Option.bind_eq_some_iff, Prod.exists] at found
  rcases found with ⟨text, left, found, a', value, same⟩
  cases same
  simp [u256, steady_sized found more, value]

end BinaryFormat

/-! ### Records -/

/-- The lengths of all lists of indices are those that eight bytes can hold. -/
structure SignatureCheckIndices.Countable (x : SignatureCheckIndices) : Prop where
  nonSignerBitmaps : x.nonSignerBitmaps.length < 1 <<< 64
  quorumKeys : x.quorumKeys.length < 1 <<< 64
  totalStakes : x.totalStakes.length < 1 <<< 64
  nonSignerStakes : x.nonSignerStakes.length < 1 <<< 64
  each : ∀ positions ∈ x.nonSignerStakes, positions.length < 1 <<< 64

/-- There are 256 quorum numbers, so a stake map is small. -/
theorem Stakes.size_le (s : Stakes) : s.toList.length ≤ 256 := by
  have distinct : (s.keys.map fun q => q.number.toNat).Nodup := by
    apply List.Nodup.map_on _ s.nodup_keys
    intro q _ r _ same
    exact QuorumNum.ext (UInt8.toNat_inj.1 same)
  have below : s.keys.map (fun q => q.number.toNat) ⊆ List.range 256 := by
    intro v listed
    rcases List.mem_map.1 listed with ⟨q, -, rfl⟩
    exact List.mem_range.2 q.number.toNat_lt
  simpa [SortedMap.keys] using (List.subperm_of_subset distinct below).length_le

namespace BinaryFormat

/-- The form of an operator whose stakes are written in the given order. -/
def operatorForm (o : OperatorState) (entries : List (QuorumNum × U256)) : List UInt8 :=
  operatorId.encode o.id ++ (operatorPubkeys.encode o.pubkeys ++
    ((list (quorumNum.pair u256)).encode entries ++ u32.encode o.block))

theorem reads_operatorId (id : OperatorId) : operatorId.Reads id (operatorId.encode id) :=
  (reads_bytes id.bytes).convert

theorem reads_quorumNum (q : QuorumNum) : quorumNum.Reads q (quorumNum.encode q) :=
  (reads_u8 q.number).convert

theorem reads_signature (s : Signature) : signature.Reads s (signature.encode s) :=
  (reads_sizedBytes (by decide) s.bytes).convert

theorem reads_g1PublicKey (k : G1PublicKey) : g1PublicKey.Reads k (g1PublicKey.encode k) :=
  (reads_sizedBytes (by decide) k.bytes).convert

theorem reads_g2PublicKey (k : G2PublicKey) : g2PublicKey.Reads k (g2PublicKey.encode k) :=
  (reads_sizedBytes (by decide) k.bytes).convert

/-- The keys of an operator are read back, with the second or without it. -/
theorem reads_operatorPubkeys (p : OperatorPubkeys) :
    operatorPubkeys.Reads p (operatorPubkeys.encode p) :=
  ((reads_g1PublicKey p.g1).pair (reads_option reads_g2PublicKey p.g2)).convert

/-- Stakes are read from their entries in any order. -/
theorem reads_stakes {s : Stakes} {entries : List (QuorumNum × U256)} (same : entries.Perm s.toList) :
    stakes.Reads s ((list (quorumNum.pair u256)).encode entries) := by
  have fits : entries.length < 1 <<< 64 := by
    have := s.size_le
    rw [same.length_eq]
    omega
  have each : ∀ e ∈ entries, (quorumNum.pair u256).Reads e ((quorumNum.pair u256).encode e) :=
    fun e _ => (reads_quorumNum e.1).pair (reads_u256 e.2)
  have reads : stakes.Reads (SortedMap.ofList entries) _ := (reads_list fits each).convert
  rwa [SortedMap.ofList_of_perm same] at reads

/-- An operator is read back from its form with the stakes in any order. -/
theorem reads_operatorState {o : OperatorState} {entries : List (QuorumNum × U256)}
    (same : entries.Perm o.stakes.toList) : operatorState.Reads o (operatorForm o entries) :=
  ((reads_operatorId o.id).pair ((reads_operatorPubkeys o.pubkeys).pair
    ((reads_stakes same).pair (reads_u32 o.block)))).convert

theorem reads_quorumState (s : QuorumState) : quorumState.Reads s (quorumState.encode s) :=
  ((reads_quorumNum s.quorum).pair ((reads_u256 s.totalStake).pair
    ((reads_g1PublicKey s.aggregateKey).pair (reads_u32 s.block)))).convert

/-- Indices are read back if their lists have lengths that eight bytes can hold. -/
theorem reads_indices {x : SignatureCheckIndices} (countable : x.Countable) :
    indices.Reads x (indices.encode x) := by
  have positions : ∀ {xs : List UInt32}, xs.length < 1 <<< 64 →
      (list u32).Reads xs ((list u32).encode xs) := fun fits => reads_list fits fun v _ => reads_u32 v
  have nested : (list (list u32)).Reads x.nonSignerStakes ((list (list u32)).encode x.nonSignerStakes) :=
    reads_list countable.nonSignerStakes fun xs listed => positions (countable.each xs listed)
  exact ((positions countable.nonSignerBitmaps).pair ((positions countable.quorumKeys).pair
    ((positions countable.totalStakes).pair nested))).convert

theorem steady_operatorId : operatorId.Steady := steady_bytes.convert

theorem steady_quorumNum : quorumNum.Steady := steady_word.convert.convert

theorem steady_u32 : u32.Steady := steady_word.convert

theorem steady_signature : signature.Steady := steady_sizedBytes.convert

theorem steady_g1PublicKey : g1PublicKey.Steady := steady_sizedBytes.convert

theorem steady_g2PublicKey : g2PublicKey.Steady := steady_sizedBytes.convert

theorem steady_operatorPubkeys : operatorPubkeys.Steady :=
  (steady_g1PublicKey.pair steady_g2PublicKey.option).convert

theorem steady_operatorState : operatorState.Steady :=
  (steady_operatorId.pair (steady_operatorPubkeys.pair
    ((steady_quorumNum.pair steady_u256).list.convert.pair steady_u32))).convert

theorem steady_quorumState : quorumState.Steady :=
  (steady_quorumNum.pair (steady_u256.pair (steady_g1PublicKey.pair steady_u32))).convert

theorem steady_indices : indices.Steady :=
  (steady_u32.list.pair (steady_u32.list.pair (steady_u32.list.pair steady_u32.list.list))).convert

/-- Every value of the registry's types is read back from its binary form, whatever follows it, and
nothing is read from a form that is cut off. An operator has a form for every order of its stakes, of
which the written one is one. -/
theorem records_restored :
    (∀ id, operatorId.Restores id (operatorId.encode id)) ∧
    (∀ q, quorumNum.Restores q (quorumNum.encode q)) ∧
    (∀ s, signature.Restores s (signature.encode s)) ∧
    (∀ k, g1PublicKey.Restores k (g1PublicKey.encode k)) ∧
    (∀ k, g2PublicKey.Restores k (g2PublicKey.encode k)) ∧
    (∀ p, operatorPubkeys.Restores p (operatorPubkeys.encode p)) ∧
    (∀ o, operatorState.encode o = operatorForm o o.stakes.toList ∧
      ∀ entries : List (QuorumNum × U256), entries.Perm o.stakes.toList →
        operatorState.Restores o (operatorForm o entries)) ∧
    (∀ s, quorumState.Restores s (quorumState.encode s)) ∧
    ∀ x : SignatureCheckIndices, x.Countable → indices.Restores x (indices.encode x) := by
  refine ⟨?_, ?_, ?_, ?_, ?_, ?_, ?_, ?_, ?_⟩
  · exact fun id => steady_operatorId.restores (reads_operatorId id)
  · exact fun q => steady_quorumNum.restores (reads_quorumNum q)
  · exact fun s => steady_signature.restores (reads_signature s)
  · exact fun k => steady_g1PublicKey.restores (reads_g1PublicKey k)
  · exact fun k => steady_g2PublicKey.restores (reads_g2PublicKey k)
  · exact fun p => steady_operatorPubkeys.restores (reads_operatorPubkeys p)
  · exact fun o => ⟨rfl, fun entries same => steady_operatorState.restores (reads_operatorState same)⟩
  · exact fun s => steady_quorumState.restores (reads_quorumState s)
  · exact fun x countable => steady_indices.restores (reads_indices countable)

/-- An operator whose two stakes are written in descending order, and lists of indices of several
lengths. -/
theorem records_restored_samples :
    let few : U256 := ⟨5, by decide⟩
    let many : U256 := ⟨256, by decide⟩
    let o : OperatorState :=
      ⟨⟨.ofNat 32 7⟩, ⟨⟨.ofNat 48 1⟩, none⟩, .ofList [(⟨0⟩, few), (⟨3⟩, many)], 9⟩
    let entries := [(⟨3⟩, many), (⟨0⟩, few)]
    let x : SignatureCheckIndices := ⟨[1, 2], [], [70000], [[], [4, 5]]⟩
    (entries.Perm o.stakes.toList ∧ operatorState.Restores o (operatorForm o entries)) ∧
    (x.Countable ∧ indices.Restores x (indices.encode x)) := by
  intro few many o entries x
  have same : entries.Perm o.stakes.toList := List.Perm.swap (QuorumNum.mk 0, few) (QuorumNum.mk 3, many) []
  have countable : x.Countable := by constructor <;> decide
  rcases records_restored with ⟨-, -, -, -, -, -, operators, -, lists⟩
  exact ⟨⟨same, (operators o).2 entries same⟩, countable, lists x countable⟩

end BinaryFormat

end Attestation
