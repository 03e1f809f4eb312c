/-
Module: Attestation.Proofs.TextForms
Purpose: The registry's records and the service's configuration are restored from their JSON texts,
  whatever the order of fields and stakes, wherever blanks stand, and whatever fields of other names are
  added; a text in which a field is repeated is refused. A name that is no text, since half of a
  surrogate pair stands alone in it, is refused even where nobody reads the field.
Main exports: JsonForms.operatorId, JsonForms.quorumNum, JsonForms.signature, JsonForms.g1PublicKey,
  JsonForms.g2PublicKey, JsonForms.operatorPubkeys, JsonForms.stakes, JsonForms.operatorState,
  JsonForms.quorumState, JsonForms.indices, JsonForms.config, JsonFormat.Restores,
  JsonFormat.texts_restored
-/
import Attestation.Json.Records
import Attestation.Proofs.Fields
import Attestation.Proofs.Numerals

namespace Attestation

open JsonValue (SpellsValue Spells Piece)

/-! ### Documents of the records -/

namespace JsonForms

def operatorId : JsonForms OperatorId := exact JsonFormat.operatorId

def quorumNum : JsonForms QuorumNum := exact JsonFormat.quorumNum

def bytesRecord (n : Nat) : JsonForms (Bytes n) := record [(exact (JsonFormat.bytes n)).field "bytes" id]

def signature : JsonForms Signature := (bytesRecord 48).of Signature.bytes

def g1PublicKey : JsonForms G1PublicKey := (bytesRecord 48).of G1PublicKey.bytes

def g2PublicKey : JsonForms G2PublicKey := (bytesRecord 96).of G2PublicKey.bytes

def operatorPubkeys : JsonForms OperatorPubkeys :=
  record [g1PublicKey.field "g1" OperatorPubkeys.g1, g2PublicKey.option.field "g2" OperatorPubkeys.g2]

/-- The members of an object of stakes. -/
def stakeMembers (entries : List (QuorumNum × U256)) : List (List StringPart × JsonValue) :=
  entries.map fun (q, amount) =>
    (StringPart.ofText (Nat.toDigits 10 q.number.toNat), JsonFormat.u256.write amount)

/-- Stakes are written in any order. -/
def stakes : JsonForms Stakes where
  stands j s := ∃ entries : List (QuorumNum × U256),
    entries.Perm s.toList ∧ j = .object (stakeMembers entries)
  repeats _ := False

def operatorState : JsonForms OperatorState :=
  record [operatorId.field "operator_id" OperatorState.id,
    operatorPubkeys.field "pubkeys" OperatorState.pubkeys,
    stakes.field "stake_per_quorum" OperatorState.stakes,
    (exact JsonFormat.u32).field "block_number" OperatorState.block]

def quorumState : JsonForms QuorumState :=
  record [quorumNum.field "quorum_number" QuorumState.quorum,
    (exact JsonFormat.u256).field "total_stake" QuorumState.totalStake,
    g1PublicKey.field "agg_pubkey_g1" QuorumState.aggregateKey,
    (exact JsonFormat.u32).field "block_number" QuorumState.block]

def positions : JsonForms (List UInt32) := exact (.list .u32)

def indices : JsonForms SignatureCheckIndices :=
  record [positions.field "non_signer_quorum_bitmap_indices" SignatureCheckIndices.nonSignerBitmaps,
    positions.field "quorum_apk_indices" SignatureCheckIndices.quorumKeys,
    positions.field "total_stake_indices" SignatureCheckIndices.totalStakes,
    (exact (.list (.list .u32))).field "non_signer_stake_indices" SignatureCheckIndices.nonSignerStakes]

def config : JsonForms Config :=
  record [(exact JsonFormat.u64).field "signature_channel_capacity" Config.inboxCapacity,
    (exact JsonFormat.u64).field "max_active_tasks" Config.maxActiveTasks]

end JsonForms

namespace JsonFormat

/-- A value is read back from the text written for it, and from every text that spells a document of it,
and no text in which a field is repeated is read. -/
structure Restores {α : Type} (f : JsonFormat α) (forms : JsonForms α) : Prop where
  written : ∀ a, f.parse? (f.text a) = some a ∧ Spells (f.text a) (f.write a) ∧ forms.stands (f.write a) a
  varied : ∀ text j a, Spells text j → forms.stands j a → f.parse? text = some a
  repeated : ∀ text j, Spells text j → forms.repeats j → f.parse? text = none

variable {α : Type} {f : JsonFormat α} {n : Nat}

/-! ### Numbers, lists and amounts -/

/-- Digits are written as they are in a string. -/
theorem plain_toDigits {base : Nat} (proper : 1 < base) (small : base ≤ 16) (n : Nat) :
    ∀ c ∈ Nat.toDigits base n, Piece (.plain c) := by
  have each : ∀ d < 16, 0x20 ≤ d.digitChar.toNat ∧ d.digitChar ≠ '"' ∧ d.digitChar ≠ '\\' := by decide
  rcases exists_digits proper n with ⟨ds, written, below, -⟩
  rw [written]
  intro c digit
  rcases List.mem_map.1 digit with ⟨d, listed, rfl⟩
  rcases each d (Nat.lt_of_lt_of_le (below d listed) small) with ⟨visible, quote, backslash⟩
  exact .plain visible quote backslash

/-- Characters that need no escape are no control characters. -/
theorem visible_of_plain {text : List Char} (plain : ∀ c ∈ text, Piece (.plain c)) :
    ∀ c ∈ text, 0x20 ≤ c.toNat := by
  intro c listed
  cases plain c listed with
  | plain visible => exact visible

/-- The text of an amount needs no escapes. -/
theorem plain_hexText (a : U256) : ∀ c ∈ a.hexText, Piece (.plain c) := by
  have mark : ∀ c ∈ ['0', 'x'], Piece (.plain c) := by
    intro c listed
    simp only [List.mem_cons, List.not_mem_nil, or_false] at listed
    rcases listed with rfl | rfl <;> exact .plain (by decide) (by decide) (by decide)
  intro c listed
  rcases List.mem_append.1 (show c ∈ ['0', 'x'] ++ Nat.toDigits 16 a.val from listed) with listed | listed
  · exact mark c listed
  · exact plain_toDigits (by decide) (by decide) a.val c listed

/-- A number in decimal digits is in the grammar. -/
theorem spells_ofNat (n : Nat) : SpellsValue (JsonValue.ofNat n).write (.ofNat n) := by
  have digits : JsonValue.Digits (Nat.toDigits 10 n) :=
    ⟨Nat.toDigits_ne_nil, List.all_eq_true.1 (all_isDigit_toDigits n)⟩
  have whole : JsonValue.Whole (Nat.toDigits 10 n) := by
    by_cases zero : n = 0
    · subst zero
      exact .zero
    · exact .digits digits fun padded => zero ((head?_toDigits_eq_zero_iff n).1 padded)
  have numeral := JsonValue.Numeral.positive whole .absent .absent
  rw [List.append_nil, List.append_nil] at numeral
  exact .number numeral

/-- A number below the bound is read back. -/
theorem natural?_ofNat {bound : Nat} (fits : n < bound) : natural? bound (.ofNat n) = some n := by
  simp [natural?, JsonValue.ofNat, canonicalNatural?_toDigits, fits]

/-- Numbers below a bound are restored from their decimal digits. -/
theorem follows_natural {bound : Nat} {there : α → Nat} {back : Nat → α} (fits : ∀ a, there a < bound)
    (rebuilt : ∀ a, back (there a) = a) :
    let f : JsonFormat α := ⟨fun a => .ofNat (there a), fun j => (natural? bound j).map back⟩
    f.Follows (.exact f) := by
  apply follows_exact
  · exact fun a => spells_ofNat (there a)
  · intro a
    simp only [natural?_ofNat (fits a), Option.map_some, rebuilt]

theorem follows_u8 : u8.Follows (.exact u8) :=
  follows_natural UInt8.toNat_lt fun _ => UInt8.ofNat_toNat

theorem follows_u32 : u32.Follows (.exact u32) :=
  follows_natural UInt32.toNat_lt fun _ => UInt32.ofNat_toNat

theorem follows_u64 : u64.Follows (.exact u64) :=
  follows_natural UInt64.toNat_lt fun _ => UInt64.ofNat_toNat

/-- Lists are restored if their items are. -/
theorem follows_list (follows : f.Follows (.exact f)) : (list f).Follows (.exact (list f)) := by
  apply follows_exact
  · intro as
    apply JsonValue.spells_array
    intro j listed
    rcases List.mem_map.1 listed with ⟨a, -, rfl⟩
    exact (follows.writes a).1
  · exact mapM_map_of_reads follows.reads_write

/-- An array of a fixed length is read back from an array of numbers. -/
theorem follows_array : (array n).Follows (.exact (array n)) := by
  apply follows_exact
  · exact fun b => ((follows_list follows_u8).writes b.toList).1
  · intro b
    simp [array, (follows_list follows_u8).reads_write b.toList]

theorem follows_bytes : (bytes n).Follows (.exact (bytes n)) :=
  follows_exact (fun b => (follows_array.writes b).1) fun b => follows_array.reads_write b

/-- An amount is read back from its text. -/
theorem follows_u256 : u256.Follows (.exact u256) := by
  apply follows_exact
  · exact fun a => JsonValue.spells_ofText (plain_hexText a)
  · intro a
    simp [u256, JsonValue.ofText, text?_ofText (visible_of_plain (plain_hexText a)), U256.ofHexText?_hexText]

theorem follows_operatorId : operatorId.Follows .operatorId :=
  follows_array.of OperatorId.bytes OperatorId.mk fun _ => rfl

theorem follows_quorumNum : quorumNum.Follows .quorumNum :=
  follows_u8.of QuorumNum.number QuorumNum.mk fun _ => rfl

/-! ### Stakes -/

/-- A text that is written without escapes is read as it is. -/
theorem plainText?_ofText (text : List Char) : plainText? (StringPart.ofText text) = some text := by
  apply mapM_map_of_reads
  exact fun _ => rfl

/-- A stake is read back from its member. -/
theorem stakeMember?_write (entry : QuorumNum × U256) :
    stakeMember? (StringPart.ofText (Nat.toDigits 10 entry.1.number.toNat), u256.write entry.2) =
      some entry := by
  have small : entry.1.number.toNat < 1 <<< 8 := entry.1.number.toNat_lt
  simp only [stakeMember?, plainText?_ofText, canonicalNatural?_toDigits, Option.bind_eq_bind,
    Option.bind_some, Option.filter_some, small, decide_true, if_true, follows_u256.reads_write,
    UInt8.ofNat_toNat]
  rfl

/-- Stakes are read back from their members in any order. -/
theorem follows_stakes : stakes.Follows .stakes where
  writes s := by
    refine ⟨?_, s.toList, .refl _, rfl⟩
    apply JsonValue.spells_object
    intro m member
    rcases List.mem_map.1 member with ⟨⟨q, amount⟩, -, rfl⟩
    exact ⟨JsonValue.pieces_ofText (plain_toDigits (by decide) (by decide) _),
      (follows_u256.writes amount).1⟩
  reads j s stands _ := by
    rcases stands with ⟨entries, same, rfl⟩
    have read : (JsonForms.stakeMembers entries).mapM stakeMember? = some entries :=
      mapM_map_of_reads stakeMember?_write entries
    simp [stakes, read, SortedMap.ofList_of_perm same]
  refuses _ repeats := repeats.elim

/-! ### Records -/

/-- A record of bytes is read back, also with members that nobody reads. -/
theorem follows_bytesRecord : (bytesRecord n).Follows (.bytesRecord n) where
  writes b := recordObject_writes (.cons ⟨rfl, .of rfl, follows_bytes.writes b⟩ .nil)
  reads j b stands skippable := by
    rcases recordFields?_of_stands ["bytes"] rfl (by decide) stands skippable 0 with ⟨vs, found, each⟩
    match vs, found, each with
    | [v], found, .cons ⟨held, skippable⟩ .nil =>
      simp [bytesRecord, found, follows_bytes.reads v b held skippable]
  refuses j repeats := by
    have unread := recordFields?_of_repeats_flat ["bytes"] rfl (by simp) repeats 0
    simp [bytesRecord, unread]

theorem follows_signature : signature.Follows .signature :=
  follows_bytesRecord.of Signature.bytes Signature.mk fun _ => rfl

theorem follows_g1PublicKey : g1PublicKey.Follows .g1PublicKey :=
  follows_bytesRecord.of G1PublicKey.bytes G1PublicKey.mk fun _ => rfl

theorem follows_g2PublicKey : g2PublicKey.Follows .g2PublicKey :=
  follows_bytesRecord.of G2PublicKey.bytes G2PublicKey.mk fun _ => rfl

/-- The second key of an operator may be absent, null or a key. -/
theorem follows_secondKey : (option g2PublicKey).Follows JsonForms.g2PublicKey.option :=
  follows_g2PublicKey.option rfl (nomatch ·)

/-- Members are told apart by their names, so they may come in any order; so it is with every record. -/
theorem follows_operatorPubkeys : operatorPubkeys.Follows .operatorPubkeys where
  writes p := recordObject_writes
    (.cons ⟨rfl, .of rfl, follows_g1PublicKey.writes p.g1⟩
      (.cons ⟨rfl, .of rfl, follows_secondKey.writes p.g2⟩ .nil))
  reads j p stands skippable := by
    rcases recordFields?_of_stands ["g1", "g2"] rfl (by decide) stands skippable 0 with ⟨vs, found, each⟩
    match vs, found, each with
    | [a, b], found, .cons ⟨heldA, skippableA⟩ (.cons ⟨heldB, skippableB⟩ .nil) =>
      simp [operatorPubkeys, found, follows_g1PublicKey.reads a p.g1 heldA skippableA,
        follows_secondKey.reads b p.g2 heldB skippableB]
  refuses j repeats := by
    rcases recordFields?_of_repeats ["g1", "g2"] rfl repeats 0 with
      unread | ⟨value, found, field, listed, v, held, repeats⟩
    · simp [operatorPubkeys, unread]
    · simp only [List.mem_cons, List.not_mem_nil, or_false] at listed
      rcases listed with rfl | rfl
      · have held : value "g1" = some v := held
        simp [operatorPubkeys, found, held, follows_g1PublicKey.refuses v repeats]
      · have held : value "g2" = some v := held
        cases first : value "g1" <;>
          simp [operatorPubkeys, found, first, held, follows_secondKey.refuses v repeats]

/-- An operator is read back from its four members. -/
theorem follows_operatorState : operatorState.Follows .operatorState where
  writes o := recordObject_writes
    (.cons ⟨rfl, .of rfl, follows_operatorId.writes o.id⟩
      (.cons ⟨rfl, .of rfl, follows_operatorPubkeys.writes o.pubkeys⟩
        (.cons ⟨rfl, .of rfl, follows_stakes.writes o.stakes⟩
          (.cons ⟨rfl, .of rfl, follows_u32.writes o.block⟩ .nil))))
  reads j o stands skippable := by
    rcases recordFields?_of_stands ["operator_id", "pubkeys", "stake_per_quorum", "block_number"] rfl
      (by decide) stands skippable 0 with ⟨vs, found, each⟩
    match vs, found, each with
    | [i, p, s, b], found, .cons ⟨heldI, skipI⟩ (.cons ⟨heldP, skipP⟩
        (.cons ⟨heldS, skipS⟩ (.cons ⟨heldB, skipB⟩ .nil))) =>
      simp [operatorState, found, follows_operatorId.reads i o.id heldI skipI,
        follows_operatorPubkeys.reads p o.pubkeys heldP skipP, follows_stakes.reads s o.stakes heldS skipS,
        follows_u32.reads b o.block heldB skipB]
  refuses j repeats := by
    rcases recordFields?_of_repeats ["operator_id", "pubkeys", "stake_per_quorum", "block_number"] rfl
      repeats 0 with unread | ⟨value, found, field, listed, v, held, repeats⟩
    · simp [operatorState, unread]
    · simp only [List.mem_cons, List.not_mem_nil, or_false] at listed
      rcases listed with rfl | rfl | rfl | rfl
      · cases repeats
      · have held : value "pubkeys" = some v := held
        simp only [operatorState, found, Option.bind_eq_bind, Option.bind_some, List.map_cons, List.map_nil]
        split
        · next all =>
          simp only [held, List.cons.injEq, Option.some.injEq] at all
          rcases all with ⟨-, rfl, -⟩
          simp [follows_operatorPubkeys.refuses v repeats]
        · rfl
      · cases repeats
      · cases repeats

/-- A quorum is read back from its members. -/
theorem follows_quorumState : quorumState.Follows .quorumState where
  writes s := recordObject_writes
    (.cons ⟨rfl, .of rfl, follows_quorumNum.writes s.quorum⟩
      (.cons ⟨rfl, .of rfl, follows_u256.writes s.totalStake⟩
        (.cons ⟨rfl, .of rfl, follows_g1PublicKey.writes s.aggregateKey⟩
          (.cons ⟨rfl, .of rfl, follows_u32.writes s.block⟩ .nil))))
  reads j s stands skippable := by
    rcases recordFields?_of_stands ["quorum_number", "total_stake", "agg_pubkey_g1", "block_number"] rfl
      (by decide) stands skippable 0 with ⟨vs, found, each⟩
    match vs, found, each with
    | [q, t, k, b], found, .cons ⟨heldQ, skipQ⟩ (.cons ⟨heldT, skipT⟩
        (.cons ⟨heldK, skipK⟩ (.cons ⟨heldB, skipB⟩ .nil))) =>
      simp [quorumState, found, follows_quorumNum.reads q s.quorum heldQ skipQ,
        follows_u256.reads t s.totalStake heldT skipT, follows_g1PublicKey.reads k s.aggregateKey heldK skipK,
        follows_u32.reads b s.block heldB skipB]
  refuses j repeats := by
    rcases recordFields?_of_repeats ["quorum_number", "total_stake", "agg_pubkey_g1", "block_number"] rfl
      repeats 0 with unread | ⟨value, found, field, listed, v, held, repeats⟩
    · simp [quorumState, unread]
    · simp only [List.mem_cons, List.not_mem_nil, or_false] at listed
      rcases listed with rfl | rfl | rfl | rfl
      · cases repeats
      · cases repeats
      · have held : value "agg_pubkey_g1" = some v := held
        simp only [quorumState, found, Option.bind_eq_bind, Option.bind_some, List.map_cons, List.map_nil]
        split
        · next all =>
          simp only [held, List.cons.injEq, Option.some.injEq] at all
          rcases all with ⟨-, -, rfl, -⟩
          simp [follows_g1PublicKey.refuses v repeats]
        · rfl
      · cases repeats

theorem follows_positions : (list u32).Follows .positions := follows_list follows_u32

/-- Indices are read back from the four lists. -/
theorem follows_indices : indices.Follows .indices where
  writes x := recordObject_writes
    (.cons ⟨rfl, .of rfl, follows_positions.writes x.nonSignerBitmaps⟩
      (.cons ⟨rfl, .of rfl, follows_positions.writes x.quorumKeys⟩
        (.cons ⟨rfl, .of rfl, follows_positions.writes x.totalStakes⟩
          (.cons ⟨rfl, .of rfl, (follows_list follows_positions).writes x.nonSignerStakes⟩ .nil))))
  reads j x stands skippable := by
    rcases recordFields?_of_stands ["non_signer_quorum_bitmap_indices", "quorum_apk_indices",
      "total_stake_indices", "non_signer_stake_indices"] rfl (by decide) stands skippable 0 with
      ⟨vs, found, each⟩
    match vs, found, each with
    | [n, q, t, s], found, .cons ⟨heldN, skipN⟩ (.cons ⟨heldQ, skipQ⟩
        (.cons ⟨heldT, skipT⟩ (.cons ⟨heldS, skipS⟩ .nil))) =>
      simp [indices, found, follows_positions.reads n x.nonSignerBitmaps heldN skipN,
        follows_positions.reads q x.quorumKeys heldQ skipQ,
        follows_positions.reads t x.totalStakes heldT skipT,
        (follows_list follows_positions).reads s x.nonSignerStakes heldS skipS]
  refuses j repeats := by
    have unread := recordFields?_of_repeats_flat ["non_signer_quorum_bitmap_indices", "quorum_apk_indices",
      "total_stake_indices", "non_signer_stake_indices"] rfl (by simp [JsonForms.positions]) repeats 0
    simp [indices, unread]

/-- A configuration is read back from its two numbers. -/
theorem follows_config : config.Follows .config where
  writes c := recordObject_writes
    (.cons ⟨rfl, .of rfl, follows_u64.writes c.inboxCapacity⟩
      (.cons ⟨rfl, .of rfl, follows_u64.writes c.maxActiveTasks⟩ .nil))
  reads j c stands skippable := by
    rcases recordFields?_of_stands ["signature_channel_capacity", "max_active_tasks"] rfl (by decide)
      stands skippable 2 with ⟨vs, found, each⟩
    match vs, found, each with
    | [a, b], found, .cons ⟨heldA, skippableA⟩ (.cons ⟨heldB, skippableB⟩ .nil) =>
      simp [config, found, follows_u64.reads a c.inboxCapacity heldA skippableA,
        follows_u64.reads b c.maxActiveTasks heldB skippableB]
  refuses j repeats := by
    have unread := recordFields?_of_repeats_flat ["signature_channel_capacity", "max_active_tasks"] rfl
      (by simp) repeats 2
    simp [config, unread]

/-! ### Texts -/

variable {forms : JsonForms α}

/-- A reader that follows the documents of a record restores it from the texts of these documents. -/
theorem Follows.restores (follows : f.Follows forms) : f.Restores forms := by
  have varied : ∀ text j a, Spells text j → forms.stands j a → f.parse? text = some a := by
    intro text j a spells stands
    simp [parse?, JsonValue.parse?_of_spells spells,
      follows.reads j a stands (JsonValue.skippable_of_spells spells)]
  refine ⟨?_, varied, ?_⟩
  · intro a
    rcases follows.writes a with ⟨spells, stands⟩
    exact ⟨varied _ _ a spells.spells stands, spells.spells, stands⟩
  · intro text j spells repeats
    simp [parse?, JsonValue.parse?_of_spells spells, follows.refuses j repeats]

/-- The registry's records and the configuration are restored from their JSON texts. -/
theorem texts_restored :
    operatorId.Restores .operatorId ∧ quorumNum.Restores .quorumNum ∧ signature.Restores .signature ∧
    g1PublicKey.Restores .g1PublicKey ∧ g2PublicKey.Restores .g2PublicKey ∧
    operatorPubkeys.Restores .operatorPubkeys ∧ operatorState.Restores .operatorState ∧
    quorumState.Restores .quorumState ∧ indices.Restores .indices ∧ config.Restores .config ∧
    u256.Restores (.exact u256) ∧ ∀ a, U256.ofHexText? a.hexText = some a :=
  ⟨follows_operatorId.restores, follows_quorumNum.restores, follows_signature.restores,
    follows_g1PublicKey.restores, follows_g2PublicKey.restores, follows_operatorPubkeys.restores,
    follows_operatorState.restores, follows_quorumState.restores, follows_indices.restores,
    follows_config.restores, follows_u256.restores, U256.ofHexText?_hexText⟩

/-- Limits in reverse order around a field of another name are read, and a limit given twice is not. -/
theorem texts_restored_samples :
    let c : Config := ⟨5, 7⟩
    let capacity := (StringPart.ofText "signature_channel_capacity".toList, JsonValue.ofNat 5)
    let limit := (StringPart.ofText "max_active_tasks".toList, JsonValue.ofNat 7)
    let other := (StringPart.ofText "x".toList, JsonValue.array [.null, .object []])
    let varied : JsonValue := .object [limit, other, capacity]
    let repeated : JsonValue := .object [limit, other, capacity, limit]
    (JsonForms.config.stands varied c ∧ config.parse? varied.write = some c) ∧
    (JsonForms.config.repeats repeated ∧ config.parse? repeated.write = none) := by
  intro c capacity limit other varied repeated
  have plain : PlainName "signature_channel_capacity" ∧ PlainName "max_active_tasks" ∧ PlainName "x" :=
    ⟨.of rfl, .of rfl, .of rfl⟩
  have stands : JsonForms.config.stands varied c := by
    have swapped : ([limit, other] ++ [capacity]).Perm ([capacity] ++ [limit, other]) :=
      List.perm_append_comm
    have perm : [limit, other, capacity].Perm ([capacity, limit] ++ [other]) := swapped
    refine .object perm ?_ ?_
    · exact .cons ⟨plain.1.text?, rfl⟩ (.cons ⟨plain.2.1.text?, rfl⟩ .nil)
    · intro m listed
      cases List.mem_singleton.1 listed
      exact ⟨"x".toList, plain.2.2.text?, by decide⟩
  have repeats : JsonForms.config.repeats repeated := by
    have both : [limit, limit].Sublist [limit, other, capacity, limit] :=
      .cons_cons limit (.cons other (.cons capacity (.cons_cons limit .slnil)))
    exact .twice (List.mem_cons_of_mem _ List.mem_cons_self) both plain.2.1.text? plain.2.1.text?
  have spells : ∀ m ∈ [limit, other, capacity, limit], (∀ p ∈ m.1, Piece p) ∧ SpellsValue m.2.write m.2 := by
    have nested : SpellsValue (JsonValue.array [.null, .object []]).write (.array [.null, .object []]) := by
      apply JsonValue.spells_array
      simp only [List.mem_cons, List.not_mem_nil, or_false, forall_eq_or_imp, forall_eq]
      exact ⟨.null, .noMembers JsonValue.blank_nil⟩
    simp only [List.mem_cons, List.not_mem_nil, or_false, forall_eq_or_imp, forall_eq]
    exact ⟨⟨plain.2.1.pieces, spells_ofNat 7⟩, ⟨plain.2.2.pieces, nested⟩,
      ⟨plain.1.pieces, spells_ofNat 5⟩, plain.2.1.pieces, spells_ofNat 7⟩
  rcases texts_restored with ⟨-, -, -, -, -, -, -, -, -, restores, -⟩
  refine ⟨⟨stands, restores.varied _ _ c (JsonValue.spells_object ?_).spells stands⟩, repeats,
    restores.repeated _ _ (JsonValue.spells_object spells).spells repeats⟩
  intro m listed
  exact spells m (List.mem_append_left [limit] listed)

/-- A field that nobody reads makes a text unreadable if its name is half of a surrogate pair, although
the text is one of the grammar. -/
theorem unread_name_refused :
    let c : Config := ⟨5, 7⟩
    let members := [(StringPart.ofText "signature_channel_capacity".toList, JsonValue.ofNat 5),
      (StringPart.ofText "max_active_tasks".toList, JsonValue.ofNat 7)]
    let other := ([StringPart.unit ['d', '8', '0', '0'] 0xd800], JsonValue.ofNat 1)
    let text := "\x7b\"\\ud800\":1,\"signature_channel_capacity\":5,\"max_active_tasks\":7\x7d".toList
    config.write c = .object members ∧ Spells text (.object (other :: members)) ∧
      config.parse? text = none := by
  intro c members other text
  have spells : Spells text (.object (other :: members)) := by
    have written : text = (JsonValue.object (other :: members)).write := String.toList_ofList
    rw [written]
    apply JsonValue.SpellsValue.spells
    apply JsonValue.spells_object
    have surrogate : Piece (.unit ['d', '8', '0', '0'] (13 * 4096 + 8 * 256 + 0 * 16 + 0)) :=
      .unit rfl rfl rfl rfl
    have plain : PlainName "signature_channel_capacity" ∧ PlainName "max_active_tasks" :=
      ⟨.of rfl, .of rfl⟩
    simp only [members, List.mem_cons, List.not_mem_nil, or_false, forall_eq_or_imp, forall_eq]
    exact ⟨⟨List.forall_mem_singleton.2 surrogate, spells_ofNat 1⟩, ⟨plain.1.pieces, spells_ofNat 5⟩,
      plain.2.pieces, spells_ofNat 7⟩
  have nameless : StringPart.text? other.1 = none := by decide
  have unread := recordFields?_of_nameless ["signature_channel_capacity", "max_active_tasks"] 2
    (List.mem_cons_self : other ∈ other :: members) nameless
  refine ⟨rfl, spells, ?_⟩
  simp [parse?, JsonValue.parse?_of_spells spells, config, unread]

end JsonFormat

end Attestation
