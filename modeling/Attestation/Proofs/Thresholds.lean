/-
Module: Attestation.Proofs.Thresholds
Purpose: The comparison of stakes with thresholds, for all amounts. It is exact, and may as well be made in
  words of 512 bits, since no product of two amounts wraps there. Thresholds that are met stay met when
  more is signed, when a total or a percentage is smaller, when further quorums are recorded, and when
  fewer quorums are required. The order in which entries are listed does not count.
Main exports: U256.fullMul, U256.toNat_fullMul, meetsThreshold_iff, meetsThreshold_eq_fullMul,
  Stakes.Lowered, Eased, meetsThresholds_of_easier, meetsListed, meetsListed_of_perm, thresholds_compared
-/
import Attestation.Proofs.Stakes

namespace Attestation

namespace U256

/-- A byte as an amount. -/
def ofUInt8 (n : UInt8) : U256 := ⟨n.toNat, Nat.lt_trans n.toNat_lt (by decide)⟩

/-- The product of two amounts in a word of 512 bits; what does not fit into the word is lost. -/
def fullMul (a b : U256) : BitVec 512 := .ofNat 512 a.val * .ofNat 512 b.val

/-- No product is too large for a word of twice the width. -/
theorem toNat_mul_twice {v w m n : Nat} (twice : v = w + w) (left : m < 1 <<< w) (right : n < 1 <<< w) :
    (BitVec.ofNat v m * .ofNat v n).toNat = m * n := by
  have fits : m * n < 2 ^ v := by
    rw [Nat.one_shiftLeft] at left right
    rw [twice, Nat.pow_add]
    exact Nat.mul_lt_mul'' left right
  simp only [BitVec.toNat_mul, BitVec.toNat_ofNat, ← Nat.mul_mod]
  exact Nat.mod_eq_of_lt fits

theorem toNat_fullMul (a b : U256) : (a.fullMul b).toNat = a.val * b.val :=
  toNat_mul_twice rfl a.isLt b.isLt

end U256

section Single

variable (signed total : U256) (p : UInt8)

theorem meetsThreshold_iff :
    meetsThreshold signed total p = true ↔ total.val * p.toNat ≤ signed.val * 100 := by
  simp [meetsThreshold]

/-- The products may be compared as words of 512 bits. -/
theorem meetsThreshold_eq_fullMul :
    meetsThreshold signed total p = decide (total.fullMul (.ofUInt8 p) ≤ signed.fullMul (.ofUInt8 100)) := by
  simp only [meetsThreshold, BitVec.le_def, U256.toNat_fullMul]
  rfl

end Single

-- Words of 256 bits would not do: where all of the largest total signs, the product that should be larger
-- wraps further.
example : meetsThreshold .max .max 60 = true ∧
    ¬ BitVec.ofNat 256 U256.max.val * 60 ≤ BitVec.ofNat 256 U256.max.val * 100 := by decide

namespace Stakes

variable {a : Stakes} {q : QuorumNum} {v : U256}

/-- Every quorum of the first has at most as much in the second. -/
def Lowered (a b : Stakes) : Prop :=
  ∀ q, a.contains q = true → b.contains q = true ∧ b.amount q ≤ a.amount q

theorem amount_insert (a : Stakes) (q q' : QuorumNum) (v : U256) :
    amount (a.insert q v) q' = if q' = q then v else a.amount q' := by
  unfold amount
  rw [SortedMap.get?_insert]
  split <;> rfl

/-- Recorded again, a stake keeps its place. -/
theorem contains_insert_of_contains {q' : QuorumNum} (present : a.contains q' = true) :
    (a.insert q v).contains q' = true := by
  rw [SortedMap.contains_insert, present, Bool.or_true]

/-- A stake is raised, or recorded for a further quorum. -/
theorem atMost_insert (larger : a.amount q ≤ v) : a.AtMost (a.insert q v) := by
  intro q' present
  refine ⟨contains_insert_of_contains present, ?_⟩
  rw [amount_insert]
  split
  next same => exact same ▸ larger
  next => exact Nat.le_refl _

/-- A total is lowered, or recorded for a further quorum. -/
theorem lowered_insert (smaller : a.contains q = true → v ≤ a.amount q) : a.Lowered (a.insert q v) := by
  intro q' present
  refine ⟨contains_insert_of_contains present, ?_⟩
  rw [amount_insert]
  split
  next same => exact same ▸ smaller (same ▸ present)
  next => exact Nat.le_refl _

end Stakes

/-- Whatever the second requires of a quorum, the first requires at least as much of it. -/
def Eased (a b : SortedMap QuorumNum UInt8) : Prop :=
  ∀ q p, b.get? q = some p → ∃ larger, a.get? q = some larger ∧ p ≤ larger

theorem Eased.trans {a b c : SortedMap QuorumNum UInt8} (first : Eased a b) (further : Eased b c) :
    Eased a c := by
  intro q p required
  obtain ⟨between, required, smaller⟩ := further q p required
  obtain ⟨largest, required, larger⟩ := first q between required
  exact ⟨largest, required, UInt8.le_trans smaller larger⟩

/-- A percentage is lowered. -/
theorem eased_insert {a : SortedMap QuorumNum UInt8} {q : QuorumNum} {p larger : UInt8}
    (required : a.get? q = some larger) (smaller : p ≤ larger) : Eased a (a.insert q p) := by
  intro q' p' found
  rw [SortedMap.get?_insert] at found
  split at found
  next same =>
    cases found
    exact ⟨larger, same ▸ required, smaller⟩
  next => exact ⟨p', found, UInt8.le_refl p'⟩

/-- A quorum is no longer required. -/
theorem eased_erase (a : SortedMap QuorumNum UInt8) (q : QuorumNum) : Eased a (a.erase q) := by
  intro q' p' found
  rw [SortedMap.get?_erase] at found
  split at found
  next => cases found
  next => exact ⟨p', found, UInt8.le_refl p'⟩

/-- Thresholds that are met stay met when the check gets easier. -/
theorem meetsThresholds_of_easier {signed more total less : Stakes}
    {thresholds eased : SortedMap QuorumNum UInt8} (raised : signed.AtMost more) (lowered : total.Lowered less)
    (easier : Eased thresholds eased) (met : meetsThresholds signed total thresholds = true) :
    meetsThresholds more less eased = true := by
  apply meetsThresholds_mono raised
  apply meetsThresholds_iff.2
  intro q p required
  obtain ⟨larger, required, smaller⟩ := easier q p required
  obtain ⟨present, known, enough⟩ := meetsThresholds_iff.1 met q larger required
  obtain ⟨known, atMost⟩ := lowered q known
  refine ⟨present, known, ?_⟩
  calc (less.amount q).val * p.toNat
      ≤ (total.amount q).val * larger.toNat := Nat.mul_le_mul atMost (UInt8.le_iff_toNat_le.1 smaller)
    _ ≤ (signed.amount q).val * 100 := enough

/-- The check over entries as they happen to be listed: one threshold after another, and the stakes of its
quorum are looked for among the entries. -/
def meetsListed (signed total : List (QuorumNum × U256)) (thresholds : List (QuorumNum × UInt8)) : Bool :=
  thresholds.all fun (quorum, percentage) =>
    match SortedMap.lookup quorum signed, SortedMap.lookup quorum total with
    | some s, some t => meetsThreshold s t percentage
    | _, _ => false

/-- The check does not depend on the order of the entries of any of the three maps. -/
theorem meetsListed_of_perm {signed total : Stakes} {thresholds : SortedMap QuorumNum UInt8}
    {signedEntries totalEntries : List (QuorumNum × U256)} {required : List (QuorumNum × UInt8)}
    (allSigned : signedEntries.Perm signed.toList) (allTotal : totalEntries.Perm total.toList)
    (allRequired : required.Perm thresholds.toList) :
    meetsListed signedEntries totalEntries required = meetsThresholds signed total thresholds := by
  unfold meetsListed meetsThresholds
  simp only [SortedMap.lookup_of_perm allSigned, SortedMap.lookup_of_perm allTotal]
  exact allRequired.all_eq

/-- A threshold is compared exactly, as with words of 512 bits; thresholds that are met stay met when the
check gets easier; and no order of entries counts. -/
theorem thresholds_compared :
    (∀ (signed total : U256) (p : UInt8),
      (meetsThreshold signed total p = true ↔ total.val * p.toNat ≤ signed.val * 100) ∧
      meetsThreshold signed total p =
        decide (total.fullMul (.ofUInt8 p) ≤ signed.fullMul (.ofUInt8 100))) ∧
    (∀ (signed more total less : Stakes) (thresholds eased : SortedMap QuorumNum UInt8),
      signed.AtMost more → total.Lowered less → Eased thresholds eased →
      meetsThresholds signed total thresholds = true → meetsThresholds more less eased = true) ∧
    ∀ (signed total : Stakes) (thresholds : SortedMap QuorumNum UInt8)
      (signedEntries totalEntries : List (QuorumNum × U256)) (required : List (QuorumNum × UInt8)),
      signedEntries.Perm signed.toList → totalEntries.Perm total.toList →
      required.Perm thresholds.toList →
      meetsListed signedEntries totalEntries required = meetsThresholds signed total thresholds := by
  refine ⟨?_, ?_, ?_⟩
  · intro signed total p
    exact ⟨meetsThreshold_iff signed total p, meetsThreshold_eq_fullMul signed total p⟩
  · intro signed more total less thresholds eased raised lowered easier met
    exact meetsThresholds_of_easier raised lowered easier met
  · intro signed total thresholds signedEntries totalEntries required allSigned allTotal allRequired
    exact meetsListed_of_perm allSigned allTotal allRequired

/-- Two quorums are just met. Then more is signed in the first, of which less is required; a third is
recorded, and the second is no longer required; and the entries may be listed in descending order. -/
theorem thresholds_compared_sample :
    let q (n : UInt8) : QuorumNum := ⟨n⟩
    let signed : Stakes := .ofList [(q 0, .clamp 60), (q 1, .max)]
    let total : Stakes := .ofList [(q 0, .clamp 100), (q 1, .max)]
    let thresholds := SortedMap.ofList [(q 0, (60 : UInt8)), (q 1, 100)]
    signed.AtMost (signed.insert (q 0) (.clamp 61)) ∧ total.Lowered (total.insert (q 2) .max) ∧
    Eased thresholds ((thresholds.insert (q 0) 59).erase (q 1)) ∧
    meetsThresholds signed total thresholds = true ∧
    meetsThresholds (signed.insert (q 0) (.clamp 61)) (total.insert (q 2) .max)
      ((thresholds.insert (q 0) 59).erase (q 1)) = true ∧
    meetsListed signed.toList.reverse total.toList.reverse thresholds.toList.reverse = true := by
  intro q signed total thresholds
  obtain ⟨-, easier, listed⟩ := thresholds_compared
  have raised : signed.AtMost (signed.insert (q 0) (.clamp 61)) := Stakes.atMost_insert (by decide)
  have further : total.Lowered (total.insert (q 2) .max) := Stakes.lowered_insert (by decide)
  have less : Eased thresholds (thresholds.insert (q 0) 59) :=
    eased_insert (show thresholds.get? (q 0) = some 60 by decide) (by decide)
  have fewer : Eased thresholds ((thresholds.insert (q 0) 59).erase (q 1)) := less.trans (eased_erase _ (q 1))
  have met : meetsThresholds signed total thresholds = true := by decide
  refine ⟨raised, further, fewer, met, easier _ _ _ _ _ _ raised further fewer met, ?_⟩
  rw [listed signed total thresholds _ _ _ (List.reverse_perm _) (List.reverse_perm _)
    (List.reverse_perm _)]
  exact met

end Attestation
