/-
Module: Attestation.Proofs.Stakes
Purpose: Sums of stake and what a threshold makes of them. Stakes are added quorum by quorum and each sum
  stops at the largest amount, but however many stakes are added, the result is the exact sum cut off
  once: nothing is lost before that, and nothing depends on the order. Stake that is added never makes a
  met threshold unmet.
Main exports: U256.clamp, Stakes.amount, Stakes.contains_add, Stakes.amount_add, Stakes.AtMost,
  meetsThresholds_iff, meetsThresholds_mono
-/
import Attestation.Task.Threshold

namespace Attestation

namespace U256

/-- The number as an amount, or the largest amount where the number is larger. -/
def clamp (n : Nat) : U256 := ⟨min n ((1 <<< 256) - 1), by omega⟩

@[simp] theorem val_clamp (n : Nat) : (clamp n).val = min n ((1 <<< 256) - 1) := rfl

/-- An amount added to a sum that was cut off gives the larger sum, cut off. -/
theorem saturatingAdd_clamp (n : Nat) (a : U256) : (clamp n).saturatingAdd a = clamp (n + a.val) := by
  apply U256.ext
  simp only [val_saturatingAdd, val_clamp]
  omega

@[simp] theorem saturatingAdd_zero (a : U256) : a.saturatingAdd 0 = a := by
  apply U256.ext
  have small := a.isLt
  simp only [val_saturatingAdd, val_zero]
  omega

end U256

namespace Stakes

/-- The stake in a quorum; zero where none is recorded. -/
def amount (s : Stakes) (q : QuorumNum) : U256 := (s.get? q).getD 0

theorem amount_of_get? {s : Stakes} {q : QuorumNum} {a : U256} (found : s.get? q = some a) :
    s.amount q = a := by
  rw [amount, found, Option.getD_some]

/-- One entry of the stakes that are added. -/
def addEntry (sum : Stakes) (e : QuorumNum × U256) : Stakes :=
  sum.insert e.1 ((sum.amount e.1).saturatingAdd e.2)

/-- Where no quorum is listed twice, each quorum's stake grows by its own entry. -/
theorem get?_foldl_addEntry (q : QuorumNum) {entries : List (QuorumNum × U256)}
    (sorted : entries.Pairwise fun a b => compare a.1 b.1 = .lt) :
    ∀ a : Stakes, (entries.foldl addEntry a).get? q =
      match SortedMap.lookup q entries with
      | none => a.get? q
      | some added => some ((a.amount q).saturatingAdd added) := by
  induction entries with
  | nil => exact fun _ => rfl
  | cons e rest ih =>
    intro a
    obtain ⟨k, added⟩ := e
    obtain ⟨before, ascending⟩ := List.pairwise_cons.1 sorted
    rw [List.foldl_cons, ih ascending]
    by_cases same : q = k
    · subst same
      -- The entries ascend, so the quorum of the first does not come again.
      have absent : SortedMap.lookup q rest = none := by
        rw [Option.eq_none_iff_forall_ne_some]
        intro v found
        have less := before _ ((SortedMap.lookup_eq_some_iff ascending).1 found)
        simp at less
      simp [absent, SortedMap.lookup, addEntry, SortedMap.get?_insert]
    · have other : (addEntry a (k, added)).get? q = a.get? q := by
        simp [addEntry, SortedMap.get?_insert, same]
      simp only [SortedMap.lookup, amount, other, Std.LawfulEqCmp.compare_eq_iff_eq, same, if_false]

theorem get?_add (a b : Stakes) (q : QuorumNum) :
    (a.add b).get? q = match b.get? q with
      | none => a.get? q
      | some added => some ((a.amount q).saturatingAdd added) :=
  get?_foldl_addEntry q b.ascending a

/-- A sum has the quorums of both. -/
theorem contains_add (a b : Stakes) (q : QuorumNum) :
    (a.add b).contains q = (a.contains q || b.contains q) := by
  unfold SortedMap.contains
  rw [get?_add]
  cases b.get? q <;> simp

/-- In each quorum the amounts are added. -/
theorem amount_add (a b : Stakes) (q : QuorumNum) :
    (a.add b).amount q = (a.amount q).saturatingAdd (b.amount q) := by
  unfold amount
  rw [get?_add]
  cases b.get? q <;> simp [amount]

/-- Every quorum of the first has at least as much in the second. -/
def AtMost (a b : Stakes) : Prop :=
  ∀ q, a.contains q = true → b.contains q = true ∧ a.amount q ≤ b.amount q

/-- Adding stakes takes none away. -/
theorem atMost_add (a b : Stakes) : AtMost a (a.add b) := by
  intro q present
  refine ⟨by rw [contains_add, present, Bool.true_or], ?_⟩
  have small := (a.amount q).isLt
  show (a.amount q).val ≤ ((a.add b).amount q).val
  rw [amount_add, U256.val_saturatingAdd]
  omega

end Stakes

/-- The thresholds are met exactly where each quorum that has one has a recorded signed and total stake,
and the first reaches the percentage of the second. -/
theorem meetsThresholds_iff {signed total : Stakes} {thresholds : SortedMap QuorumNum UInt8} :
    meetsThresholds signed total thresholds = true ↔
      ∀ q p, thresholds.get? q = some p → signed.contains q = true ∧ total.contains q = true ∧
        (total.amount q).val * p.toNat ≤ (signed.amount q).val * 100 := by
  unfold meetsThresholds
  rw [List.all_eq_true, Prod.forall]
  refine forall_congr' fun q => forall_congr' fun p => ?_
  rw [SortedMap.get?_eq_some_iff]
  refine imp_congr_right fun _ => ?_
  dsimp only
  unfold SortedMap.contains Stakes.amount
  cases signed.get? q <;> cases total.get? q <;> simp [meetsThreshold]

/-- Thresholds that are met stay met when the signed stakes grow. -/
theorem meetsThresholds_mono {signed larger total : Stakes} {thresholds : SortedMap QuorumNum UInt8}
    (grown : Stakes.AtMost signed larger) (met : meetsThresholds signed total thresholds = true) :
    meetsThresholds larger total thresholds = true := by
  rw [meetsThresholds_iff] at met ⊢
  intro q p required
  obtain ⟨present, known, enough⟩ := met q p required
  obtain ⟨present, more⟩ := grown q present
  exact ⟨present, known, Nat.le_trans enough (Nat.mul_le_mul_right 100 more)⟩

end Attestation
