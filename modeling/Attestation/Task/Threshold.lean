/-
Module: Attestation.Task.Threshold
Purpose: When the stake that signed is enough. The comparison is exact over natural numbers, so no
  product wraps; a quorum without a recorded signed or total stake is never met.
Main exports: meetsThreshold, meetsThresholds
-/
import Attestation.Registry.State

namespace Attestation

/-- Whether the signed stake is at least the given percentage of the total. -/
def meetsThreshold (signed total : U256) (percentage : UInt8) : Bool :=
  total.val * percentage.toNat ≤ signed.val * 100

/-- Whether every quorum that has a threshold meets it. -/
def meetsThresholds (signed total : Stakes) (thresholds : SortedMap QuorumNum UInt8) : Bool :=
  thresholds.toList.all fun (quorum, percentage) =>
    match signed.get? quorum, total.get? quorum with
    | some s, some t => meetsThreshold s t percentage
    | _, _ => false

end Attestation
