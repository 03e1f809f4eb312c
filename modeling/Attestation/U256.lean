/-
Module: Attestation.U256
Purpose: Unsigned 256-bit amounts. Stakes are sums of such amounts that stop at the largest one instead
  of wrapping, so a sum is exact or the largest amount, never a small number.
Main exports: U256, U256.saturatingAdd, U256.ofBytes, U256.toBytes, U256.decimal
-/
import Attestation.Bytes

namespace Attestation

/-- A natural number below `2 ^ 256`. -/
@[ext] structure U256 where
  val : Nat
  isLt : val < 1 <<< 256
deriving DecidableEq

namespace U256

/-- The amount equal to a natural number, if it is small enough. -/
def ofNat? (n : Nat) : Option U256 := if h : n < 1 <<< 256 then some ⟨n, h⟩ else none

/-- The largest amount. -/
def max : U256 := ⟨(1 <<< 256) - 1, by decide⟩

instance : Zero U256 := ⟨⟨0, by decide⟩⟩

instance : Inhabited U256 := ⟨0⟩

/-- Amounts are ordered as numbers. -/
instance : LE U256 := ⟨fun a b => a.val ≤ b.val⟩

instance (a b : U256) : Decidable (a ≤ b) := inferInstanceAs (Decidable (a.val ≤ b.val))

/-- The sum, or the largest amount where the sum would be larger. -/
def saturatingAdd (a b : U256) : U256 :=
  ⟨min (a.val + b.val) ((1 <<< 256) - 1), by omega⟩

@[simp] theorem val_zero : (0 : U256).val = 0 := rfl

@[simp] theorem val_saturatingAdd (a b : U256) :
    (a.saturatingAdd b).val = min (a.val + b.val) ((1 <<< 256) - 1) := rfl

/-- The amount written in 32 big-endian bytes. -/
def toBytes (a : U256) : Bytes 32 := Bytes.ofNat 32 a.val

/-- The amount that 32 big-endian bytes stand for. -/
def ofBytes (b : Bytes 32) : U256 := ⟨b.toNat, Nat.lt_of_lt_of_eq b.toNat_lt (by decide)⟩

@[simp] theorem ofBytes_toBytes (a : U256) : ofBytes a.toBytes = a := by
  apply U256.ext
  show (Bytes.ofNat 32 a.val).toNat = a.val
  rw [Bytes.toNat_ofNat]
  exact Nat.mod_eq_of_lt (Nat.lt_of_lt_of_eq a.isLt (by decide))

@[simp] theorem toBytes_ofBytes (b : Bytes 32) : (ofBytes b).toBytes = b := Bytes.ofNat_toNat b

/-- Decimal digits without leading zeros. -/
def decimal (a : U256) : String := String.ofList (Nat.toDigits 10 a.val)

end U256

end Attestation
