/-
Module: Attestation.Curve.Field
Purpose: The prime field under the BLS12-381 curves, and the operations that a curve needs of a field.
  Elements are residues kept below the modulus; sums subtract the modulus at most once.
Main exports: FieldOperations, power, Fp, Fp.ofNat, Fp.sqrt?
-/

namespace Attestation.Curve

/-- The operations of a field; `inv` sends zero to zero. -/
class FieldOperations (F : Type) extends Add F, Sub F, Mul F, Neg F, Zero F, One F, Inv F

/-- The binary digits of an exponent, the most significant first. -/
def exponentBits (n : Nat) : List Bool := ((List.range (n.log2 + 1)).reverse).map n.testBit

/-- The `n`-th power by squaring. -/
@[specialize] def power {F : Type} [Mul F] [One F] (a : F) (n : Nat) : F :=
  (exponentBits n).foldl (fun acc bit => if bit then acc * acc * a else acc * acc) 1

/-- The order of the prime field. -/
def modulus : Nat :=
  0x1a0111ea397fe69a4b1ba7b6434bacd764774b84f38512bf6730d2a0f6b0f6241eabfffeb153ffffb9feffffffffaaab

theorem modulus_pos : 0 < modulus := by decide

/-- A residue modulo the order of the prime field. -/
@[ext] structure Fp where
  val : Nat
  isLt : val < modulus
deriving DecidableEq

namespace Fp

/-- The residue of a natural number. -/
def ofNat (n : Nat) : Fp := ⟨n % modulus, Nat.mod_lt _ modulus_pos⟩

/-- The element with the given value, if the value is reduced. -/
def ofNat? (n : Nat) : Option Fp := if h : n < modulus then some ⟨n, h⟩ else none

def add (a b : Fp) : Fp :=
  if h : a.val + b.val < modulus then ⟨a.val + b.val, h⟩
  else ⟨a.val + b.val - modulus, by have := a.isLt; have := b.isLt; omega⟩

def neg (a : Fp) : Fp :=
  if h : a.val = 0 then a else ⟨modulus - a.val, by have := modulus_pos; omega⟩

def sub (a b : Fp) : Fp :=
  if h : b.val ≤ a.val then ⟨a.val - b.val, by have := a.isLt; omega⟩
  else ⟨a.val + modulus - b.val, by have := a.isLt; have := b.isLt; omega⟩

def mul (a b : Fp) : Fp := ⟨a.val * b.val % modulus, Nat.mod_lt _ modulus_pos⟩

instance : Zero Fp := ⟨⟨0, modulus_pos⟩⟩
instance : One Fp := ⟨⟨1, by decide⟩⟩
instance : Add Fp := ⟨add⟩
instance : Sub Fp := ⟨sub⟩
instance : Mul Fp := ⟨mul⟩
instance : Neg Fp := ⟨neg⟩

/-- The inverse by Fermat's theorem: the power to the modulus less two. -/
def inv (a : Fp) : Fp := power a (modulus - 2)

instance : Inv Fp := ⟨inv⟩
instance : FieldOperations Fp := {}
instance : Inhabited Fp := ⟨0⟩

/-- A square root, if there is one. The modulus is three modulo four, so one power gives the only
candidate, which is checked. -/
def sqrt? (a : Fp) : Option Fp :=
  let s := power a ((modulus + 1) / 4)
  if s * s = a then some s else none

/-- Whether an element is odd as a number; a nonzero element and its negative differ in this. -/
def isOdd (a : Fp) : Bool := a.val % 2 = 1

/-- Whether an element is larger, as a number, than its negative. -/
def isLarger (a : Fp) : Bool := 2 * a.val > modulus

end Fp

end Attestation.Curve
