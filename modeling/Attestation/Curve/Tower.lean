/-
Module: Attestation.Curve.Tower
Purpose: The extension fields of BLS12-381 as a tower: `Fp2 = Fp[u]/(u² + 1)`, `Fp6 = Fp2[v]/(v³ - (1 +
  u))` and `Fp12 = Fp6[w]/(w² - v)`. The second curve lives over `Fp2`, pairings take their values in
  `Fp12`.
Main exports: Fp2, Fp2.sqrt?, Fp6, Fp12, Fp12.conjugate, Fp12.frobenius
-/
import Attestation.Curve.Field

namespace Attestation.Curve

/-! ### Degree two -/

/-- `re + im * u` with `u² = -1`. -/
@[ext] structure Fp2 where
  re : Fp
  im : Fp
deriving DecidableEq

namespace Fp2

instance : Zero Fp2 := ⟨⟨0, 0⟩⟩
instance : One Fp2 := ⟨⟨1, 0⟩⟩
instance : Add Fp2 := ⟨fun a b => ⟨a.re + b.re, a.im + b.im⟩⟩
instance : Sub Fp2 := ⟨fun a b => ⟨a.re - b.re, a.im - b.im⟩⟩
instance : Neg Fp2 := ⟨fun a => ⟨-a.re, -a.im⟩⟩

/-- Three products instead of four. -/
def mul (a b : Fp2) : Fp2 :=
  let p := a.re * b.re
  let q := a.im * b.im
  ⟨p - q, (a.re + a.im) * (b.re + b.im) - p - q⟩

instance : Mul Fp2 := ⟨mul⟩

/-- The image under `u ↦ -u`, which is also the power to the modulus. -/
def conjugate (a : Fp2) : Fp2 := ⟨a.re, -a.im⟩

def inv (a : Fp2) : Fp2 :=
  let norm := (a.re * a.re + a.im * a.im)⁻¹
  ⟨a.re * norm, -(a.im * norm)⟩

instance : Inv Fp2 := ⟨inv⟩
instance : FieldOperations Fp2 := {}
instance : Inhabited Fp2 := ⟨0⟩

/-- Multiplies both coordinates by an element of the prime field. -/
def scale (k : Fp) (a : Fp2) : Fp2 := ⟨k * a.re, k * a.im⟩

/-- `1 + u`, whose cube root `v` extends the field. -/
def nonresidue : Fp2 := ⟨1, 1⟩

/-- Multiplies by `1 + u`. -/
def mulNonresidue (a : Fp2) : Fp2 := ⟨a.re - a.im, a.re + a.im⟩

/-- A square root, if there is one. With `n² = re² + im²`, the real part of a root is a square root of
`(re + n) / 2` or of `(re - n) / 2`; where both vanish the root is real or purely imaginary. The
candidate is checked. -/
def sqrt? (a : Fp2) : Option Fp2 := do
  let half := (Fp.ofNat 2)⁻¹
  let norm ← (a.re * a.re + a.im * a.im).sqrt?
  let real ← ((a.re + norm) * half).sqrt?.orElse fun _ => ((a.re - norm) * half).sqrt?
  let imaginary ← if real = 0 then (-a.re).sqrt? else some (a.im * half * real⁻¹)
  let root : Fp2 := ⟨real, imaginary⟩
  if root * root = a then some root else none

/-- Whether an element is larger than its negative; the imaginary part decides unless it is zero. -/
def isLarger (a : Fp2) : Bool := if a.im = 0 then a.re.isLarger else a.im.isLarger

end Fp2

/-! ### Degree six -/

/-- `c0 + c1 * v + c2 * v²` with `v³ = 1 + u`. -/
structure Fp6 where
  c0 : Fp2
  c1 : Fp2
  c2 : Fp2
deriving DecidableEq

namespace Fp6

instance : Zero Fp6 := ⟨⟨0, 0, 0⟩⟩
instance : One Fp6 := ⟨⟨1, 0, 0⟩⟩
instance : Add Fp6 := ⟨fun a b => ⟨a.c0 + b.c0, a.c1 + b.c1, a.c2 + b.c2⟩⟩
instance : Sub Fp6 := ⟨fun a b => ⟨a.c0 - b.c0, a.c1 - b.c1, a.c2 - b.c2⟩⟩
instance : Neg Fp6 := ⟨fun a => ⟨-a.c0, -a.c1, -a.c2⟩⟩

/-- Six products instead of nine. -/
def mul (a b : Fp6) : Fp6 :=
  let p0 := a.c0 * b.c0
  let p1 := a.c1 * b.c1
  let p2 := a.c2 * b.c2
  let p12 := (a.c1 + a.c2) * (b.c1 + b.c2) - p1 - p2
  let p01 := (a.c0 + a.c1) * (b.c0 + b.c1) - p0 - p1
  let p02 := (a.c0 + a.c2) * (b.c0 + b.c2) - p0 - p2
  ⟨p0 + p12.mulNonresidue, p01 + p2.mulNonresidue, p02 + p1⟩

instance : Mul Fp6 := ⟨mul⟩

/-- Multiplies by `v`. -/
def mulV (a : Fp6) : Fp6 := ⟨a.c2.mulNonresidue, a.c0, a.c1⟩

def inv (a : Fp6) : Fp6 :=
  let t0 := a.c0 * a.c0 - (a.c1 * a.c2).mulNonresidue
  let t1 := (a.c2 * a.c2).mulNonresidue - a.c0 * a.c1
  let t2 := a.c1 * a.c1 - a.c0 * a.c2
  let d := (a.c0 * t0 + (a.c2 * t1 + a.c1 * t2).mulNonresidue)⁻¹
  ⟨t0 * d, t1 * d, t2 * d⟩

end Fp6

/-! ### Degree twelve -/

/-- `a + b * w` with `w² = v`. -/
structure Fp12 where
  a : Fp6
  b : Fp6
deriving DecidableEq

namespace Fp12

instance : One Fp12 := ⟨⟨1, 0⟩⟩

/-- Three products instead of four. -/
def mul (x y : Fp12) : Fp12 :=
  let p := x.a * y.a
  let q := x.b * y.b
  ⟨p + q.mulV, (x.a + x.b) * (y.a + y.b) - p - q⟩

instance : Mul Fp12 := ⟨mul⟩

/-- A square with two products. -/
def square (x : Fp12) : Fp12 :=
  let p := x.a * x.b
  ⟨(x.a + x.b) * (x.a + x.b.mulV) - p - p.mulV, p + p⟩

/-- The image under `w ↦ -w`, which is also the power to the sixth power of the modulus. -/
def conjugate (x : Fp12) : Fp12 := ⟨x.a, -x.b⟩

def inv (x : Fp12) : Fp12 :=
  let norm := (x.a * x.a - (x.b * x.b).mulV).inv
  ⟨x.a * norm, -(x.b * norm)⟩

/-- `w` to the modulus less one, an element of `Fp2`. -/
def frobeniusRoot : Fp2 := power Fp2.nonresidue ((modulus - 1) / 6)

/-- The powers of the above by which the coefficients of `w`, ..., `w⁵` are multiplied. -/
def frobeniusRoots : List Fp2 := (List.range 6).map (power frobeniusRoot)

/-- The power to the modulus: coefficients are conjugated, and `wⁱ` gains its root. -/
def frobenius (x : Fp12) : Fp12 :=
  match frobeniusRoots with
  | [r0, r1, r2, r3, r4, r5] =>
    ⟨⟨x.a.c0.conjugate * r0, x.a.c1.conjugate * r2, x.a.c2.conjugate * r4⟩,
     ⟨x.b.c0.conjugate * r1, x.b.c1.conjugate * r3, x.b.c2.conjugate * r5⟩⟩
  | _ => x

/-- The power by squaring. -/
def pow (x : Fp12) (n : Nat) : Fp12 :=
  (exponentBits n).foldl (fun acc bit => if bit then acc.square * x else acc.square) 1

end Fp12

end Attestation.Curve
