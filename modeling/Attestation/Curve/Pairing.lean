/-
Module: Attestation.Curve.Pairing
Purpose: The pairing of the two BLS12-381 groups: the product of line values along the multiples of the
  second point, raised to the power that leaves only elements of prime order.
Main exports: pair
-/
import Attestation.Curve.Compressed

namespace Attestation.Curve

/-- The parameter of the curve family, without its sign; the sign only inverts pairing values. -/
def parameter : Nat := 0xd201000000010000

/-- A line through points of the second curve, at a point `(x, y)` of the first. With slope `n / d` and
a point `(p, q)` of the second curve on it, its value in `Fp12` is, up to a factor from a smaller field
that the final power removes, `n p - d q - n x v + d y v w`. -/
def lineValue (constant n d : Fp2) (x y : Fp) : Fp12 :=
  ⟨⟨constant, -(n.scale x), 0⟩, ⟨0, d.scale y, 0⟩⟩

/-- The tangent at a point in homogeneous coordinates. -/
def tangent (t : Homogeneous Fp2) (x y : Fp) : Fp12 :=
  let xx := t.x * t.x
  let n := xx + xx + xx
  let yz := t.y * t.z
  let d := yz + yz
  lineValue (n * t.x - d * t.y) (n * t.z) (d * t.z) x y

/-- The line through a point in homogeneous coordinates and an affine point `(p, q)`. -/
def chord (t : Homogeneous Fp2) (p q : Fp2) (x y : Fp) : Fp12 :=
  let n := t.y - q * t.z
  let d := t.x - p * t.z
  lineValue (n * p - d * q) n d x y

/-- The product of the lines met while `(p, q)` is multiplied by the parameter, evaluated at `(x, y)`.
-/
def lineProduct (x y : Fp) (p q : Fp2) : Fp12 :=
  let b3 := G2.b + G2.b + G2.b
  let start : Homogeneous Fp2 := ⟨p, q, 1⟩
  let step (state : Fp12 × Homogeneous Fp2) (bit : Bool) : Fp12 × Homogeneous Fp2 :=
    let (f, t) := state
    let doubled := f.square * tangent t x y
    let t2 := Homogeneous.add b3 t t
    if bit then (doubled * chord t2 p q x y, Homogeneous.add b3 t2 start) else (doubled, t2)
  ((exponentBits parameter).drop 1 |>.foldl step (1, start)).1

/-- The power that leaves only elements of prime order. First the quotients by smaller fields are taken,
after which an inverse is a conjugate; then follows three times the remaining exponent, which is
`(x - 1)² (x + p) (x² + p² - 1) + 3` for the negative parameter `x`. -/
def finalPower (f : Fp12) : Fp12 :=
  let g := f.conjugate * f.inv
  let g := g.frobenius.frobenius * g
  let byParameter (h : Fp12) : Fp12 := (h.pow parameter).conjugate
  let lessOne (h : Fp12) : Fp12 := byParameter h * h.conjugate
  let h := lessOne (lessOne g)
  let h := byParameter h * h.frobenius
  let h := byParameter (byParameter h) * h.frobenius.frobenius * h.conjugate
  h * g.square * g

/-- The pairing of a point of the first group with a point of the second. -/
def pair : Point Fp → Point Fp2 → Fp12
  | .affine x y, .affine p q => finalPower (lineProduct x y p q)
  | _, _ => 1

end Attestation.Curve
