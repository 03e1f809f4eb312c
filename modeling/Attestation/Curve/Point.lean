/-
Module: Attestation.Curve.Point
Purpose: Points of a curve `y² = x³ + b` over any field. Points are affine, so that equal points are
  equal values; sums and multiples are computed in homogeneous coordinates by one formula that holds for
  equal, opposite and infinite operands alike.
Main exports: Point, Point.OnCurve, Point.add, Point.multiply
-/
import Attestation.Curve.Field

namespace Attestation.Curve

/-- A point of a plane cubic: the point at infinity or a pair of coordinates. -/
inductive Point (F : Type) where
  | infinity
  | affine (x y : F)
deriving DecidableEq

/-- Homogeneous coordinates; `z = 0` stands for the point at infinity. -/
structure Homogeneous (F : Type) where
  x : F
  y : F
  z : F

variable {F : Type} [FieldOperations F]

namespace Homogeneous

/-- The point at infinity. -/
def infinity : Homogeneous F := ⟨0, 1, 0⟩

/-- Addition on `y² = x³ + b`, where `b3` is three times `b`. One formula for all operands, since a
curve of odd order has no point on which its denominators vanish. -/
@[specialize] def add (b3 : F) (p q : Homogeneous F) : Homogeneous F :=
  let xx := p.x * q.x
  let yy := p.y * q.y
  let zz := p.z * q.z
  let xy := (p.x + p.y) * (q.x + q.y) - xx - yy
  let yz := (p.y + p.z) * (q.y + q.z) - yy - zz
  let xz := (p.x + p.z) * (q.x + q.z) - xx - zz
  let xx3 := xx + xx + xx
  let bzz := b3 * zz
  let bxz := b3 * xz
  let sum := yy + bzz
  let difference := yy - bzz
  ⟨xy * difference - yz * bxz, bxz * xx3 + difference * sum, sum * yz + xx3 * xy⟩

/-- The `n`-fold sum of a point. -/
@[specialize] def multiply (b3 : F) (n : Nat) (p : Homogeneous F) : Homogeneous F :=
  (exponentBits n).foldl
    (fun acc bit => let twice := add b3 acc acc; if bit then add b3 twice p else twice) infinity

end Homogeneous

namespace Point

/-- Homogeneous coordinates of a point. -/
def homogeneous : Point F → Homogeneous F
  | infinity => .infinity
  | affine x y => ⟨x, y, 1⟩

/-- The point with the given homogeneous coordinates. -/
def ofHomogeneous [DecidableEq F] (p : Homogeneous F) : Point F :=
  if p.z = 0 then .infinity
  else
    let d := p.z⁻¹
    .affine (p.x * d) (p.y * d)

/-- The points that satisfy the curve's equation. -/
def OnCurve (b : F) : Point F → Prop
  | infinity => True
  | affine x y => y * y = x * x * x + b

/-- The sum of two points of `y² = x³ + b`. -/
def add [DecidableEq F] (b : F) (p q : Point F) : Point F :=
  ofHomogeneous (Homogeneous.add (b + b + b) p.homogeneous q.homogeneous)

/-- The `n`-fold sum of a point of `y² = x³ + b`. -/
def multiply [DecidableEq F] (b : F) (n : Nat) (p : Point F) : Point F :=
  ofHomogeneous (Homogeneous.multiply (b + b + b) n p.homogeneous)

/-- The opposite point. -/
def neg : Point F → Point F
  | infinity => .infinity
  | affine x y => .affine x (-y)

end Point

end Attestation.Curve
