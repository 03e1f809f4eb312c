/-
Module: Attestation.Curve.Compressed
Purpose: The two BLS12-381 curves and the compressed form of their points. A compressed point is the
  big-endian number of its x coordinate with three flags above it: compressed, infinity, and whether y
  is the larger of the two candidates. Only one byte string stands for each point.
Main exports: G1.encode, G1.decode?, G2.encode, G2.decode?
-/
import Attestation.Curve.Tower
import Attestation.Curve.Point
import Attestation.Bytes

namespace Attestation.Curve

/-- The order of the subgroups that keys and signatures belong to. -/
def subgroupOrder : Nat := 0x73eda753299d7d483339d80809a1d80553bda402fffe5bfeffffffff00000001

/-- The flag of every compressed point, as a weight of the top byte's number. -/
def compressedFlag : Nat := 1 <<< 383

/-- The flag of the point at infinity. -/
def infinityFlag : Nat := 1 <<< 382

/-- The flag of the point whose y coordinate is the larger one. -/
def largerFlag : Nat := 1 <<< 381

/-- Of the two coordinates `y` and `-y`, the larger one or the other as asked. -/
def chooseSign {F : Type} [Neg F] (isLarger : F → Bool) (wantLarger : Bool) (y : F) : F :=
  if isLarger y = wantLarger then y else -y

namespace G1

/-- The constant of `y² = x³ + 4`. -/
def b : Fp := Fp.ofNat 4

/-- 48 bytes for a point of the first curve. -/
def encode : Point Fp → Bytes 48
  | .infinity => Bytes.ofNat 48 (compressedFlag + infinityFlag)
  | .affine x y =>
    Bytes.ofNat 48 (compressedFlag + (if y.isLarger then largerFlag else 0) + x.val)

/-- The point that 48 bytes stand for. The two points with `x = 0` are refused. -/
def decode? (bytes : Bytes 48) : Option (Point Fp) :=
  let n := bytes.toNat
  if n < compressedFlag then none
  else if n = compressedFlag + infinityFlag then some .infinity
  else if compressedFlag + infinityFlag < n then none
  else do
    let x ← Fp.ofNat? (n % largerFlag)
    if x = 0 then none
    let y ← (x * x * x + b).sqrt?
    return .affine x (chooseSign Fp.isLarger (largerFlag ≤ n - compressedFlag) y)

/-- Whether a point is in the subgroup of prime order. -/
def inSubgroup (p : Point Fp) : Bool := (p.multiply b subgroupOrder) = .infinity

/-- The point that secret keys multiply. -/
def generator : Point Fp := .affine
  (Fp.ofNat 0x17f1d3a73197d7942695638c4fa9ac0fc3688c4f9774b905a14e3a3f171bac586c55e83ff97a1aeffb3af00adb22c6bb)
  (Fp.ofNat 0x08b3f481e3aaa0f1a09e30ed741d8ae4fcf5e095d5d00af600db18cb2c04b3edd03cc744a2888ae40caa232946c5e7e1)

end G1

namespace G2

/-- The constant of `y² = x³ + 4 (1 + u)`. -/
def b : Fp2 := ⟨Fp.ofNat 4, Fp.ofNat 4⟩

/-- The weight of the first 48 bytes, which hold the imaginary part. -/
def upper : Nat := 1 <<< 384

/-- 96 bytes for a point of the second curve. -/
def encode : Point Fp2 → Bytes 96
  | .infinity => Bytes.ofNat 96 ((compressedFlag + infinityFlag) * upper)
  | .affine x y =>
    Bytes.ofNat 96
      ((compressedFlag + (if y.isLarger then largerFlag else 0) + x.im.val) * upper + x.re.val)

/-- The point that 96 bytes stand for. -/
def decode? (bytes : Bytes 96) : Option (Point Fp2) :=
  let n := bytes.toNat
  let hi := n / upper
  if hi < compressedFlag then none
  else if n = (compressedFlag + infinityFlag) * upper then some .infinity
  else if compressedFlag + infinityFlag ≤ hi then none
  else do
    let im ← Fp.ofNat? (hi % largerFlag)
    let re ← Fp.ofNat? (n % upper)
    let x : Fp2 := ⟨re, im⟩
    let y ← (x * x * x + b).sqrt?
    return .affine x (chooseSign Fp2.isLarger (largerFlag ≤ hi - compressedFlag) y)

/-- Whether a point is in the subgroup of prime order. -/
def inSubgroup (p : Point Fp2) : Bool := (p.multiply b subgroupOrder) = .infinity

/-- The point that secret keys multiply. -/
def generator : Point Fp2 := .affine
  ⟨Fp.ofNat 0x024aa2b2f08f0a91260805272dc51051c6e47ad4fa403b02b4510b647ae3d1770bac0326a805bbefd48056c8c121bdb8,
   Fp.ofNat 0x13e02b6052719f607dacd3a088274f65596bd0d09920b61ab5da61bbdc7f5049334cf11213945d57e5ac7d055d042b7e⟩
  ⟨Fp.ofNat 0x0ce5d527727d6e118cc9cdc6da2e351aadfd9baa8cbdd3a76d429a695160d12c923ac9cc3baca289e193548608b82801,
   Fp.ofNat 0x0606c4a02ea734cc32acd2b02bc28b99cb3e287e85a763af267492ab572e99ab3f370d275cec1da1aaa9075ff05f79be⟩

end G2

end Attestation.Curve
