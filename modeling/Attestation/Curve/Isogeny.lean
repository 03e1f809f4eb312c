/-
Module: Attestation.Curve.Isogeny
Purpose: The map of degree eleven from the auxiliary curve `y² = x³ + a x + b`, onto which field
  elements are easily mapped, to the curve `y² = x³ + 4`. It is given by the numerator of its x
  coordinate and by the polynomial whose roots are the x coordinates of its kernel: the denominator of x
  is the square of the latter, and y is multiplied by an eleventh of the derivative of x, because the
  map multiplies the invariant differential `dx / y` by a constant.
Main exports: Isogeny.a, Isogeny.b, Isogeny.apply
-/
import Attestation.Curve.Point

namespace Attestation.Curve.Isogeny

/-- The linear coefficient of the auxiliary curve. -/
def a : Fp := Fp.ofNat
  0x00144698a3b8e9433d693a02c96d4982b0ea985383ee66a8d8e8981aefd881ac98936f8da0e0f97f5cf428082d584c1d

/-- The constant coefficient of the auxiliary curve. -/
def b : Fp := Fp.ofNat
  0x12e2908d11688030018b12e8753eee3b2016c1f0f24f4070a0b9c14fcef35ef55a23215a316ceaa5d1cc48e98e172be0

/-- The coefficients of the numerator of x, the constant one first. -/
def numerator : List Fp := [
  0x11a05f2b1e833340b809101dd99815856b303e88a2d7005ff2627b56cdb4e2c85610c2d5f2e62d6eaeac1662734649b7,
  0x17294ed3e943ab2f0588bab22147a81c7c17e75b2f6a8417f565e33c70d1e86b4838f2a6f318c356e834eef1b3cb83bb,
  0x0d54005db97678ec1d1048c5d10a9a1bce032473295983e56878e501ec68e25c958c3e3d2a09729fe0179f9dac9edcb0,
  0x1778e7166fcc6db74e0609d307e55412d7f5e4656a8dbf25f1b33289f1b330835336e25ce3107193c5b388641d9b6861,
  0x0e99726a3199f4436642b4b3e4118e5499db995a1257fb3f086eeb65982fac18985a286f301e77c451154ce9ac8895d9,
  0x1630c3250d7313ff01d1201bf7a74ab5db3cb17dd952799b9ed3ab9097e68f90a0870d2dcae73d19cd13c1c66f652983,
  0x0d6ed6553fe44d296a3726c38ae652bfb11586264f0f8ce19008e218f9c86b2a8da25128c1052ecaddd7f225a139ed84,
  0x17b81e7701abdbe2e8743884d1117e53356de5ab275b4db1a682c62ef0f2753339b7c8f8c8f475af9ccb5618e3f0c88e,
  0x080d3cf1f9a78fc47b90b33563be990dc43b756ce79f5574a2c596c928c5d1de4fa295f296b74e956d71986a8497e317,
  0x169b1f8e1bcfa7c42e0c37515d138f22dd2ecb803a0c5c99676314baf4bb1b7fa3190b2edc0327797f241067be390c9e,
  0x10321da079ce07e272d8ec09d2565b0dfa7dccdde6787f96d50af36003b14866f69b771f8c285decca67df3f1605fb7b,
  0x06e08c248e260e70bd1e962381edee3d31d79d7e22c837bc23c0bf1bc24c6b68c24b1b80b64d391fa9c8ba2e8ba2d229].map Fp.ofNat

/-- The coefficients of the kernel polynomial, the constant one first. -/
def kernel : List Fp := [
  0x133341fb0962a34cb0504a9c4fada0a5090d38679b4c040d5d1c3afb023a3409fcc0815fea66d8b02bbef9c8b5a66e07,
  0x0264908af037bcede00d054cf5d4775e83eb6cf63c76b969f8ed174fb59fcff78d201f46f6cfc4ed6552e59ce75177b0,
  0x1335c502c1f54c49aceea65e87fd7203ba0f626f305fc0cfd606a5dae9f3c8e81a4b3b69600129fabd307c69bf319d39,
  0x094440f65f408a6e930e16e3e92dd17bf60d6e9679a8d3d58593de55ac23703042d609537eb3549aac234d896ca82944,
  0x04afe09d5cf4956a23b6b71f59d2b3407b415a774b7be81bbb6fa99cbc798e0ac98ba725a5bc328016b1c268b4766e85,
  0x000000000000000000000000000000000000000000000000000000000000000000000000000000000000000000000001].map Fp.ofNat

/-- The value of a polynomial given by its coefficients, the constant one first. -/
def evaluate (coefficients : List Fp) (x : Fp) : Fp := coefficients.foldr (fun c acc => c + x * acc) 0

/-- The coefficients of the derivative. -/
def derivative (coefficients : List Fp) : List Fp :=
  (coefficients.zipIdx.map fun (c, i) => Fp.ofNat i * c).drop 1

/-- The image of an affine point of the auxiliary curve; a kernel point goes to infinity. With `x = n /
k²` the derivative of x is `(n' k - 2 n k') / k³`. -/
def apply (x y : Fp) : Point Fp :=
  let n := evaluate numerator x
  let k := evaluate kernel x
  if k = 0 then .infinity
  else
    let slope := evaluate (derivative numerator) x * k - (n + n) * evaluate (derivative kernel) x
    let d := k⁻¹
    .affine (n * d * d) (y * slope * d * d * d * (Fp.ofNat 11)⁻¹)

end Attestation.Curve.Isogeny
