import EntityTrust.Crypto.Modular
import EntityTrust.Crypto.Sha2

/-!
# ECDSA over the curves P-256 and P-384

**Points.**  Curves `y² = x³ - 3x + b` over a prime field, with points in coordinates
`(x / z², y / z³)`; `z = 0` is the point at infinity.

**Verification.**  The signature is the two halves `r` and `s`, both between 1 and the order of the
base point; it is valid when the first coordinate of `(h / s) · G + (r / s) · Q` is `r` modulo that
order.
-/

namespace EntityTrust
namespace Ecdsa

/-- A curve with its base point and the hash function used with it. -/
structure Curve where
  size : Nat
  p : Nat
  b : Nat
  order : Nat
  baseX : Nat
  baseY : Nat
  digest : Sha2.Variant

/-- The curve P-256. -/
def p256 : Curve where
  size := 32
  p := 0xffffffff00000001000000000000000000000000ffffffffffffffffffffffff
  b := 0x5ac635d8aa3a93e7b3ebbd55769886bc651d06b0cc53b0f63bce3c3e27d2604b
  order := 0xffffffff00000000ffffffffffffffffbce6faada7179e84f3b9cac2fc632551
  baseX := 0x6b17d1f2e12c4247f8bce6e563a440f277037d812deb33a0f4a13945d898c296
  baseY := 0x4fe342e2fe1a7f9b8ee7eb4a7c0f9e162bce33576b315ececbb6406837bf51f5
  digest := .sha256

/-- The curve P-384. -/
def p384 : Curve where
  size := 48
  p := 0xfffffffffffffffffffffffffffffffffffffffffffffffffffffffffffffffeffffffff0000000000000000ffffffff
  b := 0xb3312fa7e23ee7e4988e056be3f82d19181d9c6efe8141120314088f5013875ac656398d8a2ed19d2a85c8edd3ec2aef
  order := 0xffffffffffffffffffffffffffffffffffffffffffffffffc7634d81f4372ddf581a0db248b0a77aecec196accc52973
  baseX := 0xaa87ca22be8b05378eb1c71ef320ad746e1d3b628ba79b9859f741e082542a385502f25dbf55296c3a545e3872760ab7
  baseY := 0x3617de4a96262c6f5d9e98bf9292dc29f8f41dbd289a147ce9da3113b5f0b8c00a60b1ce1d7e819d7a431d7c90ea0e5f
  digest := .sha384

/-- A point in weighted coordinates. -/
structure Point where
  x : Nat
  y : Nat
  z : Nat

/-- The point at infinity. -/
def infinity : Point := ⟨1, 1, 0⟩

section Arithmetic

variable (c : Curve)

/-- Twice a point. -/
def double (a : Point) : Point :=
  let p := c.p
  if a.z = 0 ∨ a.y = 0 then infinity
  else
    let zz := a.z * a.z % p
    let yy := a.y * a.y % p
    let s := 4 * a.x * yy % p
    let m := 3 * (Modular.sub p a.x zz) * (a.x + zz) % p
    let x := Modular.sub p (m * m % p) (2 * s % p)
    let y := Modular.sub p (m * Modular.sub p s x % p) (8 * yy * yy % p)
    ⟨x, y, 2 * a.y * a.z % p⟩

/-- The sum of two points. -/
def add (a b : Point) : Point :=
  let p := c.p
  if a.z = 0 then b
  else if b.z = 0 then a
  else
    let azz := a.z * a.z % p
    let bzz := b.z * b.z % p
    let u1 := a.x * bzz % p
    let u2 := b.x * azz % p
    let s1 := a.y * bzz % p * b.z % p
    let s2 := b.y * azz % p * a.z % p
    if u1 = u2 then
      if s1 = s2 then double c a else infinity
    else
      let h := Modular.sub p u2 u1
      let r := Modular.sub p s2 s1
      let hh := h * h % p
      let hhh := h * hh % p
      let v := u1 * hh % p
      let x := Modular.sub p (Modular.sub p (r * r % p) hhh) (2 * v % p)
      let y := Modular.sub p (r * Modular.sub p v x % p) (s1 * hhh % p)
      ⟨x, y, h * a.z % p * b.z % p⟩

/-- `k · a + l · b` by the lowest `n` bits of `k` and `l`; `ab` is `a + b`. -/
def combine (a b ab : Point) (k l : Nat) : Nat → Point → Point
  | 0, acc => acc
  | n + 1, acc =>
      let twice := double c acc
      let next :=
        match k.testBit n, l.testBit n with
        | false, false => twice
        | true, false => add c twice a
        | false, true => add c twice b
        | true, true => add c twice ab
      combine a b ab k l n next

/-- Whether coordinates are those of a point of the curve. -/
def onCurve (x y : Nat) : Bool :=
  decide (x < c.p) && decide (y < c.p) &&
    y * y % c.p == (x * x % c.p * x + (c.p - 3) * x + c.b) % c.p

end Arithmetic

/-- The point given by coordinates in big-endian octets of full length. -/
def publicKey? (c : Curve) (x y : List UInt8) : Option Point :=
  let coordinates := x ++ y
  let px := Modular.ofBig (coordinates.take c.size)
  let py := Modular.ofBig (coordinates.drop c.size)
  if coordinates.length = 2 * c.size ∧ onCurve c px py then some ⟨px, py, 1⟩ else none

/-- Whether a signature of a message is valid under the key with the given coordinates. -/
def verify (c : Curve) (x y message signature : List UInt8) : Bool :=
  match publicKey? c x y with
  | none => false
  | some q =>
      let r := Modular.ofBig (signature.take c.size)
      let s := Modular.ofBig (signature.drop c.size)
      if signature.length = 2 * c.size ∧ 0 < r ∧ r < c.order ∧ 0 < s ∧ s < c.order then
        let h := Modular.ofBig (Sha2.hash c.digest message) % c.order
        let w := Modular.inverse c.order s
        let g : Point := ⟨c.baseX, c.baseY, 1⟩
        let k := h * w % c.order
        let l := r * w % c.order
        let sum := combine c g q (add c g q) k l (8 * c.size) infinity
        if sum.z = 0 then false
        else
          let zi := Modular.inverse c.p sum.z
          sum.x * (zi * zi % c.p) % c.p % c.order == r
      else false

end Ecdsa
end EntityTrust
