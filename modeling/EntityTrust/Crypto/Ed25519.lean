import EntityTrust.Crypto.Modular
import EntityTrust.Crypto.Sha2

/-!
# Ed25519 signatures

**Points.**  The curve `-x² + y² = 1 + d x² y²` over the field of `2^255 - 19` elements, in extended
coordinates `(x/z, y/z)` with `t = x y / z`.

**Verification.**  With `h` the hash of the first half `R` of the signature, the key and the
message, the signature is valid when `s · B - h · A` is written exactly as `R` and `s` is below the
order of the base point.
-/

namespace EntityTrust
namespace Ed25519

/-- The size of the field. -/
def p : Nat := Nat.pow 2 255 - 19

/-- The order of the base point. -/
def order : Nat := Nat.pow 2 252 + 27742317777372353535851937790883648493

/-- The coefficient of the curve. -/
def d : Nat := (p - 121665) * Modular.inverse p 121666 % p

/-- A point in extended coordinates. -/
structure Point where
  x : Nat
  y : Nat
  z : Nat
  t : Nat

/-- The neutral element. -/
def zero : Point := ⟨0, 1, 1, 0⟩

/-- The sum of two points. -/
def add (a b : Point) : Point :=
  let u := Modular.sub p a.y a.x * Modular.sub p b.y b.x % p
  let v := (a.y + a.x) * (b.y + b.x) % p
  let w := 2 * a.t * d % p * b.t % p
  let q := 2 * a.z * b.z % p
  let e := Modular.sub p v u
  let f := Modular.sub p q w
  let g := q + w
  let h := v + u
  ⟨e * f % p, g * h % p, f * g % p, e * h % p⟩

/-- Twice a point. -/
def double (a : Point) : Point :=
  let u := a.x * a.x % p
  let v := a.y * a.y % p
  let w := 2 * a.z * a.z % p
  let h := (u + v) % p
  let e := Modular.sub p h ((a.x + a.y) * (a.x + a.y) % p)
  let g := Modular.sub p u v
  let f := (w + g) % p
  ⟨e * f % p, g * h % p, f * g % p, e * h % p⟩

/-- The opposite point. -/
def negate (a : Point) : Point :=
  ⟨Modular.sub p 0 a.x, a.y, a.z, Modular.sub p 0 a.t⟩

/-- A square root of `u / v`, if there is one. -/
def sqrtRatio? (u v : Nat) : Option Nat :=
  let v3 := v * v % p * v % p
  let r := u * v3 % p * Modular.pow p (u * v3 % p * (v3 * v % p) % p) ((p - 5) / 8) % p
  let check := v * (r * r % p) % p
  if check = u % p then some r
  else if check = Modular.sub p 0 (u % p) then
    some (r * Modular.pow p 2 ((p - 1) / 4) % p)
  else none

/-- The point written in 32 octets; the second coordinate may exceed the field. -/
def decode? (bs : List UInt8) : Option Point :=
  if bs.length = 32 then
    let n := Modular.ofLittle bs
    let y := n % Nat.pow 2 255 % p
    let yy := y * y % p
    match sqrtRatio? (Modular.sub p yy 1) ((d * yy + 1) % p) with
    | none => none
    | some r =>
        let x := if r % 2 = n / Nat.pow 2 255 then r else Modular.sub p 0 r
        some ⟨x, y, 1, x * y % p⟩
  else none

/-- The written form of a point. -/
def encode (a : Point) : List UInt8 :=
  let zi := Modular.inverse p a.z
  let x := a.x * zi % p
  let y := a.y * zi % p
  Modular.toLittle 32 (y + x % 2 * Nat.pow 2 255)

/-- The base point. -/
def base : Point :=
  (decode? (Modular.toLittle 32 (4 * Modular.inverse p 5 % p))).getD zero

/-- `k · a + l · b` by the lowest `n` bits of `k` and `l`; `ab` is `a + b`. -/
def combine (a b ab : Point) (k l : Nat) : Nat → Point → Point
  | 0, acc => acc
  | n + 1, acc =>
      let twice := double acc
      let next :=
        match k.testBit n, l.testBit n with
        | false, false => twice
        | true, false => add twice a
        | false, true => add twice b
        | true, true => add twice ab
      combine a b ab k l n next

/-- Whether a signature of a message is valid under a key. -/
def verify (key message signature : List UInt8) : Bool :=
  match decode? key with
  | none => false
  | some a =>
      let r := signature.take 32
      let s := Modular.ofLittle (signature.drop 32)
      if signature.length = 64 ∧ s < order then
        let h := Modular.ofLittle (Sha2.hash .sha512 (r ++ key ++ message)) % order
        let minus := negate a
        encode (combine base minus (add base minus) s h 256 zero) == r
      else false

end Ed25519
end EntityTrust
