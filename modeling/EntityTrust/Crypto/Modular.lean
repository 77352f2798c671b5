/-!
# Arithmetic of residues

Powers and inverses modulo a number, and numbers as big-endian and little-endian octets.
-/

namespace EntityTrust
namespace Modular

/-- The number in big-endian octets. -/
def ofBig (bs : List UInt8) : Nat :=
  bs.foldl (fun n b => n * 256 + b.toNat) 0

/-- The number in little-endian octets. -/
def ofLittle : List UInt8 → Nat
  | [] => 0
  | b :: bs => b.toNat + 256 * ofLittle bs

/-- `count` big-endian octets of a number. -/
def toBig : Nat → Nat → List UInt8
  | 0, _ => []
  | count + 1, n => UInt8.ofNat (n / Nat.pow 256 count) :: toBig count n

/-- `count` little-endian octets of a number. -/
def toLittle : Nat → Nat → List UInt8
  | 0, _ => []
  | count + 1, n => UInt8.ofNat (n % 256) :: toLittle count (n / 256)

/-- `b ^ e` modulo `m`, by squaring. -/
def pow (m b e : Nat) : Nat :=
  if e = 0 then 1 % m
  else
    let half := pow m b (e / 2)
    let square := half * half % m
    if e % 2 = 0 then square else square * b % m
termination_by e
decreasing_by omega

/-- The inverse modulo a prime. -/
def inverse (p a : Nat) : Nat :=
  pow p a (p - 2)

/-- `a - b` modulo `m`, for residues. -/
def sub (m a b : Nat) : Nat :=
  (a + m - b) % m

/-- Number of bits of a number. -/
def bits (n : Nat) : Nat :=
  if n = 0 then 0 else Nat.log2 n + 1

end Modular
end EntityTrust
