/-!
# Floating point values of scaled integers

The value of `significand · 10 ^ exponent`, computed from the nearest floating point number of the
significand by one multiplication or by divisions; the last place is therefore not always the
nearest one.
-/

namespace EntityTrust
namespace Decimal

/-- The nearest floating point number to `10 ^ n`. -/
def tens (n : Nat) : Float :=
  Float.ofScientific 1 false n

/-- Divides by `10 ^ 308` once for each whole 308 in a negative exponent, while nonzero. -/
def shrink (x : Float) (n : Nat) : Float :=
  if n ≤ 308 then x / tens n
  else if x == 0.0 then x
  else shrink (x / tens 308) (n - 308)
termination_by n

/-- The value of `significand · 10 ^ exponent`, or `none` when it is too large. -/
def ofParts (significand : UInt64) (exponent : Int) : Option Float :=
  let x := significand.toFloat
  match exponent with
  | .ofNat n =>
      if n ≤ 308 then
        let y := x * tens n
        if y.isInf then none else some y
      else if x == 0.0 then some x
      else none
  | .negSucc n => some (shrink x (n + 1))

end Decimal
end EntityTrust
