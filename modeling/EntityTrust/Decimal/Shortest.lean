/-!
# Shortest decimals of binary floating point numbers

**Input.**  A finite positive number `m · 2 ^ q`, with the width of the interval of reals that round
to it.

**Algorithm.**  For 1, 2, … 17 digits the two neighbours of the number on that decimal grid are
tested in exact integer arithmetic.  The first grid with a neighbour inside the interval wins; of
two neighbours inside the nearer one is taken, and the even one where both are equally near.

**Results.**
* `shortest`: the digits and the decimal exponent of a positive finite number.
* `text`: its written form, positional from `1e-5` up to `1e16` and with an exponent elsewhere.
-/

namespace EntityTrust
namespace Decimal

/-- A finite number `mantissa · 2 ^ exponent`; `narrow` marks a lower neighbour at half distance. -/
structure Dyadic where
  mantissa : Nat
  exponent : Int
  narrow : Bool
  deriving DecidableEq

/-- How many fractions there are for each exponent. -/
def fractions : Nat := 0x10000000000000

/-- The magnitude of a finite floating point number. -/
def Dyadic.ofFloat (x : Float) : Dyadic :=
  let bits : Nat := x.toBits.toNat % 0x8000000000000000
  let field : Nat := bits / fractions
  let fraction : Nat := bits % fractions
  if field = 0 then ⟨fraction, -1074, false⟩
  else ⟨fractions + fraction, (field : Int) - 1075, fraction == 0 && field > 1⟩

/-- A nonnegative rational number. -/
structure Ratio where
  num : Nat
  den : Nat

/-- The rational `n · 2 ^ e`. -/
def Ratio.ofTwos (n : Nat) (e : Int) : Ratio :=
  match e with
  | .ofNat k => ⟨n * Nat.pow 2 k, 1⟩
  | .negSucc k => ⟨n, Nat.pow 2 (k + 1)⟩

/-- The rational `r · 10 ^ e`. -/
def Ratio.scaleTens (r : Ratio) (e : Int) : Ratio :=
  match e with
  | .ofNat k => ⟨r.num * Nat.pow 10 k, r.den⟩
  | .negSucc k => ⟨r.num, r.den * Nat.pow 10 (k + 1)⟩

/-- Order of rationals with positive denominators. -/
def Ratio.le (a b : Ratio) : Bool :=
  a.num * b.den ≤ b.num * a.den

/-- Strict order of rationals with positive denominators. -/
def Ratio.lt (a b : Ratio) : Bool :=
  a.num * b.den < b.num * a.den

/-- The interval of reals that round to a number, and whether its ends belong to it. -/
structure Interval where
  low : Ratio
  value : Ratio
  high : Ratio
  closed : Bool

/-- The interval around a dyadic number, in quarters of its last place. -/
def Dyadic.interval (d : Dyadic) : Interval where
  low := Ratio.ofTwos (4 * d.mantissa - (if d.narrow then 1 else 2)) (d.exponent - 2)
  value := Ratio.ofTwos (4 * d.mantissa) (d.exponent - 2)
  high := Ratio.ofTwos (4 * d.mantissa + 2) (d.exponent - 2)
  closed := d.mantissa % 2 == 0

/-- Whether the real `r` rounds to the number of the interval. -/
def Interval.contains (i : Interval) (r : Ratio) : Bool :=
  if i.closed then i.low.le r && r.le i.high else i.low.lt r && r.lt i.high

/-- The interval with all reals multiplied by `10 ^ e`. -/
def Interval.scaleTens (i : Interval) (e : Int) : Interval where
  low := i.low.scaleTens e
  value := i.value.scaleTens e
  high := i.high.scaleTens e
  closed := i.closed

/-- The integer chosen inside an interval, if one of the two next to its number lies inside. -/
def Interval.pick (i : Interval) : Option Nat :=
  let below := i.value.num / i.value.den
  let rest := i.value.num % i.value.den
  let lowIn := below > 0 && i.contains ⟨below, 1⟩
  let highIn := i.contains ⟨below + 1, 1⟩
  if lowIn && highIn then
    if 2 * rest < i.value.den then some below
    else if 2 * rest > i.value.den then some (below + 1)
    else some (if below % 2 = 0 then below else below + 1)
  else if lowIn then some below
  else if highIn then some (below + 1)
  else none

/-- An exponent `e` with `10 ^ (e - 1) ≤ r < 10 ^ e` for a positive rational. -/
def Ratio.magnitude (r : Ratio) : Int :=
  let twos : Int := (Nat.log2 r.num : Int) - (Nat.log2 r.den : Int)
  let guess := (twos * 30103).fdiv 100000
  let candidates := [guess - 1, guess, guess + 1, guess + 2]
  (candidates.find? fun e => r.lt ((Ratio.mk 1 1).scaleTens e)).getD (guess + 3)

/-- Tries the grids of `n`, `n + 1`, … digits, `left` of them. -/
def searchGrid (i : Interval) (magnitude : Int) : Nat → Nat → Nat × Int
  | _, 0 => (i.value.num / i.value.den, 0)
  | n, left + 1 =>
      match (i.scaleTens ((n : Int) - magnitude)).pick with
      | some d => (d, magnitude - n)
      | none => searchGrid i magnitude (n + 1) left

/-- Drops the zeros at the end of a digit string, counting them into the exponent. -/
def dropZeros : Nat → Nat → Int → Nat × Int
  | 0, d, e => (d, e)
  | fuel + 1, d, e => if d ≠ 0 ∧ d % 10 = 0 then dropZeros fuel (d / 10) (e + 1) else (d, e)

/-- The shortest `d · 10 ^ e` that reads back as the given positive number. -/
def shortest (d : Dyadic) : Nat × Int :=
  let i := d.interval
  let (digits, e) := searchGrid i i.value.magnitude 1 17
  dropZeros 20 digits e

/-- `n` zeros. -/
def zeros (n : Nat) : List Char :=
  List.replicate n '0'

/-- Written form of `digits · 10 ^ e`. -/
def layout (digits : List Char) (e : Int) : List Char :=
  let point := (digits.length : Int) + e
  if 0 ≤ e ∧ point ≤ 16 then digits ++ zeros e.toNat ++ ['.', '0']
  else if 0 < point ∧ point ≤ 16 then
    digits.take point.toNat ++ '.' :: digits.drop point.toNat
  else if -5 < point ∧ point ≤ 0 then
    '0' :: '.' :: (zeros (-point).toNat ++ digits)
  else
    let power := point - 1
    let sign := if power < 0 then '-' else '+'
    let exponent := 'e' :: sign :: (Nat.toDigits 10 power.natAbs)
    match digits with
    | [c] => c :: exponent
    | c :: cs => c :: '.' :: (cs ++ exponent)
    | [] => exponent

/-- Written form of a finite floating point number. -/
def text (x : Float) : String :=
  let d := Dyadic.ofFloat x
  let sign := if x.toBits ≥ 0x8000000000000000 then ['-'] else []
  if d.mantissa = 0 then String.ofList (sign ++ ['0', '.', '0'])
  else
    let (digits, e) := shortest d
    String.ofList (sign ++ layout (Nat.toDigits 10 digits) e)

end Decimal
end EntityTrust
