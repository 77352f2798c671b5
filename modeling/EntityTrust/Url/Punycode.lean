/-!
# Punycode

Labels of domain names beyond ASCII, written in ASCII: the plain characters first, then the others
as differences in ascending order, in digits of a base that adapts to their size.
-/

namespace EntityTrust
namespace Punycode

/-- The digit of a value below 36. -/
def digit (v : Nat) : Char :=
  if v < 26 then Char.ofNat (97 + v) else Char.ofNat (22 + v)

/-- The value of a digit. -/
def digitValue? (c : Char) : Option Nat :=
  if 'a' ≤ c ∧ c ≤ 'z' then some (c.toNat - 97)
  else if 'A' ≤ c ∧ c ≤ 'Z' then some (c.toNat - 65)
  else if '0' ≤ c ∧ c ≤ '9' then some (c.toNat - 22)
  else none

/-- The threshold of the digit at position `k`. -/
def threshold (bias k : Nat) : Nat :=
  if k ≤ bias then 1 else if bias + 26 ≤ k then 26 else k - bias

theorem threshold_pos (bias k : Nat) : 1 ≤ threshold bias k := by
  unfold threshold
  split
  · omega
  · split <;> omega

theorem threshold_le (bias k : Nat) : threshold bias k ≤ 26 := by
  unfold threshold
  split
  · omega
  · split <;> omega

/-- Divides a difference down and counts the positions. -/
def settle (delta k : Nat) : Nat :=
  if delta > 455 then settle (delta / 35) (k + 36) else k + 36 * delta / (delta + 38)
termination_by delta
decreasing_by omega

/-- The bias after a difference. -/
def adapt (delta count : Nat) (first : Bool) : Nat :=
  let d := if first then delta / 700 else delta / 2
  settle (d + d / count) 0

/-- The digits of a difference. -/
def encodeNumber (bias k q : Nat) : List Char :=
  let t := threshold bias k
  if q < t then [digit q]
  else digit (t + (q - t) % (36 - t)) :: encodeNumber bias (k + 36) ((q - t) / (36 - t))
termination_by q
decreasing_by
  have h1 := threshold_pos bias k
  have h2 := threshold_le bias k
  have h3 : (q - threshold bias k) / (36 - threshold bias k) ≤ q - threshold bias k :=
    Nat.div_le_self _ _
  omega

/-- Progress of an encoding. -/
structure Progress where
  output : List Char
  delta : Nat
  bias : Nat
  handled : Nat

/-- Passes one character while the code point `m` is being written. -/
def pass (basic m : Nat) (p : Progress) (c : Char) : Progress :=
  if c.toNat < m then { p with delta := p.delta + 1 }
  else if c.toNat = m then
    { output := p.output ++ encodeNumber p.bias 36 p.delta
      delta := 0
      bias := adapt p.delta (p.handled + 1) (p.handled == basic)
      handled := p.handled + 1 }
  else p

/-- Writes the code points of `points`, which ascend, in the text `cs`. -/
def encodePoints (cs : List Char) (basic : Nat) : List Nat → Nat → Progress → Progress
  | [], _, p => p
  | m :: rest, n, p =>
      let p := { p with delta := p.delta + (m - n) * (p.handled + 1) }
      let p := cs.foldl (pass basic m) p
      encodePoints cs basic rest (m + 1) { p with delta := p.delta + 1 }

/-- Inserts into an ascending list without repeating. -/
def insertPoint (n : Nat) : List Nat → List Nat
  | [] => [n]
  | m :: ms => if n < m then n :: m :: ms else if n = m then m :: ms else m :: insertPoint n ms

/-- The written form of a label. -/
def encode (cs : List Char) : List Char :=
  let plain := cs.filter (·.toNat < 128)
  let points := (cs.filter fun c => 128 ≤ c.toNat).foldl (fun acc c => insertPoint c.toNat acc) []
  let start := if plain.isEmpty then [] else plain ++ ['-']
  (encodePoints cs plain.length points 128 ⟨start, 0, 72, plain.length⟩).output

/-- Reads a difference; answers it with the rest. -/
def decodeNumber (bias : Nat) : Nat → Nat → Nat → List Char → Option (Nat × List Char)
  | _, _, _, [] => none
  | k, weight, acc, c :: cs =>
      match digitValue? c with
      | none => none
      | some d =>
          let t := threshold bias k
          let acc := acc + d * weight
          if acc ≥ 0x100000000 then none
          else if d < t then some (acc, cs)
          else decodeNumber bias (k + 36) (weight * (36 - t)) acc cs

/-- Reads differences into the text so far, at most `fuel` of them. -/
def decodePoints : Nat → Nat → Nat → Nat → List Char → List Char → Option (List Char)
  | _, _, _, _, output, [] => some output
  | 0, _, _, _, _, _ :: _ => none
  | fuel + 1, n, i, bias, output, cs =>
      match decodeNumber bias 36 1 0 cs with
      | none => none
      | some (delta, rest) =>
          let count := output.length + 1
          let i' := i + delta
          let n' := n + i' / count
          let place := i' % count
          if n' < 0xD800 ∨ (0xDFFF < n' ∧ n' ≤ 0x10FFFF) then
            decodePoints fuel n' (place + 1) (adapt delta count (i == 0))
              (output.take place ++ Char.ofNat n' :: output.drop place) rest
          else none

/-- The label that a written form denotes. -/
def decode (cs : List Char) : Option (List Char) :=
  let reversed := cs.reverse
  match reversed.dropWhile (· != '-') with
  | [] => decodePoints cs.length 128 0 72 [] cs
  | _ :: plain =>
      let plain := plain.reverse
      let rest := (reversed.takeWhile (· != '-')).reverse
      if plain.all (·.toNat < 128) then decodePoints rest.length 128 0 72 plain rest else none

end Punycode
end EntityTrust
