/-!
# Octets and Unicode text

UTF-8 as a grammar on lists of octets, read one scalar value at a time.

**Step.**  `Utf8.split` takes the first scalar value off a nonempty list of octets, or the longest
start of it that no scalar value can continue.

**Readings.**
* `Utf8.decode` is strict: it answers the text, or the position of the first octet that belongs to
  no scalar value.
* `Utf8.decodeLossy` puts one replacement character in the place of each ill-formed stretch.
-/

namespace EntityTrust
namespace Utf8

/-- The octets that may follow the first octet of a scalar value. -/
def isTail (b : UInt8) : Bool :=
  0x80 ≤ b && b ≤ 0xBF

/-- How many octets follow a first octet, with the bounds of the second one. -/
structure Lead where
  tails : Nat
  low : UInt8
  high : UInt8
  payload : UInt8

/-- Classification of a first octet above the ASCII range. -/
def lead? (b : UInt8) : Option Lead :=
  if 0xC2 ≤ b && b ≤ 0xDF then some ⟨1, 0x80, 0xBF, b - 0xC0⟩
  else if b == 0xE0 then some ⟨2, 0xA0, 0xBF, 0⟩
  else if b == 0xED then some ⟨2, 0x80, 0x9F, 13⟩
  else if 0xE1 ≤ b && b ≤ 0xEF then some ⟨2, 0x80, 0xBF, b - 0xE0⟩
  else if b == 0xF0 then some ⟨3, 0x90, 0xBF, 0⟩
  else if 0xF1 ≤ b && b ≤ 0xF3 then some ⟨3, 0x80, 0xBF, b - 0xF0⟩
  else if b == 0xF4 then some ⟨3, 0x80, 0x8F, 4⟩
  else none

/-- Adds `n` further octets to the code point `acc`. -/
def takeTails : Nat → Nat → List UInt8 → Option Char × List UInt8
  | 0, acc, rest => (some (Char.ofNat acc), rest)
  | _ + 1, _, [] => (none, [])
  | n + 1, acc, b :: rest =>
      if isTail b then takeTails n (acc * 64 + (b.toNat - 0x80)) rest else (none, b :: rest)

/-- Splits the first scalar value, or the longest ill-formed start, from `b :: rest`. -/
def split (b : UInt8) (rest : List UInt8) : Option Char × List UInt8 :=
  if b < 0x80 then (some (Char.ofNat b.toNat), rest)
  else
    match lead? b, rest with
    | none, _ => (none, rest)
    | some _, [] => (none, [])
    | some l, c :: rest' =>
        if l.low ≤ c && c ≤ l.high then
          takeTails (l.tails - 1) (l.payload.toNat * 64 + (c.toNat - 0x80)) rest'
        else (none, rest)

theorem takeTails_length (n acc : Nat) (s : List UInt8) :
    (takeTails n acc s).2.length ≤ s.length := by
  induction n generalizing acc s with
  | zero => simp [takeTails]
  | succ n ih =>
    cases s with
    | nil => simp [takeTails]
    | cons b rest =>
      simp only [takeTails]
      split
      · exact Nat.le_succ_of_le (ih _ _)
      · simp

theorem split_length (b : UInt8) (rest : List UInt8) :
    (split b rest).2.length ≤ rest.length := by
  unfold split
  split
  · simp
  · split
    · simp
    · simp
    · split
      · exact Nat.le_succ_of_le (takeTails_length _ _ _)
      · simp

/-- Scalar values of `s`, with `none` for each ill-formed stretch. -/
def scalars : List UInt8 → List (Option Char)
  | [] => []
  | b :: rest => (split b rest).1 :: scalars (split b rest).2
termination_by s => s.length
decreasing_by exact Nat.lt_succ_of_le (split_length b rest)

/-- Text with one replacement character for each ill-formed stretch. -/
def decodeLossy (s : List UInt8) : String :=
  String.ofList ((scalars s).map fun c => c.getD '\uFFFD')

/-- Scalar values up to the end, or the number of octets left at the first ill-formed stretch. -/
def decodeChars : List UInt8 → Except Nat (List Char)
  | [] => .ok []
  | b :: rest =>
      match (split b rest).1 with
      | none => .error (rest.length + 1)
      | some c =>
          match decodeChars (split b rest).2 with
          | .ok cs => .ok (c :: cs)
          | .error n => .error n
termination_by s => s.length
decreasing_by exact Nat.lt_succ_of_le (split_length b rest)

/-- Strict reading; a failure is the number of octets left where it is found. -/
def decode (s : List UInt8) : Except Nat String :=
  (decodeChars s).map String.ofList

/-- The octets of a text. -/
def encode (s : String) : List UInt8 :=
  s.toUTF8.toList

end Utf8
end EntityTrust
