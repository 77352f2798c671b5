import EntityTrust.Text.Basic

/-!
# Network addresses as hosts

**Version 4.**  Up to four numbers between dots, each decimal, octal after `0`, or hexadecimal after
`0x`; the last one fills the octets that are left.

**Version 6.**  Eight pieces of 16 bits between colons, of which one run of zeros may be left out,
and the last two may be given as four decimal octets.  The written form leaves out the first longest
run of two or more zeros.
-/

namespace EntityTrust
namespace Address

/-- The value of a digit in a base up to 16. -/
def digit? (base : Nat) (c : Char) : Option Nat :=
  let v :=
    if '0' ≤ c ∧ c ≤ '9' then some (c.toNat - 48)
    else if 'a' ≤ c ∧ c ≤ 'f' then some (c.toNat - 87)
    else if 'A' ≤ c ∧ c ≤ 'F' then some (c.toNat - 55)
    else none
  v.filter (· < base)

/-- The value of a list of digits. -/
def number? (base : Nat) (cs : List Char) : Option Nat :=
  cs.foldl (fun acc c => do pure ((← acc) * base + (← digit? base c))) (some 0)

/-- The number of a part of an address of version 4. -/
def part4? : List Char → Option Nat
  | [] => none
  | '0' :: 'x' :: cs | '0' :: 'X' :: cs => number? 16 cs
  | '0' :: c :: cs => number? 8 (c :: cs)
  | cs => number? 10 cs

/-- The parts of a host between dots, without an empty one at the end. -/
def parts4 (host : List Char) : List (List Char) :=
  match (Text.cut '.' host).reverse with
  | [] :: rest => rest.reverse
  | _ => Text.cut '.' host

/-- Whether the last part of a host is a number. -/
def endsInNumber (host : List Char) : Bool :=
  match (Text.cut '.' host).reverse with
  | [[]] => false
  | [] :: last :: _ => isNumber last
  | last :: _ => isNumber last
  | [] => false
where
  isNumber (last : List Char) : Bool :=
    (!last.isEmpty && last.all Char.isDigit) || (part4? last).isSome

/-- Combines the numbers of the parts; the last one fills the octets left. -/
def combine4 (octetsLeft acc : Nat) : List Nat → Option Nat
  | [] => none
  | [n] => if n < Nat.pow 256 octetsLeft then some (acc * Nat.pow 256 octetsLeft + n) else none
  | n :: rest => if n < 256 then combine4 (octetsLeft - 1) (acc * 256 + n) rest else none

/-- The address of version 4 that a host is. -/
def parse4 (host : List Char) : Option Nat :=
  let parts := parts4 host
  if parts.length > 4 then none
  else (parts.mapM part4?).bind (combine4 4 0)

/-- The written form of an address of version 4. -/
def write4 (n : Nat) : List Char :=
  let octet (k : Nat) := Nat.toDigits 10 (n / Nat.pow 256 k % 256)
  octet 3 ++ '.' :: octet 2 ++ '.' :: octet 1 ++ '.' :: octet 0

section Version6

/-- Splits up to `n` hexadecimal digits off, with their value. -/
def takeHex : Nat → Nat → List Char → Nat × List Char
  | 0, acc, cs => (acc, cs)
  | _ + 1, acc, [] => (acc, [])
  | n + 1, acc, c :: cs =>
      match digit? 16 c with
      | some d => takeHex n (acc * 16 + d) cs
      | none => (acc, c :: cs)

/-- A decimal octet without leading zeros. -/
def octet? (cs : List Char) : Option Nat :=
  match cs with
  | [] => none
  | '0' :: _ :: _ => none
  | _ => (number? 10 cs).filter (· < 256)

/-- The two pieces that four decimal octets give. -/
def tail4? (cs : List Char) : Option (List Nat) :=
  match (Text.cut '.' cs).map octet? with
  | [some a, some b, some c, some d] => some [a * 256 + b, c * 256 + d]
  | _ => none

/-- Pieces before and after the run left out. -/
structure Pieces where
  before : List Nat
  after : Option (List Nat)

/-- Number of pieces read, a run left out counting as one. -/
def Pieces.count (p : Pieces) : Nat :=
  p.before.length + (match p.after with | none => 0 | some a => a.length + 1)

/-- One more piece. -/
def Pieces.push (p : Pieces) (n : Nat) : Pieces :=
  match p.after with
  | none => ⟨p.before ++ [n], none⟩
  | some a => ⟨p.before, some (a ++ [n])⟩

/-- Reads pieces, at most `fuel` of them. -/
def readPieces : Nat → Pieces → List Char → Option Pieces
  | _, p, [] => some p
  | 0, _, _ => none
  | fuel + 1, p, c :: cs =>
      if p.count ≥ 8 then none
      else if c = ':' then
        match p.after with
        | some _ => none
        | none => readPieces fuel ⟨p.before, some []⟩ cs
      else
        match takeHex 4 0 (c :: cs) with
        | (n, []) => some (p.push n)
        | (_, '.' :: _) =>
            if (digit? 16 c).isSome ∧ p.count ≤ 6 then
              (tail4? (c :: cs)).map fun ns => ns.foldl Pieces.push p
            else none
        | (n, ':' :: rest) => if rest.isEmpty then none else readPieces fuel (p.push n) rest
        | _ => none

/-- The eight pieces of an address of version 6. -/
def parse6 (cs : List Char) : Option (List Nat) :=
  let start : Option (Pieces × List Char) :=
    match cs with
    | ':' :: ':' :: rest => some (⟨[], some []⟩, rest)
    | ':' :: _ => none
    | [_] | [] => none
    | cs => some (⟨[], none⟩, cs)
  match start with
  | none => none
  | some (p, rest) =>
      match readPieces 10 p rest with
      | some ⟨before, none⟩ => if before.length = 8 then some before else none
      | some ⟨before, some after⟩ =>
          if before.length + after.length ≤ 8 then
            some (before ++ List.replicate (8 - before.length - after.length) 0 ++ after)
          else none
      | none => none

/-- Length of the run of zeros at the start. -/
def zeroRun (ns : List Nat) : Nat :=
  (ns.takeWhile (· == 0)).length

/-- Start and length of the first longest run of zeros. -/
def longestRun (index : Nat) (best : Nat × Nat) : List Nat → Nat × Nat
  | [] => best
  | n :: rest =>
      let here := zeroRun (n :: rest)
      longestRun (index + 1) (if here > best.2 then (index, here) else best) rest

/-- Pieces in hexadecimal between colons. -/
def writePieces : List Nat → List Char
  | [] => []
  | [n] => Nat.toDigits 16 n
  | n :: rest => Nat.toDigits 16 n ++ ':' :: writePieces rest

/-- The written form of an address of version 6. -/
def write6 (ns : List Nat) : List Char :=
  let (start, length) := longestRun 0 (0, 1) ns
  if length < 2 then writePieces ns
  else writePieces (ns.take start) ++ ':' :: ':' :: writePieces (ns.drop (start + length))

end Version6

end Address
end EntityTrust
