/-!
# Base64 with the alphabet for addresses

Reading of the unpadded and the leniently padded form.

**Input.**  The octets of a segment.

**Algorithm.**  All groups of four but the last are decoded first and admit no padding.  The last
group (up to four octets) holds the symbols that remain and, where the mode admits it, padding.

**Refusals.**  The first fault from the left is reported, with one exception: an input one octet
longer than whole groups whose last octet is no symbol is refused for that octet.
-/

namespace EntityTrust
namespace Base64

/-- Whether trailing padding is refused or may be given or left out. -/
inductive Padding
  | forbidden
  | optional
  deriving DecidableEq

/-- Why a segment is no base64 text. -/
inductive Refusal
  | invalidSymbol (octet : UInt8) (offset : Nat)
  | invalidLength (length : Nat)
  | invalidLastSymbol (octet : UInt8) (offset : Nat)
  | invalidPadding
  deriving DecidableEq

/-- The wording of a refusal. -/
def Refusal.message : Refusal → String
  | .invalidSymbol b i => "Invalid symbol " ++ toString b ++ ", offset " ++ toString i ++ "."
  | .invalidLength n => "Invalid input length: " ++ toString n
  | .invalidLastSymbol b i =>
      "Invalid last symbol " ++ toString b ++ ", offset " ++ toString i ++ "."
  | .invalidPadding => "Invalid padding"

/-- The padding octet. -/
def pad : UInt8 := 61

/-- The six bits that a symbol stands for. -/
def value? (b : UInt8) : Option Nat :=
  if 65 ≤ b && b ≤ 90 then some (b.toNat - 65)
  else if 97 ≤ b && b ≤ 122 then some (b.toNat - 71)
  else if 48 ≤ b && b ≤ 57 then some (b.toNat + 4)
  else if b == 45 then some 62
  else if b == 95 then some 63
  else none

/-- The symbol of six bits. -/
def symbol (v : Nat) : UInt8 :=
  if v < 26 then UInt8.ofNat (v + 65)
  else if v < 52 then UInt8.ofNat (v + 71)
  else if v < 62 then UInt8.ofNat (v - 4)
  else if v == 62 then 45
  else 95

/-- The six bits at `offset`, or the refusal of the octet there. -/
def valueAt (b : UInt8) (offset : Nat) : Except Refusal Nat :=
  match value? b with
  | some v => .ok v
  | none => .error (.invalidSymbol b offset)

/-- The three octets of four symbols. -/
def triple (v : Nat) : List UInt8 :=
  [UInt8.ofNat (v / 65536), UInt8.ofNat (v / 256), UInt8.ofNat v]

/-- Symbols of the last group from its start, up to the first padding or the end. -/
def lastSymbols (offset : Nat) : Nat → List UInt8 → Except Refusal (List Nat × Option Nat)
  | _, [] => .ok ([], none)
  | i, b :: rest =>
      if b = pad then
        if i < 2 then .error (.invalidSymbol b (offset + i))
        else if rest.all (· == pad) then .ok ([], some i)
        else .error (.invalidSymbol pad (offset + i))
      else do
        let v ← valueAt b (offset + i)
        let (vs, p) ← lastSymbols offset (i + 1) rest
        pure (v :: vs, p)

/-- Decodes the last group, which starts at `offset`. -/
def decodeLast (mode : Padding) (offset : Nat) (group : List UInt8) :
    Except Refusal (List UInt8) := do
  let (vs, padding) ← lastSymbols offset 0 group
  if group.isEmpty then pure []
  else if vs.length < 2 then .error (.invalidLength (offset + vs.length))
  else if mode = .forbidden ∧ padding.isSome then .error .invalidPadding
  else
    let last := group.getD (vs.length - 1) 0
    let spoiled := Refusal.invalidLastSymbol last (offset + vs.length - 1)
    match vs with
    | [a, b] =>
        if b % 16 = 0 then pure [UInt8.ofNat (a * 4 + b / 16)] else .error spoiled
    | [a, b, c] =>
        if c % 4 = 0 then
          pure [UInt8.ofNat (a * 4 + b / 16), UInt8.ofNat (b * 16 + c / 4)]
        else .error spoiled
    | a :: b :: c :: d :: _ => pure (triple (((a * 64 + b) * 64 + c) * 64 + d))
    | _ => pure []

/-- Decodes the groups from `offset` on; the last one may be short. -/
def decodeGroups (mode : Padding) (offset : Nat) : List UInt8 → Except Refusal (List UInt8)
  | a :: b :: c :: d :: e :: rest => do
      let va ← valueAt a offset
      let vb ← valueAt b (offset + 1)
      let vc ← valueAt c (offset + 2)
      let vd ← valueAt d (offset + 3)
      let more ← decodeGroups mode (offset + 4) (e :: rest)
      pure (triple (((va * 64 + vb) * 64 + vc) * 64 + vd) ++ more)
  | group => decodeLast mode offset group

/-- The octets that a segment denotes. -/
def decode (mode : Padding) (s : List UInt8) : Except Refusal (List UInt8) :=
  match s.getLast? with
  | some b =>
      if s.length % 4 = 1 ∧ b ≠ pad ∧ value? b = none then
        .error (.invalidSymbol b (s.length - 1))
      else decodeGroups mode 0 s
  | none => .ok []

/-- The unpadded segment that denotes the given octets. -/
def encode : List UInt8 → List UInt8
  | [] => []
  | [a] => [symbol (a.toNat / 4), symbol (a.toNat % 4 * 16)]
  | [a, b] =>
      [symbol (a.toNat / 4), symbol (a.toNat % 4 * 16 + b.toNat / 16), symbol (b.toNat % 16 * 4)]
  | a :: b :: c :: rest =>
      symbol (a.toNat / 4) :: symbol (a.toNat % 4 * 16 + b.toNat / 16) ::
        symbol (b.toNat % 16 * 4 + c.toNat / 64) :: symbol (c.toNat % 64) :: encode rest

end Base64
end EntityTrust
