import EntityTrust.Text.Utf8

/-!
# Percent-encoding

A text is encoded octet by octet.  Octets outside ASCII are always encoded; of the ASCII ones those
in the given set are.
-/

namespace EntityTrust
namespace Percent

/-- Sets of characters, as tests on ASCII characters. -/
abbrev EncodeSet := Char → Bool

/-- A set with further characters. -/
def EncodeSet.with (s : EncodeSet) (cs : List Char) : EncodeSet := fun c => s c || cs.contains c

/-- Controls. -/
def controls : EncodeSet := fun c => c.toNat < 0x20 || c.toNat == 0x7F

/-- Characters encoded in fragments. -/
def fragment : EncodeSet := EncodeSet.with controls [' ', '"', '<', '>', '\x60']

/-- Characters encoded in queries. -/
def query : EncodeSet := EncodeSet.with controls [' ', '"', '#', '<', '>']

/-- Characters encoded in queries of special schemes. -/
def specialQuery : EncodeSet := EncodeSet.with query ['\'']

/-- Characters encoded in paths. -/
def path : EncodeSet := EncodeSet.with fragment ['#', '?', '\x7b', '\x7d']

/-- Characters encoded in user names and passwords. -/
def userInfo : EncodeSet :=
  EncodeSet.with path ['/', ':', ';', '=', '@', '[', '\\', ']', '^', '|']

/-- The hexadecimal digit of a number below 16. -/
def hexDigit (n : Nat) : Char :=
  if n < 10 then Char.ofNat (48 + n) else Char.ofNat (55 + n)

/-- An encoded octet. -/
def encodeOctet (b : UInt8) : List Char :=
  ['%', hexDigit (b.toNat / 16), hexDigit (b.toNat % 16)]

/-- The octets of a character, each encoded. -/
def encodeOctets (c : Char) : List Char :=
  (Utf8.encode (String.singleton c)).flatMap encodeOctet

/-- An encoded list of characters. -/
def encode (s : EncodeSet) (cs : List Char) : List Char :=
  cs.flatMap fun c => if c.toNat < 0x80 && !s c then [c] else encodeOctets c

/-- The value of a hexadecimal digit octet. -/
def hexValue? (b : UInt8) : Option UInt8 :=
  if 48 ≤ b && b ≤ 57 then some (b - 48)
  else if 65 ≤ b && b ≤ 70 then some (b - 55)
  else if 97 ≤ b && b ≤ 102 then some (b - 87)
  else none

/-- The octets that a list of octets stands for; a stray percent sign stands for itself. -/
def decode : List UInt8 → List UInt8
  | 37 :: a :: b :: rest =>
      match hexValue? a, hexValue? b with
      | some h, some l => (h * 16 + l) :: decode rest
      | _, _ => 37 :: decode (a :: b :: rest)
  | b :: rest => b :: decode rest
  | [] => []

end Percent
end EntityTrust
