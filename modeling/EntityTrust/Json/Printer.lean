import EntityTrust.Json.Basic
import EntityTrust.Decimal.Shortest

/-!
# Written form of JSON values

Values without white space, in ASCII: every other character is escaped by its UTF-16 code units.
-/

namespace EntityTrust
namespace Json

/-- Four hexadecimal digits of a code unit. -/
def hex4 (n : Nat) : List Char :=
  let d := Nat.toDigits 16 (n % 65536)
  List.replicate (4 - d.length) '0' ++ d

/-- A character inside a written string. -/
def writtenChar (c : Char) : List Char :=
  let n := c.toNat
  if c = '"' then ['\\', '"']
  else if c = '\\' then ['\\', '\\']
  else if 0x20 ≤ n ∧ n < 0x7F then [c]
  else if n < 0x10000 then '\\' :: 'u' :: hex4 n
  else
    '\\' :: 'u' :: (hex4 (0xD800 + (n - 0x10000) / 1024) ++
      '\\' :: 'u' :: hex4 (0xDC00 + (n - 0x10000) % 1024))

/-- A written string. -/
def writtenString (s : String) : List Char :=
  '"' :: (s.toList.flatMap writtenChar ++ ['"'])

mutual

/-- The characters of a written value. -/
def written : Json → List Char
  | .null => ['n', 'u', 'l', 'l']
  | .bool true => ['t', 'r', 'u', 'e']
  | .bool false => ['f', 'a', 'l', 's', 'e']
  | .integer n => (toString n).toList
  | .float x => (Decimal.text x).toList
  | .string s => writtenString s
  | .array items => '[' :: writtenItems items
  | .object members => '\x7b' :: writtenMembers members

/-- Written items with the closing bracket. -/
def writtenItems : List Json → List Char
  | [] => [']']
  | [v] => written v ++ [']']
  | v :: rest => written v ++ ',' :: writtenItems rest

/-- Written members with the closing bracket. -/
def writtenMembers : List (String × Json) → List Char
  | [] => ['\x7d']
  | [(k, v)] => writtenString k ++ ':' :: (written v ++ ['\x7d'])
  | (k, v) :: rest => writtenString k ++ ':' :: (written v ++ ',' :: writtenMembers rest)

end

/-- The written form of a value. -/
def render (v : Json) : String :=
  String.ofList (written v)

end Json
end EntityTrust
