import EntityTrust.Json.Document
import Mathlib.Data.List.Basic

/-!
# Texts of JSON values

Which octets spell which value, without regard to how they are read.

**Lexemes.**  An integer is spelled by its decimal digits.  A character inside a string stands for
itself or is escaped, in one of the short forms or by its code units in hexadecimal digits of either
case.

**Values.**  White space may stand around the items and members between brackets and around the
colon behind a key.  `Spells` recurses on the levels of nesting; what becomes of the members of an
object, which may come in any order and more than once, is a parameter.

Values whose numbers are not integers within 64 bits are left out.
-/

namespace EntityTrust
namespace Json

/-- White space. -/
def Blank (w : List UInt8) : Prop := ∀ b ∈ w, isSpace b = true

theorem blank_nil : Blank [] := nofun

section Lexemes

/-- The decimal digits of a natural number. -/
def digits (n : Nat) : List UInt8 :=
  (Nat.toDigits 10 n).map fun c => UInt8.ofNat c.toNat

/-- The lexeme of an integer. -/
def numeral : Int → List UInt8
  | .ofNat n => digits n
  | .negSucc n => 45 :: digits (n + 1)

/-- An octet is the hexadecimal digit of a value; letters may be of either case. -/
def IsHex (b : UInt8) (v : Nat) : Prop :=
  (v < 10 ∧ b.toNat = 48 + v) ∨ (10 ≤ v ∧ v < 16 ∧ (b.toNat = 55 + v ∨ b.toNat = 87 + v))

/-- Four hexadecimal digits of a code unit. -/
inductive IsHex4 : List UInt8 → Nat → Prop
  | intro {a b c d : UInt8} {p q r t : Nat} (ha : IsHex a p) (hb : IsHex b q) (hc : IsHex c r)
      (hd : IsHex d t) : IsHex4 [a, b, c, d] (((p * 16 + q) * 16 + r) * 16 + t)

/-- The characters that are escaped by one octet. -/
def shortEscapes : List (UInt8 × Char) :=
  [(34, '"'), (92, '\\'), (47, '/'), (98, '\x08'), (102, '\x0c'), (110, '\n'), (114, '\r'),
    (116, '\t')]

/-- The octets that spell a character inside a string. -/
inductive SpellsChar : List UInt8 → Char → Prop
  | plain {c : Char} (hc : 0x20 ≤ c.toNat) (hquote : c ≠ '"') (hslash : c ≠ '\\') :
      SpellsChar (String.utf8EncodeChar c) c
  | short {b : UInt8} {c : Char} (h : (b, c) ∈ shortEscapes) : SpellsChar [92, b] c
  | unit {ds : List UInt8} {c : Char} (h : IsHex4 ds c.toNat) : SpellsChar (92 :: 117 :: ds) c
  | pair {hi lo : List UInt8} {c : Char} (hc : 0x10000 ≤ c.toNat)
      (hhi : IsHex4 hi (0xD800 + (c.toNat - 0x10000) / 1024))
      (hlo : IsHex4 lo (0xDC00 + (c.toNat - 0x10000) % 1024)) :
      SpellsChar (92 :: 117 :: (hi ++ 92 :: 117 :: lo)) c

/-- The octets that spell characters between quotes. -/
inductive SpellsText : List UInt8 → List Char → Prop
  | nil : SpellsText [] []
  | cons {t ts : List UInt8} {c : Char} {cs : List Char} (h : SpellsChar t c)
      (hs : SpellsText ts cs) : SpellsText (t ++ ts) (c :: cs)

/-- A string between quotes. -/
def quotedText (text : List UInt8) : List UInt8 :=
  34 :: (text ++ [34])

theorem quotedText_append (text rest : List UInt8) :
    quotedText text ++ rest = 34 :: (text ++ 34 :: rest) := by
  simp [quotedText]

/-- Literal names, integers and strings. -/
inductive Scalar : List UInt8 → Json → Prop
  | null : Scalar [110, 117, 108, 108] .null
  | yes : Scalar [116, 114, 117, 101] (.bool true)
  | no : Scalar [102, 97, 108, 115, 101] (.bool false)
  | integer {n : Int} (hlow : Numeral.minSigned64 ≤ n) (hhigh : n ≤ Numeral.maxWord64) :
      Scalar (numeral n) (.integer n)
  | string {text : List UInt8} {s : String} (h : SpellsText text s.toList) :
      Scalar (quotedText text) (.string s)

end Lexemes

section Values

variable {α : Type}

/-- Items between brackets, with commas between them and white space around each. -/
inductive Items (P : List UInt8 → α → Prop) : List UInt8 → List α → Prop
  | none {w : List UInt8} (hw : Blank w) : Items P w []
  | one {w text w' : List UInt8} {v : α} (hw : Blank w) (h : P text v) (hw' : Blank w') :
      Items P (w ++ (text ++ w')) [v]
  | more {w text w' rest : List UInt8} {v : α} {vs : List α} (hw : Blank w) (h : P text v)
      (hw' : Blank w') (hrest : Items P rest vs) (hne : vs ≠ []) :
      Items P (w ++ (text ++ (w' ++ 44 :: rest))) (v :: vs)

/-- A key with its value. -/
inductive MemberText (P : List UInt8 → α → Prop) : List UInt8 → String × α → Prop
  | intro {key w w' text : List UInt8} {name : String} {v : α}
      (hkey : SpellsText key name.toList) (hw : Blank w) (hw' : Blank w') (h : P text v) :
      MemberText P (quotedText key ++ (w ++ 58 :: (w' ++ text))) (name, v)

/-- Values whose items and members are of a kind. -/
inductive Compound (arrange : List Member → List Member) (P : List UInt8 → Json → Prop) :
    List UInt8 → Json → Prop
  | scalar {text : List UInt8} {v : Json} (h : Scalar text v) : Compound arrange P text v
  | array {text : List UInt8} {vs : List Json} (h : Items P text vs) :
      Compound arrange P (91 :: (text ++ [93])) (.array vs)
  | object {text : List UInt8} {ms : List Member} (h : Items (MemberText P) text ms) :
      Compound arrange P (123 :: (text ++ [125])) (.object (arrange ms))

/-- The octets that spell a value with at most `depth` arrays and objects around each other. -/
def Spells (arrange : List Member → List Member) : Nat → List UInt8 → Json → Prop
  | 0 => Scalar
  | depth + 1 => Compound arrange (Spells arrange depth)

/-- Scalars may stand at any level. -/
theorem Scalar.spells {arrange : List Member → List Member} {depth : Nat} {text : List UInt8}
    {v : Json} (h : Scalar text v) : Spells arrange depth text v := by
  cases depth with
  | zero => exact h
  | succ depth => exact .scalar h

/-- A whole document that spells a value, with white space around it. -/
def Document (arrange : List Member → List Member) (text : List UInt8) (v : Json) : Prop :=
  ∃ w t w', Blank w ∧ Spells arrange maxDepth t v ∧ Blank w' ∧ text = w ++ (t ++ w')

end Values

end Json
end EntityTrust
