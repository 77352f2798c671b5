/-!
# Decimal numerals

Reading a natural number with an upper bound, and the reasons for a refusal.

* A plus sign may stand before the digits.
* The digits are read from the left, so the first of two faults is the one reported: a character
  that is no digit, or the digit that takes the value over the bound.
-/

namespace EntityTrust
namespace Numeral

/-- Why a text is no numeral within the bound. -/
inductive Refusal
  | empty
  | notADigit
  | tooLarge
  deriving DecidableEq

/-- The wording of a refusal. -/
def Refusal.message : Refusal → String
  | .empty => "cannot parse integer from empty string"
  | .notADigit => "invalid digit found in string"
  | .tooLarge => "number too large to fit in target type"

/-- The value of a decimal digit. -/
def digit? (c : Char) : Option Nat :=
  if '0' ≤ c ∧ c ≤ '9' then some (c.toNat - '0'.toNat) else none

/-- Reads further digits after the value `acc`. -/
def digits (bound acc : Nat) : List Char → Except Refusal Nat
  | [] => .ok acc
  | c :: cs =>
      match digit? c with
      | none => .error .notADigit
      | some d =>
          if acc * 10 + d ≤ bound then digits bound (acc * 10 + d) cs else .error .tooLarge

/-- The number at most `bound` that a text denotes. -/
def parse (bound : Nat) (s : String) : Except Refusal Nat :=
  match s.toList with
  | [] => .error .empty
  | ['+'] => .error .notADigit
  | '+' :: cs => digits bound 0 cs
  | cs => digits bound 0 cs

/-- Largest value of a word of 16 bits. -/
def maxWord16 : Nat := 0xFFFF

/-- Largest value of a word of 32 bits. -/
def maxWord32 : Nat := 0xFFFFFFFF

/-- Largest value of a word of 64 bits. -/
def maxWord64 : Nat := 0xFFFFFFFFFFFFFFFF

/-- Least value of a signed word of 64 bits. -/
def minSigned64 : Int := -0x8000000000000000

/-- Largest value of a signed word of 64 bits. -/
def maxSigned64 : Int := 0x7FFFFFFFFFFFFFFF

end Numeral
end EntityTrust
