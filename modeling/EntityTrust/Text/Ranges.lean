import EntityTrust.Text.Basic
import EntityTrust.Text.Numeral

/-!
# Sets of code points as tables of ranges

A table is written as lines of numbers: for each range the distance of its first code point from
the code point after the range before, and its length.  Membership is a search by halving.
-/

namespace EntityTrust
namespace Text

/-- The value of a run of decimal digits; other characters count as zero. -/
def natOf (s : String) : Nat :=
  s.toList.foldl (fun acc c => acc * 10 + (Numeral.digit? c).getD 0) 0

/-- First and last code points of the ranges that a list of distances and lengths gives. -/
def rangesFrom (start : Nat) : List Nat → List (Nat × Nat)
  | gap :: size :: rest =>
      (start + gap, start + gap + size - 1) :: rangesFrom (start + gap + size) rest
  | _ => []

/-- Reads a table written in lines. -/
def ranges (lines : List String) : Array (Nat × Nat) :=
  (rangesFrom 0 (lines.flatMap fun l => (fields ' ' l).map natOf)).toArray

/-- The number of entries before the first whose key is above `n`, between `lo` and `hi`. -/
def countUpTo {α : Type} (key : α → Nat) (table : Array α) (n lo hi : Nat) : Nat :=
  if lo < hi then
    let mid := (lo + hi) / 2
    match table[mid]? with
    | some e =>
        if key e ≤ n then countUpTo key table n (mid + 1) hi else countUpTo key table n lo mid
    | none => lo
  else lo
termination_by hi - lo

/-- The last entry of a table sorted by `key` whose key is at most `n`. -/
def lastUpTo {α : Type} (key : α → Nat) (table : Array α) (n : Nat) : Option α :=
  match countUpTo key table n 0 table.size with
  | 0 => none
  | i + 1 => table[i]?

/-- Whether a code point lies in one of the ranges. -/
def inRanges (table : Array (Nat × Nat)) (n : Nat) : Bool :=
  match lastUpTo Prod.fst table n with
  | some r => n ≤ r.2
  | none => false

end Text
end EntityTrust
