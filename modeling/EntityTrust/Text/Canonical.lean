import EntityTrust.Text.CanonicalTable

/-!
# Canonical composition

The composed normal form of a text: characters are taken apart, combining characters put into the
order of their classes, and characters put together again from the left.
-/

namespace EntityTrust
namespace Text

/-- The canonical combining class. -/
def combiningClass (c : Char) : Nat :=
  if c.toNat < 0x300 then 0 else classOf combiningClasses c.toNat

/-- The decomposition of a code point, if it has one. -/
def decomposition? (n : Nat) : Option Decomposition :=
  match lastUpTo Decomposition.code decompositions n with
  | some d => if d.code = n then some d else none
  | none => none

section Hangul

/-- First code point of the composed syllables. -/
def syllableBase : Nat := 0xAC00

/-- The parts of a composed syllable. -/
def syllableParts (n : Nat) : List Nat :=
  let s := n - syllableBase
  let parts := [0x1100 + s / 588, 0x1161 + s % 588 / 28]
  if s % 28 = 0 then parts else parts ++ [0x11A7 + s % 28]

/-- The syllable that two code points compose. -/
def composeSyllable? (a b : Nat) : Option Nat :=
  if 0x1100 ≤ a ∧ a < 0x1113 ∧ 0x1161 ≤ b ∧ b < 0x1176 then
    some (syllableBase + ((a - 0x1100) * 21 + (b - 0x1161)) * 28)
  else if syllableBase ≤ a ∧ a < syllableBase + 11172 ∧ (a - syllableBase) % 28 = 0 ∧
      0x11A8 ≤ b ∧ b < 0x11C3 then some (a + (b - 0x11A7))
  else none

end Hangul

/-- A code point taken apart as far as possible; `fuel` bounds the steps. -/
def takeApart : Nat → Nat → List Nat
  | 0, n => [n]
  | fuel + 1, n =>
      if syllableBase ≤ n ∧ n < syllableBase + 11172 then syllableParts n
      else
        match decomposition? n with
        | none => [n]
        | some d => takeApart fuel d.first ++ (if d.second = 0 then [] else [d.second])

/-- Puts a combining character behind those of the same or a lower class. -/
def insertByClass (c : Char) : List Char → List Char
  | [] => [c]
  | d :: ds =>
      if combiningClass d > combiningClass c ∧ combiningClass c ≠ 0 then c :: d :: ds
      else d :: insertByClass c ds

/-- Sorts a run of combining characters by class, keeping the order within a class. -/
def sortRun (run : List Char) : List Char :=
  run.foldl (fun acc c => insertByClass c acc) []

/-- Sorts each run of combining characters; `run` is the current one, reversed. -/
def orderRuns (run : List Char) : List Char → List Char
  | [] => sortRun run.reverse
  | c :: cs =>
      if combiningClass c = 0 then sortRun run.reverse ++ c :: orderRuns [] cs
      else orderRuns (c :: run) cs

/-- The character that two characters compose. -/
def compose? (a b : Char) : Option Char :=
  match composeSyllable? a.toNat b.toNat with
  | some n => some (Char.ofNat n)
  | none =>
      match decompositions.find? (fun d => d.first == a.toNat && d.second == b.toNat) with
      | some d =>
          if inRanges compositionExclusions d.code then none else some (Char.ofNat d.code)
      | none => none

/-- Puts characters together; `pending` are those behind the starter that stayed, reversed. -/
def composeFrom (starter : Option Char) (pending : List Char) : List Char → List Char
  | [] => starter.toList ++ pending.reverse
  | c :: cs =>
      let blocked :=
        match pending with
        | [] => false
        | p :: _ => combiningClass p ≥ combiningClass c
      match starter.bind fun s => if blocked then none else compose? s c with
      | some joined => composeFrom (some joined) pending cs
      | none =>
          if combiningClass c = 0 then
            starter.toList ++ pending.reverse ++ composeFrom (some c) [] cs
          else composeFrom starter (c :: pending) cs

/-- The composed normal form. -/
def composed (cs : List Char) : List Char :=
  if cs.all (·.toNat < 0x300) then cs
  else
    composeFrom none []
      (orderRuns [] (cs.flatMap fun c => (takeApart 8 c.toNat).map Char.ofNat))

end Text
end EntityTrust
