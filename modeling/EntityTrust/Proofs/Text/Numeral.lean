import EntityTrust.Text.Numeral

/-!
# Texts that are numerals

Which texts are read as natural numbers, and as which.

**Numerals.**  `Denotes` says what a text means, without regard to any bound: its digits, of which
there is at least one, are read to the base ten, and a plus sign in front of them does not count.

**Results.**
* `digits_eq_ok`: the value grows with every digit, so the bound is kept on the way if it is kept at
  the end.
* `parse_eq_ok`: a text is read as the number that it denotes, when that is within the bound.
-/

namespace EntityTrust
namespace Numeral

/-- Decimal digits. -/
def IsDigit (c : Char) : Prop :=
  '0' ≤ c ∧ c ≤ '9'

/-- The number that further digits lead to. -/
def valueFrom (acc : Nat) (cs : List Char) : Nat :=
  cs.foldl (fun acc c => acc * 10 + (c.toNat - '0'.toNat)) acc

/-- A text is a numeral for a number. -/
def Denotes (s : String) (n : Nat) : Prop :=
  ∃ cs : List Char, cs ≠ [] ∧ (s.toList = cs ∨ s.toList = '+' :: cs) ∧
    (∀ c ∈ cs, IsDigit c) ∧ valueFrom 0 cs = n

theorem digit?_of_isDigit {c : Char} (h : IsDigit c) :
    digit? c = some (c.toNat - '0'.toNat) :=
  if_pos h

theorem digit?_of_not_isDigit {c : Char} (h : ¬ IsDigit c) : digit? c = none :=
  if_neg h

theorem le_valueFrom (acc : Nat) (cs : List Char) : acc ≤ valueFrom acc cs := by
  induction cs generalizing acc with
  | nil => exact Nat.le_refl acc
  | cons c cs ih =>
      have hstep : acc * 10 + (c.toNat - '0'.toNat) ≤ valueFrom acc (c :: cs) := ih _
      omega

/-- Digits are read as the number that they lead to, when that is within the bound. -/
theorem digits_eq_ok {bound acc n : Nat} {cs : List Char} (hacc : acc ≤ bound) :
    digits bound acc cs = .ok n ↔ (∀ c ∈ cs, IsDigit c) ∧ valueFrom acc cs = n ∧ n ≤ bound := by
  induction cs generalizing acc with
  | nil =>
      simp only [digits, Except.ok.injEq, List.not_mem_nil, false_implies, implies_true, true_and,
        valueFrom, List.foldl_nil]
      constructor
      · rintro rfl
        exact ⟨rfl, hacc⟩
      · exact fun h => h.1
  | cons c cs ih =>
      have hvalue : valueFrom acc (c :: cs) = valueFrom (acc * 10 + (c.toNat - '0'.toNat)) cs := rfl
      by_cases hc : IsDigit c
      · rw [digits, digit?_of_isDigit hc, hvalue]
        dsimp only
        split
        · rename_i hle
          rw [ih hle, List.forall_mem_cons, and_iff_right hc]
        · rename_i hlarge
          have hgrows := le_valueFrom (acc * 10 + (c.toNat - '0'.toNat)) cs
          simp only [reduceCtorEq, false_iff, not_and]
          omega
      · rw [digits, digit?_of_not_isDigit hc]
        simp [hc]

theorem ne_plus_of_isDigit {c : Char} (h : IsDigit c) : c ≠ '+' := by
  rintro rfl
  revert h
  unfold IsDigit
  decide

theorem parse_of_unsigned {s : String} {c : Char} {cs : List Char} (hs : s.toList = c :: cs)
    (hc : c ≠ '+') (bound : Nat) : parse bound s = digits bound 0 (c :: cs) := by
  rw [parse, hs]
  split
  · rename_i heq
    cases heq
  · rename_i heq
    exact absurd (List.cons.inj heq).1 hc
  · rename_i heq
    exact absurd (List.cons.inj heq).1 hc
  · rfl

theorem parse_of_signed {s : String} {c : Char} {cs : List Char} (hs : s.toList = '+' :: c :: cs)
    (bound : Nat) : parse bound s = digits bound 0 (c :: cs) := by
  simp only [parse, hs]

/-- A text is read as the number that it denotes, when that is within the bound. -/
theorem parse_eq_ok {bound n : Nat} {s : String} :
    parse bound s = .ok n ↔ Denotes s n ∧ n ≤ bound := by
  constructor
  · intro h
    unfold parse at h
    split at h
    · cases h
    · cases h
    · rename_i cs hcs hs
      obtain ⟨hdigits, hvalue, hle⟩ := (digits_eq_ok (Nat.zero_le bound)).mp h
      exact ⟨⟨cs, fun hnil => hcs hnil, .inr hs, hdigits, hvalue⟩, hle⟩
    · rename_i hempty _ _
      obtain ⟨hdigits, hvalue, hle⟩ := (digits_eq_ok (Nat.zero_le bound)).mp h
      exact ⟨⟨s.toList, hempty, .inl rfl, hdigits, hvalue⟩, hle⟩
  · rintro ⟨⟨cs, hne, hs, hdigits, hvalue⟩, hle⟩
    obtain ⟨c, cs, rfl⟩ := List.exists_cons_of_ne_nil hne
    have hparse : parse bound s = digits bound 0 (c :: cs) := by
      rcases hs with hs | hs
      · exact parse_of_unsigned hs (ne_plus_of_isDigit (hdigits c List.mem_cons_self)) bound
      · exact parse_of_signed hs bound
    rw [hparse, digits_eq_ok (Nat.zero_le bound)]
    exact ⟨hdigits, hvalue, hle⟩

end Numeral
end EntityTrust
