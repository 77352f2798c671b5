import EntityTrust.Json.Printer
import EntityTrust.Proofs.Json.Reading

/-!
# Written values

The written form of a value spells the value.

**Values.**  `Plain` holds of values whose numbers are integers within 64 bits and whose objects are
in normal form, by the levels of nesting.

**Results.**
* `octets_numeral`: written integers are their lexemes.
* `spellsText_written`: written strings, every character of them escaped or not.
* `Plain.spells`, `Plain.document`: values, and documents within the levels that are admitted.
-/

namespace EntityTrust
namespace Json

/-- The octets of characters. -/
def octets (cs : List Char) : List UInt8 :=
  cs.flatMap String.utf8EncodeChar

theorem octets_append (cs ds : List Char) : octets (cs ++ ds) = octets cs ++ octets ds :=
  List.flatMap_append

theorem octets_cons (c : Char) (cs : List Char) :
    octets (c :: cs) = String.utf8EncodeChar c ++ octets cs :=
  List.flatMap_cons

section Lexemes

variable {n : Nat} {c : Char}

theorem octets_digitChar (h : n < 10) :
    octets [Nat.digitChar n] = [UInt8.ofNat (Nat.digitChar n).toNat] := by
  interval_cases n <;> decide

theorem octets_toDigits (n : Nat) : octets (Nat.toDigits 10 n) = digits n := by
  induction n using Nat.strong_induction_on with
  | _ n ih =>
    by_cases hn : n < 10
    · rw [Nat.toDigits_of_lt_base hn, digits_of_lt hn, octets_digitChar hn]
    · have hn : 10 ≤ n := Nat.le_of_not_lt hn
      rw [Nat.toDigits_of_base_le (by omega) hn, octets_append, ih (n / 10) (by omega),
        octets_digitChar (by omega), digits_of_le hn]

/-- Written integers are their lexemes. -/
theorem octets_numeral (n : Int) : octets (toString n).toList = numeral n := by
  cases n with
  | ofNat n =>
      have hwritten : (toString (Int.ofNat n)).toList = Nat.toDigits 10 n := String.toList_ofList
      rw [hwritten, octets_toDigits, numeral]
  | negSucc n =>
      have hwritten : (toString (Int.negSucc n)).toList = '-' :: Nat.toDigits 10 (n + 1) := by
        show ("-" ++ Nat.repr (n + 1)).toList = _
        rw [String.toList_append, Nat.repr, String.toList_ofList (l := Nat.toDigits 10 (n + 1))]
        rfl
      rw [hwritten, octets_cons, octets_toDigits]
      rfl

theorem isHex_digitChar (h : n < 16) : IsHex (UInt8.ofNat (Nat.digitChar n).toNat) n := by
  unfold IsHex
  interval_cases n <;> decide

theorem encodeChar_hexDigit (h : n < 16) :
    String.utf8EncodeChar (Nat.digitChar n) = [UInt8.ofNat (Nat.digitChar n).toNat] := by
  interval_cases n <;> decide

/-- The four digits of a code unit. -/
theorem hex4_eq (h : n < 65536) :
    hex4 n = [Nat.digitChar (n / 4096), Nat.digitChar (n / 256 % 16), Nat.digitChar (n / 16 % 16),
      Nat.digitChar (n % 16)] := by
  have hzero : Nat.digitChar 0 = '0' := rfl
  unfold hex4
  rw [Nat.mod_eq_of_lt h]
  rcases Nat.lt_or_ge n 16 with h₁ | h₁
  · rw [Nat.toDigits_of_lt_base h₁, show n / 4096 = 0 by omega, show n / 256 % 16 = 0 by omega,
      show n / 16 % 16 = 0 by omega, Nat.mod_eq_of_lt h₁]
    rfl
  rw [Nat.toDigits_of_base_le (by omega) h₁]
  rcases Nat.lt_or_ge n 256 with h₂ | h₂
  · rw [Nat.toDigits_of_lt_base (by omega), show n / 4096 = 0 by omega,
      show n / 256 % 16 = 0 by omega, show n / 16 % 16 = n / 16 by omega]
    rfl
  rw [Nat.toDigits_of_base_le (by omega) (by omega), Nat.div_div_eq_div_mul]
  rcases Nat.lt_or_ge n 4096 with h₃ | h₃
  · rw [Nat.toDigits_of_lt_base (by omega), show n / 4096 = 0 by omega,
      show n / 256 % 16 = n / 256 by omega]
    rfl
  rw [Nat.toDigits_of_base_le (by omega) (by omega), Nat.div_div_eq_div_mul,
    Nat.toDigits_of_lt_base (by omega)]
  rfl

theorem isHex4_written (h : n < 65536) : IsHex4 (octets (hex4 n)) n := by
  have hvalue : ((n / 4096 * 16 + n / 256 % 16) * 16 + n / 16 % 16) * 16 + n % 16 = n := by omega
  have hdigits := IsHex4.intro (isHex_digitChar (n := n / 4096) (by omega))
    (isHex_digitChar (n := n / 256 % 16) (by omega)) (isHex_digitChar (n := n / 16 % 16) (by omega))
    (isHex_digitChar (n := n % 16) (by omega))
  rw [hvalue] at hdigits
  rw [hex4_eq h, octets, List.flatMap_cons, List.flatMap_cons, List.flatMap_cons,
    List.flatMap_singleton, encodeChar_hexDigit (by omega), encodeChar_hexDigit (by omega),
    encodeChar_hexDigit (by omega), encodeChar_hexDigit (by omega)]
  exact hdigits

/-- Written characters spell the characters. -/
theorem spellsChar_written (c : Char) : SpellsChar (octets (writtenChar c)) c := by
  have hlt := toNat_lt c
  have hletters (ds : List Char) : octets ('\\' :: 'u' :: ds) = 92 :: 117 :: octets ds := rfl
  unfold writtenChar
  dsimp only
  split_ifs with hquote hslash hplain hunit
  · subst hquote
    exact .short (by decide)
  · subst hslash
    exact .short (by decide)
  · rw [octets, List.flatMap_singleton]
    exact .plain hplain.1 hquote hslash
  · rw [hletters]
    exact .unit (isHex4_written hunit)
  · rw [hletters, octets_append, hletters]
    exact .pair (by omega) (isHex4_written (by omega)) (isHex4_written (by omega))

theorem spellsText_written (cs : List Char) : SpellsText (octets (cs.flatMap writtenChar)) cs := by
  induction cs with
  | nil => exact .nil
  | cons c cs ih =>
      rw [List.flatMap_cons, octets_append]
      exact .cons (spellsChar_written c) ih

theorem octets_writtenString (s : String) :
    octets (writtenString s) = quotedText (octets (s.toList.flatMap writtenChar)) := by
  rw [writtenString, octets_cons, octets_append]
  rfl

end Lexemes

section Values

variable {depth : Nat} {v : Json}

/-- Values whose numbers are integers within 64 bits and whose objects are in normal form, with at
most `depth` arrays and objects around each other. -/
inductive Plain : Nat → Json → Prop
  | null {depth : Nat} : Plain depth .null
  | bool {depth : Nat} (b : Bool) : Plain depth (.bool b)
  | integer {depth : Nat} {n : Int} (hlow : Numeral.minSigned64 ≤ n)
      (hhigh : n ≤ Numeral.maxWord64) : Plain depth (.integer n)
  | string {depth : Nat} (s : String) : Plain depth (.string s)
  | array {depth : Nat} {vs : List Json} (h : ∀ v ∈ vs, Plain depth v) :
      Plain (depth + 1) (.array vs)
  | object {depth : Nat} {ms : List Member} (sorted : Sorted ms)
      (h : ∀ m ∈ ms, Plain depth m.2) : Plain (depth + 1) (.object ms)

variable {P : List UInt8 → Json → Prop}

/-- Written items spell the items, up to the closing bracket. -/
theorem items_written {vs : List Json} (h : ∀ v ∈ vs, P (octets (written v)) v) :
    ∃ text, octets (writtenItems vs) = text ++ [93] ∧ Items P text vs := by
  induction vs with
  | nil => exact ⟨[], rfl, .none blank_nil⟩
  | cons v vs ih =>
      obtain ⟨hv, hvs⟩ := List.forall_mem_cons.mp h
      cases vs with
      | nil =>
          refine ⟨_, ?_, .one blank_nil hv blank_nil⟩
          rw [writtenItems, octets_append, List.nil_append, List.append_nil]
          rfl
      | cons v' vs =>
          obtain ⟨text, hwritten, hitems⟩ := ih hvs
          refine ⟨_, ?_, .more blank_nil hv blank_nil hitems nofun⟩
          rw [writtenItems, octets_append, octets_cons, hwritten]
          · simp only [List.nil_append, List.append_assoc, List.cons_append]
            rfl
          · nofun

theorem memberText_written {m : Member} (h : P (octets (written m.2)) m.2) :
    MemberText P (octets (writtenString m.1 ++ ':' :: written m.2)) m := by
  have hmember := MemberText.intro (spellsText_written m.1.toList) blank_nil blank_nil h
  rw [octets_append, octets_writtenString]
  exact hmember

/-- Written members spell the members, up to the closing bracket. -/
theorem members_written {ms : List Member} (h : ∀ m ∈ ms, P (octets (written m.2)) m.2) :
    ∃ text, octets (writtenMembers ms) = text ++ [125] ∧ Items (MemberText P) text ms := by
  induction ms with
  | nil => exact ⟨[], rfl, .none blank_nil⟩
  | cons m ms ih =>
      obtain ⟨hm, hms⟩ := List.forall_mem_cons.mp h
      have hmember := memberText_written hm
      cases ms with
      | nil =>
          refine ⟨_, ?_, .one blank_nil hmember blank_nil⟩
          rw [writtenMembers, ← List.cons_append, ← List.append_assoc, octets_append,
            List.nil_append, List.append_nil]
          rfl
      | cons m' ms =>
          obtain ⟨text, hwritten, hitems⟩ := ih hms
          refine ⟨_, ?_, .more blank_nil hmember blank_nil hitems nofun⟩
          rw [writtenMembers, ← List.cons_append, ← List.append_assoc, octets_append, octets_cons,
            hwritten]
          · simp only [List.nil_append, List.append_assoc, List.cons_append]
            rfl
          · nofun

/-- Scalars are written as their lexemes. -/
theorem scalar_written (h : Plain 0 v) : Scalar (octets (written v)) v := by
  cases h with
  | null => exact .null
  | bool b =>
      cases b with
      | true => exact .yes
      | false => exact .no
  | integer hlow hhigh =>
      rw [written, octets_numeral]
      exact .integer hlow hhigh
  | string s =>
      rw [written, octets_writtenString]
      exact .string (spellsText_written s.toList)

/-- The written form of a value spells the value, whatever becomes of members that are not in
order. -/
theorem Plain.spells {arrange : List Member → List Member}
    (harrange : ∀ ms, Sorted ms → arrange ms = ms) (h : Plain depth v) :
    Spells arrange depth (octets (written v)) v := by
  induction h with
  | null => exact (scalar_written .null).spells
  | bool b => exact (scalar_written (.bool b)).spells
  | integer hlow hhigh => exact (scalar_written (.integer hlow hhigh)).spells
  | string s => exact (scalar_written (.string s)).spells
  | array _ ih =>
      obtain ⟨text, hwritten, hitems⟩ := items_written ih
      rw [written, octets_cons, hwritten]
      exact .array hitems
  | object sorted _ ih =>
      obtain ⟨text, hwritten, hitems⟩ := members_written ih
      have hobject : Compound arrange _ (123 :: (text ++ [125])) (.object (arrange _)) :=
        .object hitems
      rw [harrange _ sorted] at hobject
      rw [written, octets_cons, hwritten]
      exact hobject

/-- A written document spells its value. -/
theorem Plain.document {arrange : List Member → List Member}
    (harrange : ∀ ms, Sorted ms → arrange ms = ms) (h : Plain maxDepth v) :
    Document arrange (Utf8.encode (render v)) v := by
  refine ⟨[], _, [], blank_nil, h.spells harrange, blank_nil, ?_⟩
  rw [render, Utf8.encode_ofList, List.nil_append, List.append_nil]
  rfl

end Values

end Json
end EntityTrust
