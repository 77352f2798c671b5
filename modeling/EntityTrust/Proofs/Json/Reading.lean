import EntityTrust.Proofs.Json.Grammar
import EntityTrust.Proofs.Json.Object
import EntityTrust.Proofs.Outcome
import EntityTrust.Proofs.Text.Utf8
import Mathlib.Tactic.IntervalCases

/-!
# Reading what spells a value

Every text of a value is read as the value, whatever stands behind it, as long as that cannot go on
with a number.

**Readings.**  `Takes` says that a reading succeeds, with which value, and what it leaves.  It
passes through all ways in which readers are put together; the loops over items and members take
what the items and members take.

**Results.**
* `takes_readBehindDigit`, `takes_readString`: lexemes.
* `takes_readItems`, `takes_foldMembers`: the loops, for any reader of an item or a member.
* `reads_readValue`: values of any depth that is admitted.
* `ofDocument_of_document`: whole documents.
-/

namespace EntityTrust
namespace Json

variable {α β : Type} {s t : List UInt8} {rest more : List UInt8}

/-- A reading succeeds with a value and leaves some octets. -/
def Takes (x : Except Fault (Taken α s)) (v : α) (rest : List UInt8) : Prop :=
  ∃ le, x = .ok ⟨v, rest, le⟩

section Takes

variable {x : Except Fault (Taken α s)} {v : α} {w : β}

theorem takes_ok {r : Taken α s} (hv : r.value = v) (hrest : r.rest = rest) :
    Takes (.ok r) v rest := by
  obtain ⟨value, left, le⟩ := r
  obtain ⟨rfl, rfl⟩ := And.intro hv hrest
  exact ⟨le, rfl⟩

theorem Takes.bind {f : Taken α s → Except Fault (Taken β t)} (h : Takes x v rest)
    (hf : ∀ le, Takes (f ⟨v, rest, le⟩) w more) : Takes (x >>= f) w more := by
  obtain ⟨le, rfl⟩ := h
  exact hf le

/-- What is done with a value once it is there. -/
theorem Takes.of_value {f : Taken α s → Taken β t} (h : Takes x v rest)
    (hf : ∀ le, (f ⟨v, rest, le⟩).value = w ∧ (f ⟨v, rest, le⟩).rest = more) :
    Takes (x.map f) w more := by
  obtain ⟨le, rfl⟩ := h
  obtain ⟨rfl, rfl⟩ := hf le
  exact ⟨_, rfl⟩

theorem Takes.later (h : Takes x v rest) (lt : s.length < t.length) :
    Takes (x.map fun r => (r.later lt : Taken α t)) v rest :=
  h.of_value fun _ => ⟨rfl, rfl⟩

theorem takes_next {r : Taken α s} {f : α → Reader β} (h : Takes (f r.value r.rest) w more) :
    Takes (r.next f) w more := by
  obtain ⟨le, h⟩ := h
  exact ⟨_, by rw [Taken.next, h]; rfl⟩

theorem Takes.inside {step : Step} (h : Takes x v rest) : Takes (Json.inside step x) v rest := by
  obtain ⟨le, rfl⟩ := h
  exact ⟨le, rfl⟩

theorem takes_closing {close : (t : List UInt8) → Taken (Except Fault Unit) t} {r : Taken α s}
    (h : ∃ le, close r.rest = ⟨.ok (), more, le⟩) : Takes (closing close r) r.value more := by
  obtain ⟨le, h⟩ := h
  refine ⟨Nat.le_trans le r.le, ?_⟩
  simp only [closing, h]

end Takes

section Blanks

variable {w : List UInt8} {b : UInt8}

/-- The first octet behind white space and what stands behind it. -/
def Sees (s : List UInt8) (b : UInt8) (rest : List UInt8) : Prop :=
  ∃ lt, ahead s = .octet b rest lt

theorem sees_cons (hb : isSpace b = false) : Sees (b :: rest) b rest := by
  refine ⟨Nat.lt_succ_self _, ?_⟩
  simp only [ahead, hb, Bool.false_eq_true, if_false]

theorem sees_blank (hw : Blank w) (hb : isSpace b = false) : Sees (w ++ b :: rest) b rest := by
  induction w with
  | nil => exact sees_cons hb
  | cons c w ih =>
      obtain ⟨hc, hw⟩ := List.forall_mem_cons.mp hw
      obtain ⟨lt, h⟩ := ih hw
      refine ⟨Nat.lt_succ_of_lt lt, ?_⟩
      show ahead (c :: (w ++ b :: rest)) = _
      unfold ahead
      rw [if_pos hc, h]

theorem ahead_blank (hw : Blank w) : ahead w = .nothing := by
  induction w with
  | nil => rfl
  | cons c w ih =>
      obtain ⟨hc, hw⟩ := List.forall_mem_cons.mp hw
      unfold ahead
      rw [if_pos hc, ih hw]

end Blanks

section Numbers

/-- Nothing that could go on with a number. -/
def EndsNumber (rest : List UInt8) : Prop :=
  ∀ b more, rest = b :: more → digit? b = none ∧ b ≠ 46 ∧ b ≠ 101 ∧ b ≠ 69

/-- The octet of a decimal digit. -/
def IsDigit (b : UInt8) : Prop := 48 ≤ b.toNat ∧ b.toNat ≤ 57

/-- The number that further digits lead to. -/
def valueFrom (acc : Nat) (ds : List UInt8) : Nat :=
  ds.foldl (fun acc b => acc * 10 + (b.toNat - 48)) acc

variable {ds : List UInt8} {b : UInt8} {n acc count : Nat} {negative : Bool}

theorem digit?_of_isDigit (h : IsDigit b) : digit? b = some (b.toNat - 48) := by
  have hrange : (48 ≤ b && b ≤ 57) = true := by
    simp only [Bool.and_eq_true, decide_eq_true_eq, UInt8.le_iff_toNat_le]
    exact h
  rw [digit?, if_pos hrange]

theorem toNat_digitOctet (h : n < 10) : (UInt8.ofNat (Nat.digitChar n).toNat).toNat = 48 + n := by
  interval_cases n <;> rfl

theorem digits_of_lt (h : n < 10) : digits n = [UInt8.ofNat (Nat.digitChar n).toNat] := by
  rw [digits, Nat.toDigits_of_lt_base h, List.map_singleton]

theorem digits_of_le (h : 10 ≤ n) :
    digits n = digits (n / 10) ++ [UInt8.ofNat (Nat.digitChar (n % 10)).toNat] := by
  rw [digits, Nat.toDigits_of_base_le (by omega) h, List.map_append, List.map_singleton, digits]

theorem isDigit_digits (n : Nat) : ∀ b ∈ digits n, IsDigit b := by
  have hlast {d : Nat} (hd : d < 10) : IsDigit (UInt8.ofNat (Nat.digitChar d).toNat) := by
    rw [IsDigit, toNat_digitOctet hd]
    omega
  induction n using Nat.strong_induction_on with
  | _ n ih =>
    by_cases hn : n < 10
    · rw [digits_of_lt hn]
      simpa using hlast hn
    · rw [digits_of_le (by omega)]
      exact List.forall_mem_append.mpr
        ⟨ih (n / 10) (by omega), by simpa using hlast (d := n % 10) (by omega)⟩

theorem valueFrom_digits (n : Nat) : valueFrom 0 (digits n) = n := by
  induction n using Nat.strong_induction_on with
  | _ n ih =>
    by_cases hn : n < 10
    · rw [digits_of_lt hn, valueFrom, List.foldl_cons, List.foldl_nil, toNat_digitOctet hn]
      omega
    · have hfront : (digits (n / 10)).foldl (fun acc b => acc * 10 + (b.toNat - 48)) 0 = n / 10 :=
        ih (n / 10) (by omega)
      rw [digits_of_le (by omega), valueFrom, List.foldl_append, hfront, List.foldl_cons,
        List.foldl_nil, toNat_digitOctet (by omega)]
      omega

/-- The first digit of a number is zero for zero only. -/
theorem digits_cons (h : 0 < n) : ∃ b ds, digits n = b :: ds ∧ 48 < b.toNat := by
  induction n using Nat.strong_induction_on with
  | _ n ih =>
    by_cases hn : n < 10
    · refine ⟨_, [], digits_of_lt hn, ?_⟩
      rw [toNat_digitOctet hn]
      omega
    · obtain ⟨b, ds, hds, hb⟩ := ih (n / 10) (by omega) (by omega)
      rw [digits_of_le (by omega), hds]
      exact ⟨b, _, List.cons_append, hb⟩

theorem le_valueFrom (acc : Nat) (ds : List UInt8) : acc ≤ valueFrom acc ds := by
  induction ds generalizing acc with
  | nil => exact Nat.le_refl acc
  | cons b ds ih =>
      have hstep : acc * 10 + (b.toNat - 48) ≤ valueFrom acc (b :: ds) := ih _
      omega

theorem EndsNumber.startsWithDigit (h : EndsNumber rest) : startsWithDigit rest = false := by
  cases rest with
  | nil => rfl
  | cons b more => simp [Json.startsWithDigit, (h b more rfl).1]

/-- All digits are taken as long as their value fits. -/
theorem takeDigits_digits (hds : ∀ b ∈ ds, IsDigit b) (hrest : startsWithDigit rest = false)
    (hfit : valueFrom acc ds ≤ Numeral.maxWord64) :
    ∃ c le, takeDigits acc count (ds ++ rest) = ⟨(valueFrom acc ds, c), rest, le⟩ := by
  induction ds generalizing acc count with
  | nil =>
      cases rest with
      | nil => exact ⟨_, _, rfl⟩
      | cons b more =>
          have hb : digit? b = none := by simpa [startsWithDigit] using hrest
          refine ⟨count, Nat.le_refl _, ?_⟩
          simp only [List.nil_append, takeDigits, hb]
          rfl
  | cons b ds ih =>
      obtain ⟨hb, hds⟩ := List.forall_mem_cons.mp hds
      have hstep : acc * 10 + (b.toNat - 48) ≤ Numeral.maxWord64 :=
        Nat.le_trans (le_valueFrom _ ds) hfit
      obtain ⟨c, le, h⟩ : ∃ c le,
          takeDigits (acc * 10 + (b.toNat - 48)) (count + 1) (ds ++ rest) =
            ⟨(valueFrom (acc * 10 + (b.toNat - 48)) ds, c), rest, le⟩ := ih hds hfit
      refine ⟨c, Nat.le_succ_of_le le, ?_⟩
      simp only [List.cons_append, takeDigits, digit?_of_isDigit hb, hstep, if_true, h]
      rfl

/-- An integer ends where the number cannot go on. -/
theorem takes_readAfterInteger (hrest : EndsNumber rest) :
    Takes (readAfterInteger negative n rest) (integerValue negative n) rest := by
  cases rest with
  | nil => exact ⟨_, rfl⟩
  | cons b more =>
      obtain ⟨-, hpoint, hsmall, hlarge⟩ := hrest b more rfl
      refine ⟨Nat.le_refl _, ?_⟩
      simp only [readAfterInteger, beq_eq_false_iff_ne.mpr hpoint, beq_eq_false_iff_ne.mpr hsmall,
        beq_eq_false_iff_ne.mpr hlarge, Bool.or_self, Bool.false_eq_true, if_false]

/-- The digits of a natural number within 64 bits are read as an integer. -/
theorem takes_readBehindDigit (hfit : n ≤ Numeral.maxWord64) (hrest : EndsNumber rest) :
    ∃ b ds, digits n = b :: ds ∧ IsDigit b ∧
      Takes (readBehindDigit negative (b.toNat - 48) (ds ++ rest)) (integerValue negative n)
        rest := by
  rcases Nat.eq_zero_or_pos n with rfl | hn
  · refine ⟨48, [], rfl, ⟨by decide, by decide⟩, ?_⟩
    have hzero : (48 : UInt8).toNat - 48 = 0 := rfl
    rw [readBehindDigit, hzero, if_pos rfl, List.nil_append, hrest.startsWithDigit,
      if_neg Bool.false_ne_true]
    exact takes_readAfterInteger hrest
  · obtain ⟨b, ds, hds, hb⟩ := digits_cons hn
    obtain ⟨hdigit, hdigits⟩ := List.forall_mem_cons.mp (hds ▸ isDigit_digits n)
    have hvalue : valueFrom (b.toNat - 48) ds = n := by
      have := valueFrom_digits n
      rwa [hds, valueFrom, List.foldl_cons, Nat.zero_mul, Nat.zero_add] at this
    obtain ⟨c, le, htake⟩ := takeDigits_digits hdigits
      hrest.startsWithDigit (hvalue ▸ hfit)
    refine ⟨b, ds, hds, hdigit, ?_⟩
    rw [readBehindDigit, if_neg (by omega), htake, hvalue]
    refine takes_next ?_
    dsimp only
    rw [hrest.startsWithDigit, if_neg Bool.false_ne_true]
    exact takes_readAfterInteger hrest

/-- A minus sign and digits are read as a negative integer. -/
theorem takes_readBehindMinus (hfit : n + 1 ≤ 0x8000000000000000) (hrest : EndsNumber rest) :
    Takes (readBehindMinus (digits (n + 1) ++ rest)) (.integer (.negSucc n)) rest := by
  have hmax : n + 1 ≤ Numeral.maxWord64 := Nat.le_trans hfit (by decide)
  obtain ⟨b, ds, hds, hb, h⟩ := takes_readBehindDigit hmax hrest
  have hvalue : integerValue true (n + 1) = .integer (.negSucc n) := by
    rw [integerValue, if_pos rfl, if_neg (by omega)]
    rfl
  rw [hvalue] at h
  rw [hds, List.cons_append, readBehindMinus, digit?_of_isDigit hb]
  exact h.bind fun _ => ⟨_, rfl⟩

end Numbers

section Strings

variable {b : UInt8} {ds text : List UInt8} {v n : Nat} {c : Char} {cs : List Char}

theorem hexDigit?_of_isHex (h : IsHex b v) : hexDigit? b = some v := by
  have hb {k : Nat} (hk : k < 256) (h : b.toNat = k) : b = UInt8.ofNat k := by
    rw [← UInt8.toNat_inj, h, UInt8.toNat_ofNat_of_lt' hk]
  rcases h with ⟨hv, h⟩ | ⟨hlow, hv, h | h⟩
  · rw [hb (by omega) h]
    interval_cases v <;> rfl
  · rw [hb (by omega) h]
    interval_cases v <;> rfl
  · rw [hb (by omega) h]
    interval_cases v <;> rfl

theorem takes_readHex (h : IsHex4 ds n) : Takes (readHex (ds ++ rest)) n rest := by
  obtain ⟨ha, hb, hc, hd⟩ := h
  refine ⟨by simp only [List.length_append]; omega, ?_⟩
  simp only [List.cons_append, List.nil_append, readHex, hexDigit?_of_isHex ha,
    hexDigit?_of_isHex hb, hexDigit?_of_isHex hc, hexDigit?_of_isHex hd]

theorem takes_readWithinPair : Takes (readWithinPair b (b :: rest)) () rest := by
  refine ⟨Nat.le_succ _, ?_⟩
  simp only [readWithinPair, if_true]

/-- Code units in hexadecimal digits are read as their character. -/
theorem takes_readCodePoint_unit (h : IsHex4 ds c.toNat) :
    Takes (readCodePoint (ds ++ rest)) c rest := by
  have hvalid : c.toNat < 0xD800 ∨ 0xDFFF < c.toNat ∧ c.toNat < 0x110000 := c.valid
  refine (takes_readHex h).bind fun le => ?_
  dsimp only
  rw [if_neg (by omega), if_pos (by omega)]
  exact takes_ok (Char.ofNat_toNat c) rfl

/-- A pair of code units is read as the code point that they stand for. -/
theorem takes_readCodePoint_pair {hi lo : List UInt8} {u l : Nat} (hhi : IsHex4 hi u)
    (hlo : IsHex4 lo l) (hu : 0xD800 ≤ u ∧ u ≤ 0xDBFF) (hl : 0xDC00 ≤ l ∧ l ≤ 0xDFFF) :
    Takes (readCodePoint (hi ++ 92 :: 117 :: (lo ++ rest)))
      (Char.ofNat ((u - 0xD800) * 1024 + (l - 0xDC00) + 0x10000)) rest := by
  refine (takes_readHex hhi).bind fun le => ?_
  dsimp only
  rw [if_neg (by omega), if_neg (by omega)]
  refine takes_next (takes_readWithinPair.bind fun le => ?_)
  refine (takes_next takes_readWithinPair).bind fun le => ?_
  refine (takes_next (takes_readHex hlo)).bind fun le => ?_
  dsimp only
  rw [if_neg (by omega)]
  exact ⟨_, by rw [Taken.map]; rfl⟩

theorem toNat_lt (c : Char) : c.toNat < 0x110000 := by
  have hvalid : c.toNat < 0xD800 ∨ 0xDFFF < c.toNat ∧ c.toNat < 0x110000 := c.valid
  omega

/-- The code point of the code units of a character beyond 16 bits. -/
theorem ofNat_units (hc : 0x10000 ≤ c.toNat) :
    Char.ofNat ((0xD800 + (c.toNat - 0x10000) / 1024 - 0xD800) * 1024 +
      (0xDC00 + (c.toNat - 0x10000) % 1024 - 0xDC00) + 0x10000) = c := by
  have hvalue : (0xD800 + (c.toNat - 0x10000) / 1024 - 0xD800) * 1024 +
      (0xDC00 + (c.toNat - 0x10000) % 1024 - 0xDC00) + 0x10000 = c.toNat := by omega
  rw [hvalue, Char.ofNat_toNat]

theorem takes_readEscape_short (h : (b, c) ∈ shortEscapes) :
    Takes (readEscape (b :: rest)) c rest := by
  have hescape : ∀ p ∈ shortEscapes, shortEscape? p.1 = some p.2 := by decide
  refine ⟨Nat.le_succ _, ?_⟩
  simp only [readEscape, hescape _ h]

theorem takes_readEscape_unicode (h : Takes (readCodePoint text) c rest) :
    Takes (readEscape (117 :: text)) c rest := by
  have hletter : shortEscape? 117 = none := by decide
  rw [readEscape, hletter]
  exact h.bind fun le => takes_ok rfl rfl

/-- Characters inside a string, escaped or not, are read one after another. -/
theorem takes_readOctets_escape (h : Takes (readEscape text) c rest)
    (hrest : Takes (readOctets rest) (cs, none) more) :
    Takes (readOctets (92 :: text)) (c :: cs, none) more := by
  obtain ⟨le, h⟩ := h
  obtain ⟨le', hrest⟩ := hrest
  refine ⟨Nat.le_trans le' (Nat.le_succ_of_le le), ?_⟩
  rw [readOctets]
  simp only [show ¬ (92 : UInt8) = 34 by decide, if_false, if_true, h, hrest]

/-- The octets of a character are itself or lie beyond ASCII. -/
theorem mem_encodeChar (h : b ∈ String.utf8EncodeChar c) : b.toNat = c.toNat ∨ 0x80 ≤ b.toNat := by
  have hlt := toNat_lt c
  have hoctet {n : Nat} (hn : n < 256) : (UInt8.ofNat n).toNat = n := UInt8.toNat_ofNat_of_lt' hn
  have htail (n : Nat) : 0x80 ≤ (UInt8.ofNat (n % 64 + 128)).toNat := by
    rw [hoctet (by omega)]
    omega
  unfold String.utf8EncodeChar at h
  change c.val.toNat < 0x110000 at hlt
  change b.toNat = c.val.toNat ∨ 0x80 ≤ b.toNat
  generalize c.val.toNat = v at *
  dsimp only at h
  split at h
  · rename_i hv
    rw [List.mem_singleton.mp h, hoctet (by omega)]
    exact .inl rfl
  · right
    split at h
    · simp only [List.mem_cons, List.not_mem_nil, or_false] at h
      rcases h with rfl | rfl
      · rw [hoctet (by omega)]
        omega
      · exact htail v
    · split at h
      · simp only [List.mem_cons, List.not_mem_nil, or_false] at h
        rcases h with rfl | rfl | rfl
        · rw [hoctet (by omega)]
          omega
        · exact htail _
        · exact htail _
      · simp only [List.mem_cons, List.not_mem_nil, or_false] at h
        rcases h with rfl | rfl | rfl | rfl
        · rw [hoctet (by omega)]
          omega
        · exact htail _
        · exact htail _
        · exact htail _

/-- The octets of a plain character mean nothing inside a string. -/
structure PlainOctet (b : UInt8) : Prop where
  notQuote : b ≠ 34
  notBackslash : b ≠ 92
  notControl : ¬ b < 32

theorem plainOctet (hc : 0x20 ≤ c.toNat) (hquote : c ≠ '"') (hslash : c ≠ '\\')
    (h : b ∈ String.utf8EncodeChar c) : PlainOctet b := by
  have hne {d : Char} (hd : c ≠ d) : c.toNat ≠ d.toNat := fun heq => hd (Char.toNat_inj.mp heq)
  have hquote : c.toNat ≠ 34 := hne hquote
  have hslash : c.toNat ≠ 92 := hne hslash
  have hoctet := mem_encodeChar h
  refine ⟨?_, ?_, fun hlt => ?_⟩
  · rintro rfl
    change 34 = c.toNat ∨ 0x80 ≤ 34 at hoctet
    omega
  · rintro rfl
    change 92 = c.toNat ∨ 0x80 ≤ 92 at hoctet
    omega
  · have hlt : b.toNat < 32 := UInt8.lt_iff_toNat_lt.mp hlt
    omega

theorem takes_readOctets_plain (hc : 0x20 ≤ c.toNat) (hquote : c ≠ '"') (hslash : c ≠ '\\')
    (hrest : Takes (readOctets rest) (cs, none) more) :
    Takes (readOctets (String.utf8EncodeChar c ++ rest)) (c :: cs, none) more := by
  obtain ⟨b, bs, hencode, hsplit⟩ := Utf8.split_encodeChar c rest
  have hb := plainOctet hc hquote hslash (b := b) (by simp [hencode])
  obtain ⟨le, hrest⟩ : Takes (readOctets (Utf8.split b (bs ++ rest)).2) (cs, none) more := by
    rw [hsplit]
    exact hrest
  rw [hencode, List.cons_append, readOctets, if_neg hb.notQuote, if_neg hb.notBackslash,
    if_neg hb.notControl]
  dsimp only
  rw [hrest]
  exact takes_ok (by simp [hsplit]) rfl

theorem takes_readOctets (h : SpellsText text cs) :
    Takes (readOctets (text ++ 34 :: rest)) (cs, none) rest := by
  induction h with
  | nil =>
      rw [List.nil_append, readOctets, if_pos rfl]
      exact takes_ok rfl rfl
  | @cons t ts c cs hchar _ ih =>
      have hlt := toNat_lt c
      rw [List.append_assoc]
      cases hchar with
      | plain hc hquote hslash => exact takes_readOctets_plain hc hquote hslash ih
      | short h => exact takes_readOctets_escape (takes_readEscape_short h) ih
      | unit h =>
          exact takes_readOctets_escape (takes_readEscape_unicode (takes_readCodePoint_unit h)) ih
      | pair hc hhi hlo =>
          rw [List.cons_append, List.cons_append, List.append_assoc, List.cons_append,
            List.cons_append]
          refine takes_readOctets_escape (takes_readEscape_unicode ?_) ih
          rw [← ofNat_units hc]
          exact takes_readCodePoint_pair hhi hlo (by omega) (by omega)

/-- What spells the characters of a string is read as the string. -/
theorem takes_readString {s : String} (h : SpellsText text s.toList) :
    Takes (readString (text ++ 34 :: rest)) s rest := by
  refine (takes_readOctets h).bind fun le => ?_
  exact takes_ok (String.ofList_toList) rfl

end Strings

section Loops

variable {P : List UInt8 → α → Prop} {item : Reader α} {b : UInt8} {first : Bool}
  {text w : List UInt8} {vs : List α} {v : α}

/-- An octet that a value can start with: no white space and no mark of an array or object. -/
structure Opens (b : UInt8) : Prop where
  notSpace : isSpace b = false
  notComma : b ≠ 44
  notBracket : b ≠ 93
  notBrace : b ≠ 125

/-- What a reader takes as values, and leaves what cannot go on with a number. -/
structure Reads (item : Reader α) (P : List UInt8 → α → Prop) : Prop where
  opens : ∀ {text v}, P text v → ∃ b more, text = b :: more ∧ Opens b
  takes : ∀ {w text v rest}, Blank w → P text v → EndsNumber rest →
    Takes (item (w ++ (text ++ rest))) v rest

theorem not_number_of_isSpace (h : isSpace b = true) :
    digit? b = none ∧ b ≠ 46 ∧ b ≠ 101 ∧ b ≠ 69 := by
  simp only [isSpace, Bool.or_eq_true, beq_iff_eq] at h
  rcases h with ((rfl | rfl) | rfl) | rfl <;> decide

theorem endsNumber_blank (hw : Blank w) (hb : b = 44 ∨ b = 93 ∨ b = 125) :
    EndsNumber (w ++ b :: rest) := by
  intro c more heq
  cases w with
  | nil =>
      obtain ⟨rfl, -⟩ := List.cons.inj heq
      rcases hb with rfl | rfl | rfl <;> decide
  | cons d w =>
      obtain ⟨rfl, -⟩ := List.cons.inj heq
      exact not_number_of_isSpace (List.forall_mem_cons.mp hw).1

/-- Where the items of a list go on: at once for the first one, behind a comma for others. -/
def Begins (first : Bool) (s t : List UInt8) : Prop :=
  match first with
  | true => s = t
  | false => ∃ w, Blank w ∧ s = w ++ 44 :: t

theorem nextItem_go (hb : Opens b) (hw : Blank w) (h : Begins first s (w ++ b :: rest)) :
    ∃ le, nextItem first s = .ok (.go (b :: rest) le) := by
  have hbracket : (b == 93) = false := beq_eq_false_iff_ne.mpr hb.notBracket
  obtain ⟨lt, hsees⟩ : Sees (w ++ b :: rest) b rest := sees_blank hw hb.notSpace
  cases first with
  | true =>
      obtain rfl : s = _ := h
      refine ⟨lt, ?_⟩
      unfold nextItem
      rw [hsees]
      simp only [hbracket, Bool.false_eq_true, if_false]
  | false =>
      obtain ⟨w', hw', rfl⟩ := h
      obtain ⟨lt', hcomma⟩ : Sees (w' ++ 44 :: (w ++ b :: rest)) 44 (w ++ b :: rest) :=
        sees_blank hw' (by decide)
      refine ⟨by simp at lt lt' ⊢; omega, ?_⟩
      unfold nextItem
      rw [hcomma]
      simp only [show ((44 : UInt8) == 93) = false by decide, beq_self_eq_true, if_true, hsees,
        hbracket, Bool.false_eq_true, if_false]

theorem nextItem_stop (hw : Blank w) :
    ∃ le, nextItem first (w ++ 93 :: rest) = .ok (.stop (93 :: rest) le) := by
  obtain ⟨lt, hsees⟩ : Sees (w ++ 93 :: rest) 93 rest := sees_blank hw (by decide)
  refine ⟨lt, ?_⟩
  unfold nextItem
  rw [hsees]
  simp only [beq_self_eq_true, if_true]

theorem takes_readItems_stop (hw : Blank w) (index : Nat) :
    Takes (readItems item first index (w ++ 93 :: rest)) [] (93 :: rest) := by
  obtain ⟨le, hstop⟩ : ∃ le, nextItem first (w ++ 93 :: rest) = .ok (.stop (93 :: rest) le) :=
    nextItem_stop hw
  rw [readItems, hstop]
  exact takes_ok rfl rfl

/-- One item and the items behind it. -/
theorem takes_readItems_go {index : Nat} {more' : List UInt8}
    (hgo : ∃ le, nextItem first s = .ok (.go rest le)) (hitem : Takes (item rest) v more)
    (hrest : Takes (readItems item false (index + 1) more) vs more') :
    Takes (readItems item first index s) (v :: vs) more' := by
  obtain ⟨le, hgo⟩ := hgo
  obtain ⟨le', hitem⟩ : Takes (inside (.item index) (item rest)) v more := hitem.inside
  obtain ⟨le'', hrest⟩ := hrest
  rw [readItems, hgo]
  dsimp only
  rw [hitem]
  dsimp only
  rw [hrest]
  exact takes_ok rfl rfl

/-- Items are taken up to the bracket when each of them is. -/
theorem takes_readItems (hr : Reads item P) (h : Items P text vs) (index : Nat)
    (hs : Begins first s (text ++ 93 :: rest)) (hfirst : first = false → vs ≠ []) :
    Takes (readItems item first index s) vs (93 :: rest) := by
  induction h generalizing first index s with
  | none hw =>
      cases first with
      | true =>
          obtain rfl : s = _ := hs
          exact takes_readItems_stop hw index
      | false => exact absurd rfl (hfirst rfl)
  | @one w text w' v hw hv hw' =>
      obtain ⟨b, more, rfl, hb⟩ := hr.opens hv
      simp only [List.append_assoc, List.cons_append] at hs
      have hends : EndsNumber (w' ++ 93 :: rest) := endsNumber_blank hw' (.inr (.inl rfl))
      have hitem := hr.takes blank_nil hv hends
      exact takes_readItems_go (nextItem_go hb hw hs) hitem (takes_readItems_stop hw' _)
  | @more w text w' rest' v vs hw hv hw' _ hne ih =>
      obtain ⟨b, more, rfl, hb⟩ := hr.opens hv
      simp only [List.append_assoc, List.cons_append] at hs
      have hends : EndsNumber (w' ++ 44 :: (rest' ++ 93 :: rest)) := endsNumber_blank hw' (.inl rfl)
      have hitem := hr.takes blank_nil hv hends
      exact takes_readItems_go (nextItem_go hb hw hs) hitem (ih _ ⟨w', hw', rfl⟩ fun _ => hne)

end Loops

section Members

variable {σ : Type} {P : List UInt8 → α → Prop} {R : σ → String × α → σ → Prop}
  {step : σ → String → Reader σ} {first : Bool} {text w key : List UInt8} {acc acc' mid : σ}
  {name : String}

/-- A step for each member, one after another. -/
def Runs (R : σ → String × α → σ → Prop) : σ → List (String × α) → σ → Prop
  | acc, [], acc' => acc' = acc
  | acc, m :: ms, acc' => ∃ mid, R acc m mid ∧ Runs R mid ms acc'

/-- What a step does with a member, starting behind its key. -/
structure Steps (step : σ → String → Reader σ) (P : List UInt8 → α → Prop)
    (R : σ → String × α → σ → Prop) : Prop where
  takes : ∀ {acc acc' name v w w' text rest}, R acc (name, v) acc' → Blank w → Blank w' →
    P text v → EndsNumber rest →
    Takes (step acc name (w ++ 58 :: (w' ++ (text ++ rest)))) acc' rest

theorem nextKey_go (hw : Blank w) (h : Begins first s (w ++ 34 :: rest)) :
    ∃ le, nextKey first s = .ok (.go rest le) := by
  obtain ⟨lt, hsees⟩ : Sees (w ++ 34 :: rest) 34 rest := sees_blank hw (by decide)
  have hbrace : ((34 : UInt8) == 125) = false := by decide
  have hcomma : ((44 : UInt8) == 125) = false := by decide
  cases first with
  | true =>
      obtain rfl : s = _ := h
      refine ⟨lt, ?_⟩
      unfold nextKey
      rw [hsees]
      simp only [hbrace, Bool.false_eq_true, if_false, if_true, beq_self_eq_true]
  | false =>
      obtain ⟨w', hw', rfl⟩ := h
      obtain ⟨lt', hbegins⟩ : Sees (w' ++ 44 :: (w ++ 34 :: rest)) 44 (w ++ 34 :: rest) :=
        sees_blank hw' (by decide)
      refine ⟨by omega, ?_⟩
      unfold nextKey
      rw [hbegins]
      simp only [hcomma, Bool.false_eq_true, if_false, beq_self_eq_true, if_true, hsees]

theorem nextKey_stop (hw : Blank w) :
    ∃ le, nextKey first (w ++ 125 :: rest) = .ok (.stop (125 :: rest) le) := by
  obtain ⟨lt, hsees⟩ : Sees (w ++ 125 :: rest) 125 rest := sees_blank hw (by decide)
  refine ⟨lt, ?_⟩
  unfold nextKey
  rw [hsees]
  simp only [beq_self_eq_true, if_true]

theorem takes_foldMembers_stop (hw : Blank w) :
    Takes (foldMembers step acc first (w ++ 125 :: rest)) acc (125 :: rest) := by
  obtain ⟨le, hstop⟩ : ∃ le, nextKey first (w ++ 125 :: rest) = .ok (.stop (125 :: rest) le) :=
    nextKey_stop hw
  rw [foldMembers, hstop]
  exact takes_ok rfl rfl

/-- One member and the members behind it. -/
theorem takes_foldMembers_go {more' : List UInt8} (hkey : SpellsText key name.toList)
    (hgo : ∃ le, nextKey first s = .ok (.go (key ++ 34 :: rest) le))
    (hstep : Takes (step acc name rest) mid more)
    (hrest : Takes (foldMembers step mid false more) acc' more') :
    Takes (foldMembers step acc first s) acc' more' := by
  obtain ⟨_, hgo⟩ := hgo
  obtain ⟨_, hread⟩ : Takes (readString (key ++ 34 :: rest)) name rest := takes_readString hkey
  obtain ⟨_, hstep⟩ := hstep
  obtain ⟨_, hrest⟩ := hrest
  rw [foldMembers, hgo]
  dsimp only
  rw [hread]
  dsimp only
  rw [hstep]
  dsimp only
  rw [hrest]
  exact takes_ok rfl rfl

/-- Members are passed up to the bracket when each of them is. -/
theorem takes_foldMembers {ms : List (String × α)} (hstep : Steps step P R)
    (h : Items (MemberText P) text ms) (hruns : Runs R acc ms acc')
    (hs : Begins first s (text ++ 125 :: rest)) (hfirst : first = false → ms ≠ []) :
    Takes (foldMembers step acc first s) acc' (125 :: rest) := by
  induction h generalizing first s acc with
  | none hw =>
      cases first with
      | true =>
          obtain rfl : s = _ := hs
          obtain rfl : acc' = acc := hruns
          exact takes_foldMembers_stop hw
      | false => exact absurd rfl (hfirst rfl)
  | @one w _ w' _ hw hm hw' =>
      obtain ⟨hkey, hu, hu', hv⟩ := hm
      obtain ⟨mid, hR, rfl⟩ := hruns
      simp only [quotedText, List.append_assoc, List.cons_append, List.nil_append] at hs
      have hends : EndsNumber (w' ++ 125 :: rest) := endsNumber_blank hw' (.inr (.inr rfl))
      exact takes_foldMembers_go hkey (nextKey_go hw hs) (hstep.takes hR hu hu' hv hends)
        (takes_foldMembers_stop hw')
  | @more w _ w' rest' _ ms hw hm hw' _ hne ih =>
      obtain ⟨hkey, hu, hu', hv⟩ := hm
      obtain ⟨mid, hR, hruns⟩ := hruns
      simp only [quotedText, List.append_assoc, List.cons_append, List.nil_append] at hs
      have hends : EndsNumber (w' ++ 44 :: (rest' ++ 125 :: rest)) :=
        endsNumber_blank hw' (.inl rfl)
      exact takes_foldMembers_go hkey (nextKey_go hw hs) (hstep.takes hR hu hu' hv hends)
        (ih hruns ⟨w', hw', rfl⟩ fun _ => hne)

theorem takes_readColon (hw : Blank w) : Takes (readColon (w ++ 58 :: rest)) () rest := by
  obtain ⟨lt, hsees⟩ : Sees (w ++ 58 :: rest) 58 rest := sees_blank hw (by decide)
  unfold readColon
  rw [hsees]
  exact takes_ok rfl rfl

/-- A colon and a value. -/
theorem takes_readMemberValue {value : Reader α} {v : α} {w' : List UInt8} (hr : Reads value P)
    (hw : Blank w) (hw' : Blank w') (h : P text v) (hrest : EndsNumber rest) :
    Takes (readMemberValue name value (w ++ 58 :: (w' ++ (text ++ rest)))) v rest :=
  ((takes_readColon hw).bind fun _ => takes_next (hr.takes hw' h hrest)).inside

end Members

section Values

variable {arrange : List Member → List Member} {depth : Nat} {b : UInt8} {v : Json}
  {text w : List UInt8}

theorem closeArray_bracket : ∃ le, closeArray (93 :: rest) = ⟨.ok (), rest, le⟩ :=
  ⟨_, rfl⟩

theorem closeObject_brace : ∃ le, closeObject (125 :: rest) = ⟨.ok (), rest, le⟩ :=
  ⟨_, rfl⟩

theorem ne_of_isDigit (h : IsDigit b) {c : UInt8} (hc : ¬ IsDigit c) : b ≠ c :=
  fun heq => hc (heq ▸ h)

theorem Opens.of_isDigit (h : IsDigit b) : Opens b := by
  have hne {c : UInt8} (hc : ¬ (48 ≤ c.toNat ∧ c.toNat ≤ 57)) : b ≠ c := ne_of_isDigit h hc
  refine ⟨?_, hne (by decide), hne (by decide), hne (by decide)⟩
  simp only [isSpace, Bool.or_eq_false_iff, beq_eq_false_iff_ne]
  exact ⟨⟨⟨hne (by decide), hne (by decide)⟩, hne (by decide)⟩, hne (by decide)⟩

theorem digits_opens (n : Nat) : ∃ b more, digits n = b :: more ∧ Opens b := by
  have hne : digits n ≠ [] := by
    simp [digits, Nat.toDigits_ne_nil]
  obtain ⟨b, more, hds⟩ := List.exists_cons_of_ne_nil hne
  exact ⟨b, more, hds, .of_isDigit (isDigit_digits n b (by simp [hds]))⟩

/-- The first octet of a value tells what it is. -/
theorem Scalar.opens (h : Scalar text v) : ∃ b more, text = b :: more ∧ Opens b := by
  cases h with
  | null | yes | no | string => exact ⟨_, _, rfl, by decide, by decide, by decide, by decide⟩
  | @integer n =>
      cases n with
      | ofNat n => exact digits_opens n
      | negSucc n => exact ⟨_, _, rfl, by decide, by decide, by decide, by decide⟩

theorem takes_readName (name : List UInt8) : Takes (readName name (name ++ rest)) () rest := by
  induction name with
  | nil => exact ⟨Nat.le_refl _, by rw [readName]; rfl⟩
  | cons e es ih =>
      rw [List.cons_append, readName, if_pos rfl]
      exact ih.bind fun _ => takes_ok rfl rfl

/-- Scalars are read at any depth. -/
theorem takes_readValue_scalar (hw : Blank w) (h : Scalar text v) (hrest : EndsNumber rest) :
    Takes (readValue arrange depth (w ++ (text ++ rest))) v rest := by
  obtain ⟨b, more, rfl, hb⟩ := h.opens
  obtain ⟨lt, hsees⟩ : Sees (w ++ b :: (more ++ rest)) b (more ++ rest) :=
    sees_blank hw hb.notSpace
  rw [List.cons_append]
  unfold readValue
  rw [hsees]
  dsimp only
  generalize htext : b :: more = text at h
  cases h with
  | null =>
      obtain ⟨rfl, rfl⟩ := List.cons.inj htext
      rw [if_pos (by decide)]
      exact ((takes_readName _).of_value fun _ => ⟨rfl, rfl⟩).later lt
  | yes =>
      obtain ⟨rfl, rfl⟩ := List.cons.inj htext
      rw [if_neg (by decide), if_pos (by decide)]
      exact ((takes_readName _).of_value fun _ => ⟨rfl, rfl⟩).later lt
  | no =>
      obtain ⟨rfl, rfl⟩ := List.cons.inj htext
      rw [if_neg (by decide), if_neg (by decide), if_pos (by decide)]
      exact ((takes_readName _).of_value fun _ => ⟨rfl, rfl⟩).later lt
  | @integer n hlow hhigh =>
      cases n with
      | ofNat n =>
          have hfit : n ≤ Numeral.maxWord64 := Int.ofNat_le.mp hhigh
          obtain ⟨c, ds, hds, hc, hread⟩ := takes_readBehindDigit hfit hrest
          obtain ⟨rfl, rfl⟩ := List.cons.inj (htext.trans hds)
          have hne {c : UInt8} (h : ¬ (48 ≤ c.toNat ∧ c.toNat ≤ 57)) : ¬ (b == c) = true := by
            simpa using ne_of_isDigit hc h
          rw [if_neg (hne (by decide)), if_neg (hne (by decide)), if_neg (hne (by decide)),
            if_neg (hne (by decide)), digit?_of_isDigit hc]
          exact hread.later lt
      | negSucc n =>
          obtain ⟨rfl, rfl⟩ := List.cons.inj htext
          have hfit : n + 1 ≤ 0x8000000000000000 := by
            simp only [Numeral.minSigned64] at hlow
            omega
          rw [if_neg (by decide), if_neg (by decide), if_neg (by decide), if_pos (by decide)]
          exact (takes_readBehindMinus hfit hrest).later lt
  | string h =>
      obtain ⟨rfl, rfl⟩ := List.cons.inj htext
      have hquote : digit? 34 = none := by decide
      rw [if_neg (by decide), if_neg (by decide), if_neg (by decide), if_neg (by decide), hquote]
      dsimp only
      rw [if_pos (by decide)]
      rename_i text s
      have hread : Takes (readString (text ++ [34] ++ rest)) s rest := by
        rw [List.append_assoc]
        exact takes_readString h
      exact (hread.of_value fun _ => ⟨rfl, rfl⟩).later lt

theorem takes_array {d : Nat} (hr : Reads (readValue arrange d) (Spells arrange d)) {vs : List Json}
    (hw : Blank w) (h : Items (Spells arrange d) text vs) :
    Takes (readValue arrange (d + 1) (w ++ (91 :: (text ++ [93]) ++ rest))) (.array vs) rest := by
  have hdigit : digit? 91 = none := by decide
  have hitems : Takes (readItems (readValue arrange d) true 0 (text ++ 93 :: rest)) vs
      (93 :: rest) := takes_readItems hr h 0 rfl nofun
  obtain ⟨lt, hsees⟩ : Sees (w ++ 91 :: (text ++ 93 :: rest)) 91 (text ++ 93 :: rest) :=
    sees_blank hw (by decide)
  rw [List.cons_append, List.append_assoc, List.singleton_append]
  unfold readValue
  rw [hsees]
  dsimp only
  rw [if_neg (by decide), if_neg (by decide), if_neg (by decide), if_neg (by decide), hdigit]
  dsimp only
  rw [if_neg (by decide), if_pos (by decide)]
  refine Takes.later ?_ lt
  exact hitems.bind fun le => takes_closing closeArray_bracket

/-- The members of an object are put together from the last one on. -/
theorem runs_reverse (ms acc : List Member) :
    Runs (fun acc m acc' => acc' = m :: acc) acc ms (ms.reverse ++ acc) := by
  induction ms generalizing acc with
  | nil => rfl
  | cons m ms ih =>
      refine ⟨m :: acc, rfl, ?_⟩
      rw [List.reverse_cons, List.append_assoc]
      exact ih (m :: acc)

theorem takes_object {d : Nat} (hr : Reads (readValue arrange d) (Spells arrange d))
    {ms : List Member} (hw : Blank w) (h : Items (MemberText (Spells arrange d)) text ms) :
    Takes (readValue arrange (d + 1) (w ++ (123 :: (text ++ [125]) ++ rest)))
      (.object (arrange ms)) rest := by
  have hdigit : digit? 123 = none := by decide
  let step (acc : List Member) (name : String) : Reader (List Member) := fun t => do
    let v ← readMemberValue name (readValue arrange d) t
    pure (v.map fun x => (name, x) :: acc)
  have hsteps : Steps step (Spells arrange d) fun acc m acc' => acc' = m :: acc := by
    constructor
    rintro acc acc' name v w w' text rest rfl hw hw' hv hrest
    exact (takes_readMemberValue hr hw hw' hv hrest).bind fun _ => takes_ok rfl rfl
  have hmembers : Takes (foldMembers step [] true (text ++ 125 :: rest)) (ms.reverse ++ [])
      (125 :: rest) := takes_foldMembers hsteps h (runs_reverse ms []) rfl nofun
  obtain ⟨lt, hsees⟩ : Sees (w ++ 123 :: (text ++ 125 :: rest)) 123 (text ++ 125 :: rest) :=
    sees_blank hw (by decide)
  rw [List.cons_append, List.append_assoc, List.singleton_append]
  unfold readValue
  rw [hsees]
  dsimp only
  rw [if_neg (by decide), if_neg (by decide), if_neg (by decide), if_neg (by decide), hdigit]
  dsimp only
  rw [if_neg (by decide), if_neg (by decide), if_pos (by decide)]
  refine Takes.later ?_ lt
  refine hmembers.bind fun le => ?_
  have hvalue : object (arrange (ms.reverse ++ ([] : List Member)).reverse) =
      object (arrange ms) := by simp
  rw [← hvalue]
  exact takes_closing closeObject_brace

/-- What spells a value is read as the value. -/
theorem reads_readValue (arrange : List Member → List Member) (depth : Nat) :
    Reads (readValue arrange depth) (Spells arrange depth) := by
  induction depth with
  | zero => exact ⟨Scalar.opens, takes_readValue_scalar⟩
  | succ d ih =>
      refine ⟨fun h => ?_, fun hw h hrest => ?_⟩
      · cases h with
        | scalar h => exact h.opens
        | array | object => exact ⟨_, _, rfl, by decide, by decide, by decide, by decide⟩
      · cases h with
        | scalar h => exact takes_readValue_scalar hw h hrest
        | array h => exact takes_array ih hw h
        | object h => exact takes_object ih hw h

theorem endsNumber_of_blank (hw : Blank w) : EndsNumber w := by
  intro b more heq
  subst heq
  exact not_number_of_isSpace (List.forall_mem_cons.mp hw).1

/-- A whole document is what a reader takes in front of white space. -/
theorem wholeDocument_of_takes {reader : Reader α} {a : α} (h : Takes (reader s) a rest)
    (hrest : Blank rest) : wholeDocument reader s = .ok a := by
  obtain ⟨le, h⟩ := h
  unfold wholeDocument
  rw [h, Outcome.ok_bind]
  dsimp only
  rw [ahead_blank hrest]
  rfl

/-- A document that spells a value is read as the value. -/
theorem ofDocument_of_document (h : Document ofMembers text v) : ofDocument text = .ok v := by
  obtain ⟨w, t, w', hw, ht, hw', rfl⟩ := h
  exact wholeDocument_of_takes
    ((reads_readValue ofMembers maxDepth).takes hw ht (endsNumber_of_blank hw')) hw'

end Values

end Json
end EntityTrust
