import EntityTrust.Proofs.Text.Utf8
import EntityTrust.Proofs.Token.Compact
import EntityTrust.Url.Form
import Mathlib.Tactic.IntervalCases

/-!
# Encoded queries

Reading the pairs of a query that was made of them.

**Texts.**  Every character of an encoded name or value stands for the octets of one character of
the text, and none of them is an ampersand or an equals sign.  So the first equals sign of a pair
and the ampersands between pairs are those that were put there.

**Results.**
* `Percent.decode_encodeOctets`: an encoded character is decoded to its octets.
* `decodeText_encodeText`: a text is decoded to itself.
* `decode_append`: one more pair in a query is one more pair read.
* `decode_encode`: all pairs are read again, in their order.
-/

namespace EntityTrust

namespace Text

/-- A separator cuts, whatever stands before it. -/
theorem cut_append_sep (sep : Char) (l r : List Char) :
    cut sep (l ++ sep :: r) = cut sep l ++ cut sep r := by
  induction l with
  | nil => simp [cut]
  | cons c l ih =>
      by_cases hc : c = sep
      · simp [cut, hc, ih]
      · rw [List.cons_append, cut, if_neg hc, ih, cut, if_neg hc]
        cases hl : cut sep l with
        | nil => exact absurd hl (cut_ne_nil l)
        | cons p ps => rfl

end Text

namespace Percent

open String (utf8EncodeChar)

theorem encode_append (s : EncodeSet) (xs ys : List Char) :
    encode s (xs ++ ys) = encode s xs ++ encode s ys :=
  List.flatMap_append

theorem decode_cons {b : UInt8} (h : b ≠ 37) (rest : List UInt8) :
    decode (b :: rest) = b :: decode rest := by
  rw [decode.eq_def]
  split
  · rename_i heq
    exact absurd (List.cons.inj heq).1 h
  · rename_i heq
    obtain ⟨rfl, rfl⟩ := List.cons.inj heq
    rfl
  · rename_i heq
    cases heq

/-- A hexadecimal digit is one octet, and its value is read from it. -/
theorem hexValue?_hexDigit {n : Nat} (h : n < 16) :
    ∃ b, utf8EncodeChar (hexDigit n) = [b] ∧ hexValue? b = some (UInt8.ofNat n) := by
  interval_cases n <;> exact ⟨_, rfl, rfl⟩

theorem decode_encodeOctet (b : UInt8) (rest : List UInt8) :
    decode ((encodeOctet b).flatMap utf8EncodeChar ++ rest) = b :: decode rest := by
  have hb : b.toNat < 256 := b.toNat_lt
  obtain ⟨high, hhigh, hhigh'⟩ := hexValue?_hexDigit (n := b.toNat / 16) (by omega)
  obtain ⟨low, hlow, hlow'⟩ := hexValue?_hexDigit (n := b.toNat % 16) (by omega)
  have hpercent : utf8EncodeChar '%' = [37] := rfl
  have hvalue : UInt8.ofNat (b.toNat / 16) * 16 + UInt8.ofNat (b.toNat % 16) = b := by
    rw [← UInt8.toNat_inj, UInt8.toNat_add, UInt8.toNat_mul, UInt8.toNat_ofNat', UInt8.toNat_ofNat']
    simp
    omega
  simp only [encodeOctet, List.flatMap_cons, List.flatMap_nil, hpercent, hhigh, hlow,
    List.append_nil, List.cons_append, List.nil_append]
  rw [decode, hhigh', hlow']
  exact congrArg (· :: decode rest) hvalue

theorem decode_flatMap_encodeOctet (bs rest : List UInt8) :
    decode ((bs.flatMap encodeOctet).flatMap utf8EncodeChar ++ rest) = bs ++ decode rest := by
  induction bs with
  | nil => rfl
  | cons b bs ih =>
      rw [List.flatMap_cons, List.flatMap_append, List.append_assoc, decode_encodeOctet, ih,
        List.cons_append]

/-- An encoded character is decoded to its octets. -/
theorem decode_encodeOctets (c : Char) (rest : List UInt8) :
    decode ((encodeOctets c).flatMap utf8EncodeChar ++ rest) = utf8EncodeChar c ++ decode rest := by
  rw [encodeOctets, Utf8.encode_singleton, decode_flatMap_encodeOctet]

end Percent

namespace Form

open String (utf8EncodeChar)

/-- A plain character is one octet, which starts no encoded octet, and it separates nothing. -/
structure Plain (c : Char) : Prop where
  octet : ∃ b, utf8EncodeChar c = [b] ∧ b ≠ 37
  notPlus : c ≠ '+'
  notAmpersand : c ≠ '&'
  notEquals : c ≠ '='

theorem plain_of_isPlain {c : Char} (h : isPlain c = true) : Plain c := by
  have hrange : c.toNat ≤ 127 ∧ c.toNat ≠ 37 ∧ c.toNat ≠ 43 ∧ c.toNat ≠ 38 ∧ c.toNat ≠ 61 := by
    delta isPlain Char.isAlphanum Char.isAlpha Char.isUpper Char.isLower Char.isDigit at h
    simp only [Bool.or_eq_true, Bool.and_eq_true, decide_eq_true_eq, beq_iff_eq, ge_iff_le,
      UInt32.le_iff_toNat_le] at h
    change ((((((65 ≤ c.toNat ∧ c.toNat ≤ 90) ∨ (97 ≤ c.toNat ∧ c.toNat ≤ 122)) ∨
      (48 ≤ c.toNat ∧ c.toNat ≤ 57)) ∨ c = '*') ∨ c = '-') ∨ c = '.') ∨ c = '_' at h
    rcases h with ((((h | h) | rfl) | rfl) | rfl) | rfl
    · omega
    · omega
    all_goals decide
  obtain ⟨hascii, hpercent, hplus, hampersand, hequals⟩ := hrange
  have hencode : utf8EncodeChar c = [UInt8.ofNat c.toNat] := if_pos hascii
  have hoctet : (UInt8.ofNat c.toNat).toNat = c.toNat :=
    UInt8.toNat_ofNat_of_lt' (show c.toNat < 256 by omega)
  refine ⟨⟨_, hencode, fun hb => hpercent ?_⟩, ?_, ?_, ?_⟩
  · rw [← hoctet, hb]
    rfl
  all_goals
    rintro rfl
    contradiction

/-- A character of a text as it is encoded. -/
def encodeChar (c : Char) : List Char :=
  if isPlain c then [c] else if c = ' ' then ['+'] else Percent.encodeOctets c

theorem encodeText_eq (s : String) : encodeText s = s.toList.flatMap encodeChar := rfl

theorem mem_encodeOctet {b : UInt8} {d : Char} (h : d ∈ Percent.encodeOctet b) :
    d = '%' ∨ ∃ n < 16, d = Percent.hexDigit n := by
  have hb : b.toNat < 256 := b.toNat_lt
  simp only [Percent.encodeOctet, List.mem_cons, List.not_mem_nil, or_false] at h
  rcases h with h | h | h
  · exact .inl h
  · exact .inr ⟨_, by omega, h⟩
  · exact .inr ⟨_, by omega, h⟩

/-- No character of an encoded text separates anything, and plus signs stand for spaces only. -/
theorem mem_encodeOctets {c d : Char} (h : d ∈ Percent.encodeOctets c) :
    d ≠ '+' ∧ d ≠ '&' ∧ d ≠ '=' := by
  obtain ⟨b, -, hd⟩ := List.mem_flatMap.mp h
  obtain rfl | ⟨n, hn, rfl⟩ := mem_encodeOctet hd
  · decide
  · interval_cases n <;> decide

theorem mem_encodeText {s : String} {c : Char} (h : c ∈ encodeText s) : c ≠ '&' ∧ c ≠ '=' := by
  obtain ⟨d, -, hc⟩ := List.mem_flatMap.mp (encodeText_eq s ▸ h)
  unfold encodeChar at hc
  split at hc
  · rename_i hplain
    obtain rfl := List.mem_singleton.mp hc
    exact ⟨(plain_of_isPlain hplain).notAmpersand, (plain_of_isPlain hplain).notEquals⟩
  · split at hc
    · obtain rfl := List.mem_singleton.mp hc
      decide
    · exact (mem_encodeOctets hc).2

/-- The octets of a character are read from its encoding. -/
theorem decode_encodeChar (c : Char) (rest : List UInt8) :
    Percent.decode (((encodeChar c).map fun d => if d = '+' then ' ' else d).flatMap
        utf8EncodeChar ++ rest) = utf8EncodeChar c ++ Percent.decode rest := by
  unfold encodeChar
  split
  · rename_i hplain
    obtain ⟨⟨b, hb, hne⟩, hplus, -, -⟩ := plain_of_isPlain hplain
    simp only [List.map_cons, List.map_nil, if_neg hplus, List.flatMap_cons, List.flatMap_nil,
      List.append_nil, hb, List.cons_append, List.nil_append]
    exact Percent.decode_cons hne rest
  · split
    · rename_i hspace
      subst hspace
      exact Percent.decode_cons (by decide) rest
    · have hmap : (Percent.encodeOctets c).map (fun d => if d = '+' then ' ' else d) =
          Percent.encodeOctets c := by
        refine List.map_congr_left (fun d hd => if_neg (mem_encodeOctets hd).1) |>.trans ?_
        exact List.map_id _
      rw [hmap, Percent.decode_encodeOctets]

/-- A text is decoded to itself. -/
theorem decodeText_encodeText (s : String) : decodeText (encodeText s) = s := by
  have hoctets (cs : List Char) :
      Percent.decode (((cs.flatMap encodeChar).map fun d => if d = '+' then ' ' else d).flatMap
        utf8EncodeChar) = cs.flatMap utf8EncodeChar := by
    induction cs with
    | nil => rfl
    | cons c cs ih =>
        rw [List.flatMap_cons, List.map_append, List.flatMap_append, decode_encodeChar, ih,
          List.flatMap_cons]
  rw [decodeText, encodeText_eq, Utf8.encode_ofList, hoctets, ← Utf8.encode_ofList,
    String.ofList_toList, Utf8.decodeLossy_encode]

theorem decodePair_encodePair (name value : String) :
    decodePair (encodePair name value) = (name, value) := by
  have hname : ∀ c ∈ encodeText name, (c != '=') = true := fun c hc => by
    simpa using (mem_encodeText hc).2
  have htake : (encodePair name value).takeWhile (· != '=') = encodeText name := by
    rw [encodePair, List.takeWhile_append_of_pos hname]
    simp
  have hdrop : (encodePair name value).dropWhile (· != '=') = '=' :: encodeText value := by
    rw [encodePair, List.dropWhile_append_of_pos hname]
    simp
  rw [decodePair, htake, hdrop, List.drop_one, List.tail_cons, decodeText_encodeText,
    decodeText_encodeText]

theorem cut_encodePair (name value : String) :
    Text.cut '&' (encodePair name value) = [encodePair name value] := by
  refine Text.cut_of_free _ fun c hc => ?_
  rw [encodePair, List.mem_append, List.mem_cons] at hc
  rcases hc with hc | rfl | hc
  · exact (mem_encodeText hc).1
  · decide
  · exact (mem_encodeText hc).1

theorem decode_encodePair (name value : String) :
    decode (encodePair name value) = [(name, value)] := by
  have hne : (encodePair name value).isEmpty = false := by
    rw [List.isEmpty_eq_false_iff, encodePair]
    simp
  simp [decode, cut_encodePair, hne, decodePair_encodePair]

/-- One more pair in a query is one more pair read. -/
theorem decode_append (query : List Char) (name value : String) :
    decode (append query name value) = decode query ++ [(name, value)] := by
  cases query with
  | nil => exact decode_encodePair name value
  | cons c cs =>
      have happend : append (c :: cs) name value = (c :: cs) ++ '&' :: encodePair name value := by
        simp [append]
      rw [happend, decode, Text.cut_append_sep, List.filter_append, List.map_append]
      exact congrArg (decode (c :: cs) ++ ·) (decode_encodePair name value)

/-- A query made of pairs. -/
def encode (pairs : List (String × String)) : List Char :=
  pairs.foldl (fun query p => append query p.1 p.2) []

/-- All pairs are read again. -/
theorem decode_encode (pairs : List (String × String)) : decode (encode pairs) = pairs := by
  have hfold (query : List Char) :
      decode (pairs.foldl (fun query p => append query p.1 p.2) query) = decode query ++ pairs := by
    induction pairs generalizing query with
    | nil => simp
    | cons p pairs ih => rw [List.foldl_cons, ih, decode_append, List.append_assoc]; rfl
  exact hfold []

end Form
end EntityTrust
