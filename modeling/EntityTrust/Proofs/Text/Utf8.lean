import EntityTrust.Text.Utf8
import Mathlib.Tactic.IntervalCases

/-!
# Encoded texts

What the readings of octets come to on the octets of a text.

**Step.**  A scalar value has one to four octets, and each length has its own range of first octets.
In every range the bounds of the second octet leave out the sequences that are too long and the
surrogates, and the digits to the base 64 make up the scalar value again.

**Results.**
* `encode_ofList`: a text is encoded character by character.
* `split_encodeChar`: the first character is split off from its octets, whatever follows.
* `decodeLossy_encode`: nothing is lost on the octets of a text.
-/

namespace EntityTrust
namespace Utf8

/-- A list of octets is read off from its front. -/
theorem loop_toList (bs : ByteArray) (i : Nat) (r : List UInt8) :
    ByteArray.toList.loop bs i r = r.reverse ++ bs.data.toList.drop i := by
  fun_induction ByteArray.toList.loop bs i r with
  | case1 i r hi ih =>
      have hlength : i < bs.data.toList.length := by simpa using hi
      rw [ih, List.drop_eq_getElem_cons hlength]
      simp [ByteArray.get!, hi]
  | case2 i r hi =>
      rw [List.drop_eq_nil_of_le (by simpa using Nat.le_of_not_lt hi), List.append_nil]

theorem encode_ofList (cs : List Char) :
    encode (String.ofList cs) = cs.flatMap String.utf8EncodeChar := by
  show (cs.flatMap String.utf8EncodeChar).toByteArray.toList = _
  rw [ByteArray.toList, loop_toList, List.data_toByteArray, List.reverse_nil, List.nil_append,
    List.drop_zero]

theorem encode_singleton (c : Char) : encode (String.singleton c) = String.utf8EncodeChar c := by
  rw [show String.singleton c = String.ofList [c] by simp, encode_ofList, List.flatMap_singleton]

section Leads

variable {n : Nat}

theorem lead?_of_two (h : 2 ≤ n) (h' : n < 32) :
    lead? (UInt8.ofNat (n + 192)) = some ⟨1, 0x80, 0xBF, UInt8.ofNat n⟩ := by
  interval_cases n <;> rfl

theorem lead?_of_three (h : n < 16) :
    lead? (UInt8.ofNat (n + 224)) =
      some ⟨2, if n = 0 then 0xA0 else 0x80, if n = 13 then 0x9F else 0xBF, UInt8.ofNat n⟩ := by
  interval_cases n <;> rfl

theorem lead?_of_four (h : n < 5) :
    lead? (UInt8.ofNat (n + 240)) =
      some ⟨3, if n = 0 then 0x90 else 0x80, if n = 4 then 0x8F else 0xBF, UInt8.ofNat n⟩ := by
  interval_cases n <;> rfl

/-- No first octet is in the ASCII range. -/
theorem not_lt_of_lead? {b : UInt8} {l : Lead} (h : lead? b = some l) : ¬ b < 0x80 := by
  intro hlt
  have hb : b.toNat < 128 := UInt8.lt_iff_toNat_lt.mp hlt
  have hne (k : UInt8) (hk : 128 ≤ k.toNat) : (b == k) = false := by
    rw [beq_eq_false_iff_ne]
    rintro rfl
    omega
  have hle (k : UInt8) (hk : 128 ≤ k.toNat) : ¬ k ≤ b := by
    rw [UInt8.le_iff_toNat_le]
    omega
  simp [lead?, hne, hle] at h

end Leads

theorem toNat_ofNat_tail {d : Nat} (h : d < 64) : (UInt8.ofNat (d + 128)).toNat = d + 128 :=
  UInt8.toNat_ofNat_of_lt' (show d + 128 < 256 by omega)

theorem isTail_ofNat {d : Nat} (h : d < 64) : isTail (UInt8.ofNat (d + 128)) = true := by
  simp only [isTail, Bool.and_eq_true, decide_eq_true_eq, UInt8.le_iff_toNat_le,
    toNat_ofNat_tail h]
  exact ⟨by simp, by simp; omega⟩

/-- A further octet is a digit to the base 64. -/
theorem takeTails_ofNat {d : Nat} (h : d < 64) (n acc : Nat) (rest : List UInt8) :
    takeTails (n + 1) acc (UInt8.ofNat (d + 128) :: rest) = takeTails n (acc * 64 + d) rest := by
  rw [takeTails, if_pos (isTail_ofNat h), toNat_ofNat_tail h, show (0x80 : Nat) = 128 from rfl,
    Nat.add_sub_cancel]

/-- The second octet is a digit within the bounds that the first one sets. -/
theorem split_lead {b low high : UInt8} {tails n d : Nat} (rest : List UInt8)
    (hb : lead? b = some ⟨tails + 1, low, high, UInt8.ofNat n⟩) (hn : n < 32) (hd : d < 64)
    (hlow : low.toNat ≤ d + 128) (hhigh : d + 128 ≤ high.toNat) :
    split b (UInt8.ofNat (d + 128) :: rest) = takeTails tails (n * 64 + d) rest := by
  have hbounds : low ≤ UInt8.ofNat (d + 128) ∧ UInt8.ofNat (d + 128) ≤ high := by
    rw [UInt8.le_iff_toNat_le, UInt8.le_iff_toNat_le, toNat_ofNat_tail hd]
    exact ⟨hlow, hhigh⟩
  have hpayload : (UInt8.ofNat n).toNat = n :=
    UInt8.toNat_ofNat_of_lt' (show n < 256 by omega)
  simp only [split, not_lt_of_lead? hb, if_false, hb, hbounds, decide_true, Bool.and_self, if_true,
    Nat.add_sub_cancel, toNat_ofNat_tail hd, hpayload]

/-- The first character of a text is split off from its octets. -/
theorem split_encodeChar (c : Char) (rest : List UInt8) :
    ∃ b bs, String.utf8EncodeChar c = b :: bs ∧ split b (bs ++ rest) = (some c, rest) := by
  have hofNat : Char.ofNat c.val.toNat = c := Char.ofNat_toNat c
  have hvalid : c.val.toNat < 0xD800 ∨ 0xDFFF < c.val.toNat ∧ c.val.toNat < 0x110000 := c.valid
  unfold String.utf8EncodeChar
  generalize c.val.toNat = v at *
  dsimp only
  split
  · have hv : (UInt8.ofNat v).toNat = v := UInt8.toNat_ofNat_of_lt' (show v < 256 by omega)
    have hlt : UInt8.ofNat v < 0x80 := by
      rw [UInt8.lt_iff_toNat_lt, hv]
      exact Nat.lt_succ_of_le (by assumption)
    refine ⟨_, _, rfl, ?_⟩
    rw [split.eq_def, if_pos hlt, hv, hofNat]
    rfl
  · split
    · have hsplit := split_lead (d := v % 64) rest
        (lead?_of_two (n := v / 64 % 32) (by omega) (by omega)) (by omega) (by omega) (by simp)
        (by simp; omega)
      refine ⟨_, _, rfl, hsplit.trans ?_⟩
      rw [takeTails, show v / 64 % 32 * 64 + v % 64 = v by omega, hofNat]
    · split
      · have hsplit := split_lead (d := v / 64 % 64) (UInt8.ofNat (v % 64 + 128) :: rest)
          (lead?_of_three (n := v / 4096 % 16) (by omega)) (by omega) (by omega)
          (by split <;> simp; omega) (by split <;> simp <;> omega)
        refine ⟨_, _, rfl, hsplit.trans ?_⟩
        rw [takeTails_ofNat (by omega), takeTails,
          show (v / 4096 % 16 * 64 + v / 64 % 64) * 64 + v % 64 = v by omega, hofNat]
      · have hsplit := split_lead (d := v / 4096 % 64)
          (UInt8.ofNat (v / 64 % 64 + 128) :: UInt8.ofNat (v % 64 + 128) :: rest)
          (lead?_of_four (n := v / 262144 % 8) (by omega)) (by omega) (by omega)
          (by split <;> simp; omega) (by split <;> simp <;> omega)
        refine ⟨_, _, rfl, hsplit.trans ?_⟩
        rw [takeTails_ofNat (by omega), takeTails_ofNat (by omega), takeTails,
          show ((v / 262144 % 8 * 64 + v / 4096 % 64) * 64 + v / 64 % 64) * 64 + v % 64 = v by
            omega, hofNat]

theorem scalars_encodeChar (c : Char) (rest : List UInt8) :
    scalars (String.utf8EncodeChar c ++ rest) = some c :: scalars rest := by
  obtain ⟨b, bs, hencode, hsplit⟩ := split_encodeChar c rest
  rw [hencode, List.cons_append, scalars, hsplit]

/-- The scalar values of a text are its characters. -/
theorem scalars_flatMap (cs : List Char) :
    scalars (cs.flatMap String.utf8EncodeChar) = cs.map some := by
  induction cs with
  | nil => simp [scalars]
  | cons c cs ih => rw [List.flatMap_cons, scalars_encodeChar, ih, List.map_cons]

/-- Nothing in an encoded text is ill-formed. -/
theorem decodeLossy_encode (s : String) : decodeLossy (encode s) = s := by
  have hscalars : scalars (encode s) = s.toList.map some := by
    rw [← scalars_flatMap, ← encode_ofList, String.ofList_toList]
  rw [decodeLossy, hscalars, List.map_map, Function.comp_def]
  simp

end Utf8
end EntityTrust
