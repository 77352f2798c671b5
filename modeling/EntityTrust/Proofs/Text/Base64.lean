import EntityTrust.Base64
import EntityTrust.Proofs.Outcome
import EntityTrust.Proofs.Token.Compact
import EntityTrust.Text.Utf8
import EntityTrust.Proofs.Text.Utf8

/-!
# Segments that denote octets

**Symbols.**  A symbol stands for its six bits, and no symbol is the padding octet.  So the groups
of a written segment are read one after another, and only the last one can be short or padded.

**Results.**
* `decode_padded`: the segment of some octets, with or without padding, denotes them.
* `isSegment_text`: a segment as text can stand between dots.
-/

namespace EntityTrust
namespace Base64

variable {mode : Padding} {offset i k v : Nat} {bs : List UInt8} {vs : List Nat}

theorem value?_symbol (h : v < 64) : value? (symbol v) = some v := by
  have hall : ∀ v < 64, value? (symbol v) = some v := by decide
  exact hall v h

theorem symbol_ne_pad (h : v < 64) : symbol v ≠ pad := by
  have hall : ∀ v < 64, symbol v ≠ pad := by decide
  exact hall v h

theorem valueAt_symbol (h : v < 64) : valueAt (symbol v) offset = .ok v := by
  rw [valueAt, value?_symbol h]

/-- Symbols in front of padding are read as their values. -/
theorem lastSymbols_padded (h : ∀ v ∈ vs, v < 64) (hk : k = 0 ∨ 2 ≤ i + vs.length) :
    lastSymbols offset i (vs.map symbol ++ List.replicate k pad) =
      .ok (vs, if k = 0 then none else some (i + vs.length)) := by
  induction vs generalizing i with
  | nil =>
      cases k with
      | zero => rfl
      | succ k =>
          have hi : ¬ i < 2 := by
            rw [List.length_nil] at hk
            omega
          have hall : (List.replicate k pad).all (· == pad) = true := by simp
          rw [List.map_nil, List.nil_append, List.replicate_succ, lastSymbols, if_pos rfl,
            if_neg hi, if_pos hall]
          rfl
  | cons v vs ih =>
      obtain ⟨hv, hvs⟩ := List.forall_mem_cons.mp h
      have hk : k = 0 ∨ 2 ≤ i + 1 + vs.length := by
        rw [List.length_cons] at hk
        omega
      rw [List.map_cons, List.cons_append, lastSymbols, if_neg (symbol_ne_pad hv),
        valueAt_symbol hv, Outcome.ok_bind, ih hvs hk, Outcome.ok_bind, List.length_cons,
        Nat.add_right_comm, Nat.add_assoc]
      rfl

/-- The octets of the values of a last group, whose bits beyond whole octets are zero. -/
def lastOctets : List Nat → List UInt8
  | [a, b] => [UInt8.ofNat (a * 4 + b / 16)]
  | [a, b, c] => [UInt8.ofNat (a * 4 + b / 16), UInt8.ofNat (b * 16 + c / 4)]
  | [a, b, c, d] => triple (((a * 64 + b) * 64 + c) * 64 + d)
  | _ => []

/-- The values of a last group without bits beyond whole octets. -/
def IsWhole : List Nat → Prop
  | [_, b] => b % 16 = 0
  | [_, _, c] => c % 4 = 0
  | [_, _, _, _] => True
  | _ => False

theorem decodeLast_padded (h : ∀ v ∈ vs, v < 64) (hwhole : IsWhole vs)
    (hmode : mode = .optional ∨ k = 0) :
    decodeLast mode offset (vs.map symbol ++ List.replicate k pad) = .ok (lastOctets vs) := by
  have hlength : 2 ≤ vs.length := by
    unfold IsWhole at hwhole
    split at hwhole <;> simp_all
  have hempty : (vs.map symbol ++ List.replicate k pad).isEmpty = false := by
    cases vs with
    | nil => simp at hlength
    | cons v vs => rfl
  have hadmitted :
      ¬ (mode = .forbidden ∧ (if k = 0 then none else some (0 + vs.length)).isSome) := by
    rcases hmode with rfl | rfl
    · simp
    · simp
  unfold decodeLast
  rw [lastSymbols_padded h (.inr (by omega)), Outcome.ok_bind]
  dsimp only
  rw [hempty, if_neg Bool.false_ne_true, if_neg (by omega), if_neg hadmitted]
  match vs, hwhole with
  | [a, b], hb => exact if_pos hb
  | [a, b, c], hc => exact if_pos hc
  | [a, b, c, d], _ => rfl

theorem decodeGroups_short {group : List UInt8} (h : group.length ≤ 4) :
    decodeGroups mode offset group = decodeLast mode offset group := by
  unfold decodeGroups
  split
  · simp only [List.length_cons] at h
    omega
  · rfl

/-- A whole group in front of others is read by itself. -/
theorem decodeGroups_symbols {a b c d : Nat} {rest out : List UInt8} (ha : a < 64) (hb : b < 64)
    (hc : c < 64) (hd : d < 64) (hne : rest ≠ [])
    (hrest : decodeGroups mode (offset + 4) rest = .ok out) :
    decodeGroups mode offset (symbol a :: symbol b :: symbol c :: symbol d :: rest) =
      .ok (triple (((a * 64 + b) * 64 + c) * 64 + d) ++ out) := by
  obtain ⟨e, rest, rfl⟩ := List.exists_cons_of_ne_nil hne
  rw [decodeGroups, valueAt_symbol ha, valueAt_symbol hb, valueAt_symbol hc, valueAt_symbol hd,
    hrest]
  rfl

section Octets

variable {a b c : UInt8}

theorem ofNat_eq {n : Nat} {x : UInt8} (h : n % 256 = x.toNat) : UInt8.ofNat n = x := by
  rw [← UInt8.toNat_inj, UInt8.toNat_ofNat']
  exact h

theorem triple_octets :
    triple (((a.toNat / 4 * 64 + (a.toNat % 4 * 16 + b.toNat / 16)) * 64 +
      (b.toNat % 16 * 4 + c.toNat / 64)) * 64 + c.toNat % 64) = [a, b, c] := by
  have ha := a.toNat_lt
  have hb := b.toNat_lt
  have hc := c.toNat_lt
  have hvalue : ((a.toNat / 4 * 64 + (a.toNat % 4 * 16 + b.toNat / 16)) * 64 +
      (b.toNat % 16 * 4 + c.toNat / 64)) * 64 + c.toNat % 64 =
      (a.toNat * 256 + b.toNat) * 256 + c.toNat := by omega
  rw [hvalue, triple, ofNat_eq (x := a) (by omega), ofNat_eq (x := b) (by omega),
    ofNat_eq (x := c) (by omega)]

end Octets

/-- Padding that a segment of so many octets may have. -/
def paddingOf (bs : List UInt8) : Nat :=
  (3 - bs.length % 3) % 3

/-- The last group of a segment, padded or not. -/
theorem decodeGroups_last {group : List UInt8} (vs : List Nat) (hgroup : group = vs.map symbol)
    (h : ∀ v ∈ vs, v < 64) (hwhole : IsWhole vs) (hmode : mode = .optional ∨ k = 0)
    (hk : vs.length + k ≤ 4) (hoctets : lastOctets vs = bs) :
    decodeGroups mode offset (group ++ List.replicate k pad) = .ok bs := by
  rw [hgroup, decodeGroups_short (by simpa using hk), decodeLast_padded h hwhole hmode, hoctets]

theorem encode_eq_nil : encode bs = [] ↔ bs = [] := by
  fun_cases encode bs <;> simp

/-- The groups of a segment, padded or not, are those of the octets. -/
theorem decodeGroups_encode (hmode : mode = .optional ∨ k = 0) (hk : k ≤ paddingOf bs) :
    decodeGroups mode offset (encode bs ++ List.replicate k pad) = .ok bs := by
  fun_induction encode bs generalizing offset with
  | case1 =>
      obtain rfl : k = 0 := Nat.le_zero.mp hk
      rfl
  | case2 a =>
      have ha := a.toNat_lt
      have hk : k ≤ 2 := hk
      refine decodeGroups_last [a.toNat / 4, a.toNat % 4 * 16] rfl (by simp; omega)
        (by simp [IsWhole]) hmode (by simp; omega) ?_
      rw [lastOctets, ofNat_eq (x := a) (by omega)]
  | case3 a b =>
      have ha := a.toNat_lt
      have hb := b.toNat_lt
      have hk : k ≤ 1 := hk
      refine decodeGroups_last
        [a.toNat / 4, a.toNat % 4 * 16 + b.toNat / 16, b.toNat % 16 * 4] rfl
        (by simp; omega) (by simp [IsWhole]) hmode (by simp; omega) ?_
      rw [lastOctets, ofNat_eq (x := a) (by omega), ofNat_eq (x := b) (by omega)]
  | case4 a b c rest ih =>
      have ha := a.toNat_lt
      have hb := b.toNat_lt
      have hc := c.toNat_lt
      have hrest : k ≤ paddingOf rest := by
        simp only [paddingOf, List.length_cons] at hk ⊢
        omega
      by_cases hnil : rest = []
      · subst hnil
        obtain rfl : k = 0 := Nat.le_zero.mp hrest
        exact decodeGroups_last
          [a.toNat / 4, a.toNat % 4 * 16 + b.toNat / 16, b.toNat % 16 * 4 + c.toNat / 64,
            c.toNat % 64] rfl (by simp; omega) trivial hmode (by simp) triple_octets
      · have hne : encode rest ++ List.replicate k pad ≠ [] :=
          List.append_ne_nil_of_left_ne_nil (mt encode_eq_nil.mp hnil) _
        show decodeGroups mode offset (symbol _ :: symbol _ :: symbol _ :: symbol _ ::
          (encode rest ++ List.replicate k pad)) = .ok (a :: b :: c :: rest)
        rw [decodeGroups_symbols (by omega) (by omega) (by omega) (by omega) hne (ih hrest),
          triple_octets]
        rfl

theorem mem_encode {b : UInt8} (h : b ∈ encode bs) : ∃ v < 64, b = symbol v := by
  fun_induction encode bs with
  | case1 => cases h
  | case2 a =>
      have ha := a.toNat_lt
      simp only [List.mem_cons, List.not_mem_nil, or_false] at h
      rcases h with rfl | rfl
      · exact ⟨_, by omega, rfl⟩
      · exact ⟨_, by omega, rfl⟩
  | case3 a b =>
      have ha := a.toNat_lt
      have hb := b.toNat_lt
      simp only [List.mem_cons, List.not_mem_nil, or_false] at h
      rcases h with rfl | rfl | rfl
      · exact ⟨_, by omega, rfl⟩
      · exact ⟨_, by omega, rfl⟩
      · exact ⟨_, by omega, rfl⟩
  | case4 a b c rest ih =>
      have ha := a.toNat_lt
      have hb := b.toNat_lt
      have hc := c.toNat_lt
      simp only [List.mem_cons] at h
      rcases h with rfl | rfl | rfl | rfl | h
      · exact ⟨_, by omega, rfl⟩
      · exact ⟨_, by omega, rfl⟩
      · exact ⟨_, by omega, rfl⟩
      · exact ⟨_, by omega, rfl⟩
      · exact ih h

/-- The segment of some octets, with padding or without, denotes them. -/
theorem decode_padded (hmode : mode = .optional ∨ k = 0) (hk : k ≤ paddingOf bs) :
    decode mode (encode bs ++ List.replicate k pad) = .ok bs := by
  have hsymbol : ∀ b ∈ encode bs ++ List.replicate k pad, ¬ (b ≠ pad ∧ value? b = none) := by
    intro b hb
    rcases List.mem_append.mp hb with hb | hb
    · obtain ⟨v, hv, rfl⟩ := mem_encode hb
      simp [value?_symbol hv]
    · simp [List.eq_of_mem_replicate hb]
  unfold decode
  split
  · rename_i b hlast
    rw [if_neg fun h => hsymbol b (List.mem_of_getLast? hlast) h.2]
    exact decodeGroups_encode hmode hk
  · rename_i hnone
    have hnil := List.append_eq_nil_iff.mp (List.getLast?_eq_none_iff.mp hnone)
    rw [encode_eq_nil.mp hnil.1]

/-- A segment as text, with `k` octets of padding. -/
def text (bs : List UInt8) (k : Nat) : String :=
  String.ofList ((encode bs ++ List.replicate k pad).map fun b => Char.ofNat b.toNat)

theorem mem_padded {b : UInt8} (h : b ∈ encode bs ++ List.replicate k pad) :
    (∃ v < 64, b = symbol v) ∨ b = pad :=
  (List.mem_append.mp h).imp mem_encode List.eq_of_mem_replicate

/-- The octets of a segment as text are those of the segment. -/
theorem encode_text (bs : List UInt8) (k : Nat) :
    Utf8.encode (text bs k) = encode bs ++ List.replicate k pad := by
  have hsymbol : ∀ v < 64, String.utf8EncodeChar (Char.ofNat (symbol v).toNat) = [symbol v] := by
    decide
  have hoctet : ∀ b ∈ encode bs ++ List.replicate k pad,
      String.utf8EncodeChar (Char.ofNat b.toNat) = [b] := by
    intro b hb
    rcases mem_padded hb with ⟨v, hv, rfl⟩ | rfl
    · exact hsymbol v hv
    · decide
  rw [text, Utf8.encode_ofList, List.flatMap_map]
  exact (List.flatMap_congr hoctet).trans (List.flatMap_singleton' _)

theorem isSegment_text (bs : List UInt8) (k : Nat) : Token.IsSegment (text bs k) := by
  have hsymbol : ∀ v < 64, Char.ofNat (symbol v).toNat ≠ '.' ∧
      Text.isBlank (Char.ofNat (symbol v).toNat) = false := by
    decide
  intro c hc
  rw [text, String.toList_ofList] at hc
  obtain ⟨b, hb, rfl⟩ := List.mem_map.mp hc
  rcases mem_padded hb with ⟨v, hv, rfl⟩ | rfl
  · exact hsymbol v hv
  · decide

end Base64
end EntityTrust
