import EntityTrust.Fetch.Settings
import Mathlib.Tactic.NormNum
import Mathlib.Tactic.Positivity

/-!
# Growing delays in words

**Input.**  A base delay, given by seconds in a word of 64 bits and nanoseconds in a word of 32
bits, and the number of failed attempts in a word of 32 bits.

**Algorithm.**  The factor is a power of two in a word of 32 bits, computed by squaring; a product
that leaves the word ends the computation at the largest word.  The nanoseconds are multiplied in a
word of 64 bits and carried into the seconds; seconds that leave their word end the computation at
the longest duration.

**Results.**
* `checkedPower_eq`: squaring comes to the power exactly when the power is a word.
* `Duration.Words.toDuration_scale`: no carry is lost, and the longest duration stands in exactly
  for what leaves the durations.
* `Settings.backoff_exact`: the computation in words, the delay and the formula agree; the delay
  does not fall, and doubles as long as there is room.
-/

namespace EntityTrust

section Words

/-- The word of 32 bits with a value, if there is one. -/
def word32? (n : Nat) : Option UInt32 :=
  if n ≤ Numeral.maxWord32 then some (.ofNat n) else none

/-- The word of 64 bits with a value, if there is one. -/
def word64? (n : Nat) : Option UInt64 :=
  if n ≤ Numeral.maxWord64 then some (.ofNat n) else none

theorem word32?_eq_some {n : Nat} {w : UInt32} : word32? n = some w ↔ w.toNat = n := by
  unfold word32? Numeral.maxWord32
  split
  · rename_i h
    rw [Option.some_inj, ← UInt32.toNat_inj, UInt32.toNat_ofNat_of_lt' (show n < 2 ^ 32 by omega)]
    exact eq_comm
  · have := w.toNat_lt
    simp only [reduceCtorEq, false_iff]
    omega

theorem word64?_eq_some {n : Nat} {w : UInt64} : word64? n = some w ↔ w.toNat = n := by
  unfold word64? Numeral.maxWord64
  split
  · rename_i h
    rw [Option.some_inj, ← UInt64.toNat_inj, UInt64.toNat_ofNat_of_lt' (show n < 2 ^ 64 by omega)]
    exact eq_comm
  · have := w.toNat_lt
    simp only [reduceCtorEq, false_iff]
    omega

theorem word32?_eq_none {n : Nat} : word32? n = none ↔ Numeral.maxWord32 < n := by
  simp [word32?]

theorem word64?_eq_none {n : Nat} : word64? n = none ↔ Numeral.maxWord64 < n := by
  simp [word64?]

end Words

section Powers

/-- The product so far with the factor that an odd exponent has over the even one below it. -/
def oddProduct (acc base exponent : UInt32) : Option UInt32 :=
  if exponent % 2 = 1 then word32? (acc.toNat * base.toNat) else some acc

/-- A power times `acc` by squaring, with a check of every product. -/
def checkedPower (acc base exponent : UInt32) : Option UInt32 :=
  if exponent = 0 then some acc
  else if exponent = 1 then word32? (acc.toNat * base.toNat)
  else
    match oddProduct acc base exponent, word32? (base.toNat * base.toNat) with
    | some product, some square => checkedPower product square (exponent / 2)
    | _, _ => none
termination_by exponent.toNat
decreasing_by
  rename_i hzero _
  rw [UInt32.toNat_div]
  have hne : exponent.toNat ≠ 0 := fun h => hzero (UInt32.toNat_inj.mp h)
  exact Nat.div_lt_self (by omega) (by decide)

theorem oddProduct_eq (acc base exponent : UInt32) :
    oddProduct acc base exponent = word32? (acc.toNat * base.toNat ^ (exponent.toNat % 2)) := by
  have hparity : exponent % 2 = 1 ↔ exponent.toNat % 2 = 1 := by
    rw [← UInt32.toNat_inj, UInt32.toNat_mod]
    rfl
  unfold oddProduct
  split
  · rename_i hodd
    rw [hparity.mp hodd, Nat.pow_one]
  · rename_i heven
    rw [Nat.mod_two_ne_one.mp (mt hparity.mpr heven), Nat.pow_zero, Nat.mul_one]
    exact (word32?_eq_some.mpr rfl).symm

/-- The result of squaring is the power, when that is a word, and none otherwise: a factor that
leaves the word is part of a product that does. -/
theorem checkedPower_eq {acc base exponent : UInt32} (hacc : 0 < acc.toNat)
    (hbase : 0 < base.toNat) :
    checkedPower acc base exponent = word32? (acc.toNat * base.toNat ^ exponent.toNat) := by
  -- The power as the odd factor and a power of the square.
  have hsplit (acc base exponent : Nat) : acc * base ^ exponent =
      acc * base ^ (exponent % 2) * (base * base) ^ (exponent / 2) := by
    rw [← Nat.pow_two, ← Nat.pow_mul, Nat.mul_assoc, ← Nat.pow_add, Nat.mod_add_div]
  fun_induction checkedPower acc base exponent with
  | case1 acc base =>
      symm
      simp [word32?_eq_some]
  | case2 acc base => simp
  | case3 acc base exponent hzero hone product square hsquare hproduct ih =>
      rw [oddProduct_eq, word32?_eq_some] at hproduct
      rw [word32?_eq_some] at hsquare
      have hproduct' : 0 < product.toNat := by
        rw [hproduct]
        positivity
      have hsquare' : 0 < square.toNat := by
        rw [hsquare]
        positivity
      rw [ih hproduct' hsquare', hsplit acc.toNat, hproduct, hsquare, UInt32.toNat_div]
      rfl
  | case4 acc base exponent hzero hone hnone =>
      symm
      rw [word32?_eq_none, hsplit]
      have hhalf : exponent.toNat / 2 ≠ 0 := by
        have hzero' : exponent.toNat ≠ (0 : UInt32).toNat := mt UInt32.toNat_inj.mp hzero
        have hone' : exponent.toNat ≠ (1 : UInt32).toNat := mt UInt32.toNat_inj.mp hone
        simp only [UInt32.toNat_zero, UInt32.toNat_one] at hzero' hone'
        omega
      have hproduct : 0 < acc.toNat * base.toNat ^ (exponent.toNat % 2) := by positivity
      have hsquare : 0 < base.toNat * base.toNat := by positivity
      cases hodd : word32? (acc.toNat * base.toNat ^ (exponent.toNat % 2)) with
      | none =>
          refine (word32?_eq_none.mp hodd).trans_le (Nat.le_mul_of_pos_right _ ?_)
          positivity
      | some product =>
          cases heven : word32? (base.toNat * base.toNat) with
          | none =>
              calc Numeral.maxWord32 < base.toNat * base.toNat := word32?_eq_none.mp heven
                _ ≤ (base.toNat * base.toNat) ^ (exponent.toNat / 2) := Nat.le_pow hhalf.bot_lt
                _ ≤ _ := Nat.le_mul_of_pos_left _ hproduct
          | some square => exact (hnone product square ((oddProduct_eq ..).trans hodd) heven).elim

/-- The power, or the largest word. -/
def saturatingPower (base exponent : UInt32) : UInt32 :=
  (checkedPower 1 base exponent).getD (.ofNat Numeral.maxWord32)

theorem toNat_saturatingPower {base exponent : UInt32} (hbase : 0 < base.toNat) :
    (saturatingPower base exponent).toNat =
      min (base.toNat ^ exponent.toNat) Numeral.maxWord32 := by
  rw [saturatingPower, checkedPower_eq (show 0 < (1 : UInt32).toNat by decide) hbase,
    UInt32.toNat_one, Nat.one_mul]
  cases h : word32? (base.toNat ^ exponent.toNat) with
  | none => exact (Nat.min_eq_right (word32?_eq_none.mp h).le).symm
  | some power =>
      have hpower := word32?_eq_some.mp h
      have hword := power.toNat_lt
      rw [Option.getD_some, hpower, Nat.min_eq_left]
      simp only [Numeral.maxWord32]
      omega

end Powers

namespace Duration

/-- A duration in words: whole seconds, and nanoseconds below one more. -/
structure Words where
  seconds : UInt64
  nanos : UInt32
  lt_second : nanos.toNat < nanosPerSecond

variable {factor : UInt32}

namespace Words

/-- The nanoseconds of a duration in words. -/
def total (d : Words) : Nat :=
  d.seconds.toNat * nanosPerSecond + d.nanos.toNat

/-- The duration that words stand for. -/
def toDuration (d : Words) : Duration where
  nanos := d.total
  le_max := by
    have hseconds := d.seconds.toNat_lt
    have hnanos := d.lt_second
    simp only [total, maxNanos, nanosPerSecond, Numeral.maxWord64] at *
    omega

/-- The longest duration. -/
def longest : Words where
  seconds := .ofNat Numeral.maxWord64
  nanos := 999999999
  lt_second := by decide

/-- The nanoseconds of a multiple, in a word that has to hold them. -/
def scaledNanos (d : Words) (factor : UInt32) : UInt64 :=
  d.nanos.toUInt64 * factor.toUInt64

/-- The product of two words of 32 bits is a word of 64 bits. -/
theorem toNat_scaledNanos (d : Words) (factor : UInt32) :
    (d.scaledNanos factor).toNat = d.nanos.toNat * factor.toNat := by
  have hnanos := d.nanos.toNat_lt
  have hfactor := factor.toNat_lt
  rw [scaledNanos, UInt64.toNat_mul, UInt32.toNat_toUInt64, UInt32.toNat_toUInt64]
  refine Nat.mod_eq_of_lt ?_
  calc d.nanos.toNat * factor.toNat ≤ (2 ^ 32 - 1) * (2 ^ 32 - 1) :=
        Nat.mul_le_mul (by omega) (by omega)
    _ < 2 ^ 64 := by norm_num

/-- The nanoseconds of a multiple that make no whole second. -/
theorem toNat_scaledNanos_mod (d : Words) (factor : UInt32) :
    (d.scaledNanos factor % 1000000000).toUInt32.toNat =
      d.nanos.toNat * factor.toNat % nanosPerSecond := by
  rw [UInt64.toNat_toUInt32, UInt64.toNat_mod, toNat_scaledNanos]
  refine Nat.mod_eq_of_lt ((Nat.mod_lt _ (by decide)).trans (by decide))

/-- A multiple: the nanoseconds are multiplied first, and their whole seconds carried. -/
def scale? (d : Words) (factor : UInt32) : Option Words := do
  let carried := d.scaledNanos factor / 1000000000
  let seconds ← word64? (d.seconds.toNat * factor.toNat)
  let seconds ← word64? (seconds.toNat + carried.toNat)
  pure ⟨seconds, (d.scaledNanos factor % 1000000000).toUInt32, by
    rw [toNat_scaledNanos_mod]
    exact Nat.mod_lt _ (by decide)⟩

/-- A multiple, or the longest duration. -/
def scale (d : Words) (factor : UInt32) : Words :=
  (d.scale? factor).getD longest

/-- The nanoseconds of a multiple as whole seconds and the rest. -/
theorem total_mul (d : Words) (k : Nat) :
    d.total * k = (d.seconds.toNat * k + d.nanos.toNat * k / nanosPerSecond) * nanosPerSecond +
      d.nanos.toNat * k % nanosPerSecond := by
  rw [total, Nat.add_mul, Nat.add_mul _ _ nanosPerSecond, Nat.mul_right_comm, Nat.add_assoc,
    Nat.div_add_mod']

theorem toNat_carried (d : Words) (factor : UInt32) :
    (d.scaledNanos factor / 1000000000).toNat = d.nanos.toNat * factor.toNat / nanosPerSecond := by
  rw [UInt64.toNat_div, toNat_scaledNanos]
  rfl

/-- A multiple has the nanoseconds it should have. -/
theorem total_of_scale? {d e : Words} (h : d.scale? factor = some e) :
    e.total = d.total * factor.toNat := by
  obtain ⟨product, hproduct, h⟩ := Option.bind_eq_some_iff.mp h
  obtain ⟨sum, hsum, h⟩ := Option.bind_eq_some_iff.mp h
  cases h
  rw [word64?_eq_some] at hproduct hsum
  rw [total_mul, total, hsum, hproduct, toNat_carried, toNat_scaledNanos_mod]

/-- There is no multiple when it leaves the durations. -/
theorem lt_of_scale? {d : Words} (h : d.scale? factor = none) :
    maxNanos < d.total * factor.toNat := by
  have hseconds : Numeral.maxWord64 <
      d.seconds.toNat * factor.toNat + d.nanos.toNat * factor.toNat / nanosPerSecond := by
    rw [scale?, Option.bind_eq_bind, Option.bind_eq_none_iff] at h
    cases hproduct : word64? (d.seconds.toNat * factor.toNat) with
    | none => exact Nat.lt_add_right _ (word64?_eq_none.mp hproduct)
    | some product =>
        have hsum := h product hproduct
        rw [Option.bind_eq_none_iff] at hsum
        rw [← word64?_eq_none, ← word64?_eq_some.mp hproduct, ← toNat_carried]
        exact Option.eq_none_iff_forall_ne_some.mpr fun sum h => nomatch hsum sum h
  rw [total_mul]
  calc maxNanos < (Numeral.maxWord64 + 1) * nanosPerSecond := Nat.sub_lt (by decide) Nat.one_pos
    _ ≤ (d.seconds.toNat * factor.toNat + d.nanos.toNat * factor.toNat / nanosPerSecond) *
        nanosPerSecond := Nat.mul_le_mul_right _ hseconds
    _ ≤ _ := Nat.le_add_right _ _

/-- Multiples of words are multiples of durations. -/
theorem toDuration_scale (d : Words) (factor : UInt32) :
    (d.scale factor).toDuration = d.toDuration.scale factor.toNat := by
  rw [Duration.mk.injEq, Duration.nanos_scale, scale]
  cases h : d.scale? factor with
  | none => exact (Nat.min_eq_right (lt_of_scale? h).le).symm
  | some e =>
      rw [Option.getD_some,
        ← show e.total = d.toDuration.nanos * factor.toNat from total_of_scale? h]
      exact (Nat.min_eq_left e.toDuration.le_max).symm

end Words

/-- The words of a duration. -/
def words (d : Duration) : Words where
  seconds := .ofNat (d.nanos / nanosPerSecond)
  nanos := .ofNat (d.nanos % nanosPerSecond)
  lt_second := by
    have hlt : d.nanos % nanosPerSecond < nanosPerSecond := Nat.mod_lt _ (by decide)
    rwa [UInt32.toNat_ofNat_of_lt' (hlt.trans (by decide))]

/-- Every duration is that of its words. -/
theorem toDuration_words (d : Duration) : d.words.toDuration = d := by
  have hle := d.le_max
  have hseconds : d.nanos / nanosPerSecond < 2 ^ 64 := by
    refine Nat.div_lt_of_lt_mul (hle.trans_lt (by decide))
  have hnanos : d.nanos % nanosPerSecond < 2 ^ 32 :=
    (Nat.mod_lt _ (by decide)).trans (by decide)
  rw [Duration.mk.injEq]
  show (UInt64.ofNat (d.nanos / nanosPerSecond)).toNat * nanosPerSecond +
    (UInt32.ofNat (d.nanos % nanosPerSecond)).toNat = d.nanos
  rw [UInt64.toNat_ofNat_of_lt' hseconds, UInt32.toNat_ofNat_of_lt' hnanos, Nat.div_add_mod']

end Duration

namespace Fetch
namespace Settings

/-- The delay after a number of failed attempts, computed in words. -/
def wordBackoff (s : Settings) (failed : UInt32) : Duration.Words :=
  s.baseBackoff.words.scale (saturatingPower 2 (.ofNat (failed.toNat - 1)))

/-- The factor is a power of two up to the largest word. -/
theorem factor_eq (failed : Nat) :
    factor failed = min (2 ^ (max failed 1 - 1)) Numeral.maxWord32 := by
  have hexponent : max failed 1 - 1 = failed - 1 := by omega
  rw [factor, hexponent]
  split
  · rename_i h
    refine (Nat.min_eq_left ?_).symm
    calc 2 ^ (failed - 1) ≤ 2 ^ 31 := Nat.pow_le_pow_right (by decide) (by omega)
      _ ≤ Numeral.maxWord32 := by decide
  · rename_i h
    refine (Nat.min_eq_right ?_).symm
    calc Numeral.maxWord32 ≤ 2 ^ 32 := by decide
      _ ≤ 2 ^ (failed - 1) := Nat.pow_le_pow_right (by decide) (by omega)

theorem factor_mono {m n : Nat} (h : m ≤ n) : factor m ≤ factor n := by
  rw [factor_eq, factor_eq]
  have hpower : 2 ^ (max m 1 - 1) ≤ 2 ^ (max n 1 - 1) :=
    Nat.pow_le_pow_right (by decide) (by omega)
  omega

theorem factor_succ {n : Nat} (hpos : 1 ≤ n) (hle : n ≤ 31) : factor (n + 1) = 2 * factor n := by
  rw [factor, factor, if_pos (by omega), if_pos (by omega)]
  show 2 ^ n = 2 * 2 ^ (n - 1)
  rw [← Nat.pow_succ', Nat.succ_eq_add_one, Nat.sub_add_cancel hpos]

/-- The words of a delay are computed without loss. -/
theorem toDuration_wordBackoff (s : Settings) (failed : UInt32) :
    (s.wordBackoff failed).toDuration = s.backoff failed.toNat := by
  have hexponent : (UInt32.ofNat (failed.toNat - 1)).toNat = failed.toNat - 1 :=
    UInt32.toNat_ofNat_of_lt' ((Nat.sub_le _ _).trans_lt failed.toNat_lt)
  have hfactor : (saturatingPower 2 (.ofNat (failed.toNat - 1))).toNat = factor failed.toNat := by
    rw [toNat_saturatingPower (by decide), hexponent, factor_eq]
    congr 2
    omega
  rw [wordBackoff, Duration.Words.toDuration_scale, hfactor, Duration.toDuration_words]
  rfl

/-- The delay after a number of failed attempts is the same in words, where nothing is lost, and by
the formula: the base delay times a power of two up to the largest word, or the longest duration.
It does not fall from one attempt to the next, and doubles up to the 32nd while there is room. -/
theorem backoff_exact (s : Settings) (failed : UInt32) :
    (s.wordBackoff failed).toDuration = s.backoff failed.toNat ∧
      (s.backoff failed.toNat).nanos =
        min Duration.maxNanos
          (s.baseBackoff.nanos * min (2 ^ (max failed.toNat 1 - 1)) (2 ^ 32 - 1)) ∧
      (∀ later : UInt32, failed ≤ later →
        (s.backoff failed.toNat).nanos ≤ (s.backoff later.toNat).nanos) ∧
      (1 ≤ failed → failed ≤ 31 → 2 * (s.backoff failed.toNat).nanos ≤ Duration.maxNanos →
        (s.backoff (failed + 1).toNat).nanos = 2 * (s.backoff failed.toNat).nanos) := by
  have hnanos (n : Nat) : (s.backoff n).nanos =
      min (s.baseBackoff.nanos * factor n) Duration.maxNanos := rfl
  refine ⟨s.toDuration_wordBackoff failed, ?_, fun later h => ?_, fun hpos hle hroom => ?_⟩
  · rw [hnanos, factor_eq, Nat.min_comm]
    rfl
  · have hfactor : factor failed.toNat ≤ factor later.toNat :=
      factor_mono (UInt32.le_iff_toNat_le.mp h)
    have hproduct := Nat.mul_le_mul_left s.baseBackoff.nanos hfactor
    rw [hnanos, hnanos]
    omega
  · rw [UInt32.le_iff_toNat_le] at hpos hle
    have hnext : (failed + 1).toNat = failed.toNat + 1 := by
      rw [UInt32.toNat_add]
      refine Nat.mod_eq_of_lt ?_
      simp at hle ⊢
      omega
    rw [hnanos] at hroom ⊢
    rw [hnanos, hnext, factor_succ hpos hle, Nat.mul_left_comm]
    omega

/-- Settings whose delay doubles once and then stays at the longest duration. -/
def Sample.slow : Settings :=
  { baseBackoff := .ofSeconds 0x7FFFFFFFFFFFFFFF }

/-- A delay that doubles within the last two seconds of the longest duration, and one after more
attempts than the factor has room for. -/
theorem backoff_exact_sample :
    (1 : UInt32) ≤ 40 ∧ (Sample.slow.backoff 1).nanos ≤ (Sample.slow.backoff 40).nanos ∧
      (1 : UInt32) ≤ 1 ∧ (1 : UInt32) ≤ 31 ∧
      2 * (Sample.slow.backoff 1).nanos ≤ Duration.maxNanos ∧
      (Sample.slow.backoff 2).nanos = 2 * (Sample.slow.backoff 1).nanos := by
  have hroom : 2 * (Sample.slow.backoff 1).nanos ≤ Duration.maxNanos := by decide +kernel
  obtain ⟨-, -, hmono, hdouble⟩ := Sample.slow.backoff_exact 1
  exact ⟨by decide, hmono 40 (by decide), by decide, by decide, hroom,
    hdouble (by decide) (by decide) hroom⟩

end Settings
end Fetch

end EntityTrust
