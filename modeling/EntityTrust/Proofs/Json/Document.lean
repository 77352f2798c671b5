import EntityTrust.Json.Document
import EntityTrust.Proofs.Json.Object
import EntityTrust.Proofs.Outcome

/-!
# Values of documents

Every value that is read as a document is in normal form.

**Invariant.**  `Yields` says of an attempt to read something that what it answers, if it answers,
has a property.  It passes through all ways in which readers are put together, and through the loops
over items and members by the recursion of these loops.

**Results.**
* `yields_readItems`, `yields_foldMembers`: what a turn of a loop preserves, the loop preserves.
* `normal_ofDocument`: the value of a document is in normal form.
-/

namespace EntityTrust
namespace Json

variable {α β : Type} {s t : List UInt8}

/-- What is answered has a property. -/
def Yields (P : α → Prop) (x : Except Fault (Taken α s)) : Prop :=
  ∀ r, x = .ok r → P r.value

section Yields

variable {P : α → Prop} {Q : β → Prop} {x : Except Fault (Taken α s)}

theorem yields_ok {r : Taken α s} (h : P r.value) : Yields P (.ok r) := by
  intro r' hr
  cases hr
  exact h

theorem yields_error (e : Fault) : Yields P (.error e : Except Fault (Taken α s)) :=
  nofun

theorem Yields.bind {f : Taken α s → Except Fault (Taken β t)} (h : Yields P x)
    (hf : ∀ r, P r.value → Yields Q (f r)) : Yields Q (x >>= f) := by
  intro q hq
  obtain ⟨r, hr, hfr⟩ := Outcome.bind_eq_ok.mp hq
  exact hf r (h r hr) q hfr

theorem Yields.of_value {f : Taken α s → Taken β t} (h : Yields P x)
    (hf : ∀ r, P r.value → Q (f r).value) : Yields Q (x.map f) := by
  intro q hq
  obtain ⟨r, hr, rfl⟩ := Outcome.map_eq_ok.mp hq
  exact hf r (h r hr)

/-- What a reading begins with has no part in what it answers. -/
theorem yields_next {r : Taken α s} {f : α → Reader β} (h : ∀ a t, Yields Q (f a t)) :
    Yields Q (r.next f) :=
  (h r.value r.rest).of_value (f := fun q => q.widen r.le) fun _ hq => hq

theorem Yields.inside {step : Step} (h : Yields P x) : Yields P (Json.inside step x) := by
  cases x with
  | error e => exact yields_error _
  | ok r => exact h

theorem yields_closing {close : (t : List UInt8) → Taken (Except Fault Unit) t} {r : Taken α s}
    (h : P r.value) : Yields P (closing close r) := by
  unfold closing
  dsimp only
  split
  · exact yields_ok h
  · exact yields_error _

end Yields

section Numbers

variable {negative : Bool} {significand : Nat} {exponent : Int}

theorem yields_scaledFloat : Yields Normal (scaledFloat negative significand exponent s) := by
  unfold scaledFloat
  split
  · exact yields_ok (.float _)
  · exact yields_error _

theorem yields_readExponent : Yields Normal (readExponent negative significand exponent s) := by
  refine yields_next fun down t => ?_
  split
  · exact yields_error _
  · split
    · exact yields_error _
    · refine yields_next fun power u => ?_
      split
      · exact yields_scaledFloat
      · split
        · exact yields_error _
        · exact yields_ok (.float _)

theorem yields_readAfterFraction :
    Yields Normal (readAfterFraction negative significand exponent s) := by
  unfold readAfterFraction
  split
  · exact yields_scaledFloat
  · split
    · exact yields_readExponent.of_value fun _ h => h
    · exact yields_scaledFloat

theorem yields_readFraction : Yields Normal (readFraction negative significand exponent s) := by
  refine yields_next fun (m, count) t => ?_
  dsimp only
  split
  · exact yields_next fun _ _ => yields_readAfterFraction
  · split
    · split <;> exact yields_error _
    · exact yields_readAfterFraction

theorem yields_readLong : Yields Normal (readLong negative significand s) := by
  refine yields_next fun count t => ?_
  split
  · exact yields_readFraction.of_value fun _ h => h
  · exact yields_readAfterFraction

theorem normal_integerValue : (integerValue negative significand).Normal := by
  unfold integerValue
  split
  · split
    · exact .float _
    · exact .integer _
  · exact .integer _

theorem yields_readAfterInteger : Yields Normal (readAfterInteger negative significand s) := by
  unfold readAfterInteger
  split
  · exact yields_ok normal_integerValue
  · split
    · exact yields_readFraction.of_value fun _ h => h
    · split
      · exact yields_readExponent.of_value fun _ h => h
      · exact yields_ok normal_integerValue

theorem yields_readBehindDigit {first : Nat} :
    Yields Normal (readBehindDigit negative first s) := by
  unfold readBehindDigit
  split
  · split
    · exact yields_error _
    · exact yields_readAfterInteger
  · refine yields_next fun (m, _) t => ?_
    dsimp only
    split
    · exact yields_readLong
    · exact yields_readAfterInteger

theorem yields_readBehindMinus : Yields Normal (readBehindMinus s) := by
  unfold readBehindMinus
  split
  · exact yields_error _
  · split
    · exact yields_error _
    · exact yields_readBehindDigit.of_value fun _ h => h

end Numbers

section Loops

variable {P : α → Prop}

/-- All items of an array have what every item has. -/
theorem yields_readItems {item : Reader α} (hitem : ∀ s, Yields P (item s)) (first : Bool)
    (index : Nat) (s : List UInt8) :
    Yields (fun xs => ∀ x ∈ xs, P x) (readItems item first index s) := by
  fun_induction readItems item first index s with
  | case1 | case3 | case4 => exact yields_error _
  | case2 => exact yields_ok nofun
  | case5 first index s rest le _ r hr q hq ih =>
      refine yields_ok (List.forall_mem_cons.mpr ⟨?_, ih q hq⟩)
      exact (hitem rest).inside r hr

/-- What every member of an object preserves, all of them preserve. -/
theorem yields_foldMembers {step : α → String → Reader α}
    (hstep : ∀ acc name s, P acc → Yields P (step acc name s)) (acc : α) (first : Bool)
    (s : List UInt8) (hacc : P acc) : Yields P (foldMembers step acc first s) := by
  fun_induction foldMembers step acc first s with
  | case1 | case3 | case4 | case5 => exact yields_error _
  | case2 => exact yields_ok hacc
  | case6 acc first s rest le _ key hkey r hr q hq ih =>
      exact yields_ok (ih (hstep acc _ _ hacc r hr) q hq)

end Loops

theorem yields_readMemberValue {P : α → Prop} {name : String} {value : Reader α}
    (h : ∀ s, Yields P (value s)) (s : List UInt8) : Yields P (readMemberValue name value s) := by
  have hcolon : Yields (fun _ => True) (readColon s) := fun _ _ => trivial
  exact (hcolon.bind fun _ _ => yields_next fun _ => h).inside

theorem yields_word {v : Json} (hv : v.Normal) (name s : List UInt8) :
    Yields Normal ((readName name s).map (·.map fun _ => v)) := by
  have hname : Yields (fun _ => True) (readName name s) := fun _ _ => trivial
  exact hname.of_value fun _ _ => hv

/-- Members are put into normal form when the object ends. -/
theorem normal_ofMembers_reverse {ms : List Member} (h : ∀ m ∈ ms, m.2.Normal) :
    (object (ofMembers ms.reverse)).Normal :=
  .object (sorted_ofMembers _) fun m hm => h m (List.mem_reverse.mp (mem_of_mem_ofMembers hm))

/-- A value is in normal form when the values one level deeper are. -/
theorem yields_readNormal_of {depth : Nat}
    (h : ∀ d, depth = d + 1 → ∀ s, Yields Normal (readNormal d s)) (s : List UInt8) :
    Yields Normal (readNormal depth s) := by
  unfold readNormal readValue
  split
  · exact yields_error _
  rename_i b rest lt _
  have fit {x : Except Fault (Taken Json rest)} (hx : Yields Normal x) :
      Yields Normal (x.map fun r => (r.later lt : Taken Json s)) :=
    hx.of_value fun _ hr => hr
  dsimp only
  split
  · exact fit (yields_word .null _ _)
  split
  · exact fit (yields_word (.bool _) _ _)
  split
  · exact fit (yields_word (.bool _) _ _)
  split
  · exact fit yields_readBehindMinus
  split
  · exact fit yields_readBehindDigit
  split
  · have hstring : Yields (fun _ => True) (readString rest) := fun _ _ => trivial
    exact fit (hstring.of_value fun r _ => .string r.value)
  split
  · split
    · exact yields_error _
    · rename_i d
      have hitems := yields_readItems (h d rfl) true 0 rest
      exact fit (hitems.bind fun _ hr => yields_closing (.array hr))
  split
  · split
    · exact yields_error _
    · rename_i d
      refine fit (Yields.bind (P := fun ms => ∀ m ∈ ms, m.2.Normal)
        (yields_foldMembers (fun acc name t hacc => ?_) [] true rest nofun)
        fun r hr => yields_closing (normal_ofMembers_reverse hr))
      have hvalue : Yields Normal (readMemberValue name (readNormal d) t) :=
        yields_readMemberValue (h d rfl) t
      exact hvalue.of_value fun r hr => List.forall_mem_cons.mpr ⟨hr, hacc⟩
  · exact yields_error _

theorem yields_readNormal (depth : Nat) : ∀ s, Yields Normal (readNormal depth s) := by
  induction depth with
  | zero => exact yields_readNormal_of nofun
  | succ d ih =>
      refine yields_readNormal_of fun d' hd => ?_
      obtain rfl := Nat.succ.inj hd
      exact ih

/-- The value of a document is in normal form. -/
theorem normal_ofDocument {v : Json} (h : ofDocument s = .ok v) : v.Normal := by
  obtain ⟨r, hr, hv⟩ := Outcome.bind_eq_ok.mp h
  split at hv
  · cases hv
    exact yields_readNormal _ _ r hr
  · cases hv

end Json
end EntityTrust
