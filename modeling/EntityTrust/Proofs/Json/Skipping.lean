import EntityTrust.Proofs.Json.Reading

/-!
# Passing over what spells a value

A value of any depth is passed over when it is spelled, inside any brackets that are still open.

**Invariant.**  `Resumes` says what is left to be done where brackets are open, and `After` what
follows a value inside of them.  A value is passed over when what follows it can be done; so are, by
induction, the items and members up to the bracket that closes them.

**Results.**
* `skips_spells`: values of any depth.
* `takes_skipValue`: passing over a value takes exactly the value.
-/

namespace EntityTrust
namespace Json

variable {rest more text w u : List UInt8} {b : UInt8} {n : Nat}

section Lexemes

theorem takes_skipFraction (hrest : EndsNumber rest) : Takes (skipFraction rest) () rest := by
  cases rest with
  | nil => exact ⟨_, rfl⟩
  | cons b more =>
      obtain ⟨-, hpoint, hsmall, hlarge⟩ := hrest b more rfl
      refine ⟨Nat.le_refl _, ?_⟩
      simp only [skipFraction, beq_eq_false_iff_ne.mpr hpoint, beq_eq_false_iff_ne.mpr hsmall,
        beq_eq_false_iff_ne.mpr hlarge, Bool.or_self, Bool.false_eq_true, if_false]

theorem skipDigits_digits {ds : List UInt8} (hds : ∀ b ∈ ds, IsDigit b)
    (hrest : startsWithDigit rest = false) (count : Nat) :
    ∃ c le, skipDigits count (ds ++ rest) = ⟨c, rest, le⟩ := by
  induction ds generalizing count with
  | nil =>
      cases rest with
      | nil => exact ⟨_, _, rfl⟩
      | cons b more =>
          have hb : (digit? b).isSome = false := hrest
          refine ⟨count, Nat.le_refl _, ?_⟩
          simp only [List.nil_append, skipDigits, hb, Bool.false_eq_true, if_false]
  | cons b ds ih =>
      obtain ⟨hb, hds⟩ := List.forall_mem_cons.mp hds
      obtain ⟨c, le, h⟩ := ih hds (count + 1)
      refine ⟨c, Nat.le_succ_of_le le, ?_⟩
      simp only [List.cons_append, skipDigits, digit?_of_isDigit hb, Option.isSome_some, if_true, h]
      rfl

theorem takes_skipBehindDigit (n : Nat) (hrest : EndsNumber rest) :
    ∃ b ds, digits n = b :: ds ∧ IsDigit b ∧
      Takes (skipBehindDigit (b.toNat - 48) (ds ++ rest)) () rest := by
  rcases Nat.eq_zero_or_pos n with rfl | hn
  · refine ⟨48, [], rfl, ⟨by decide, by decide⟩, ?_⟩
    have hzero : (48 : UInt8).toNat - 48 = 0 := rfl
    rw [skipBehindDigit, hzero, if_pos rfl, List.nil_append, hrest.startsWithDigit,
      if_neg Bool.false_ne_true]
    exact takes_skipFraction hrest
  · obtain ⟨b, ds, hds, hb⟩ := digits_cons hn
    obtain ⟨hdigit, hdigits⟩ := List.forall_mem_cons.mp (hds ▸ isDigit_digits n)
    obtain ⟨c, le, hskip⟩ := skipDigits_digits hdigits hrest.startsWithDigit 0
    refine ⟨b, ds, hds, hdigit, ?_⟩
    rw [skipBehindDigit, if_neg (by omega), skipAllDigits, hskip]
    exact takes_next (takes_skipFraction hrest)

theorem takes_skipBehindMinus (n : Nat) (hrest : EndsNumber rest) :
    Takes (skipBehindMinus (digits n ++ rest)) () rest := by
  obtain ⟨b, ds, hds, hb, h⟩ := takes_skipBehindDigit n hrest
  rw [hds, List.cons_append, skipBehindMinus, digit?_of_isDigit hb]
  exact h.bind fun _ => takes_ok rfl rfl

theorem takes_skipEscape_unicode {ds : List UInt8} (h : IsHex4 ds n) :
    Takes (skipEscape (117 :: (ds ++ rest))) () rest := by
  have hletter : (shortEscape? 117).isSome = false := by decide
  rw [skipEscape, hletter, if_neg Bool.false_ne_true, if_pos (by decide)]
  exact (takes_readHex h).bind fun _ => takes_ok rfl rfl

theorem takes_skipEscape_short {c : Char} (h : (b, c) ∈ shortEscapes) :
    Takes (skipEscape (b :: rest)) () rest := by
  have hescape : ∀ p ∈ shortEscapes, (shortEscape? p.1).isSome = true := by decide
  rw [skipEscape, if_pos (hescape _ h)]
  exact takes_ok rfl rfl

theorem takes_skipString_escape (h : Takes (skipEscape text) () rest)
    (hrest : Takes (skipString rest) () more) : Takes (skipString (92 :: text)) () more := by
  obtain ⟨_, h⟩ := h
  obtain ⟨_, hrest⟩ := hrest
  rw [skipString, if_neg (by decide), if_pos rfl, h]
  dsimp only
  rw [hrest]
  exact takes_ok rfl rfl

theorem takes_skipString_plain {bs : List UInt8} (hbs : ∀ b ∈ bs, PlainOctet b)
    (hrest : Takes (skipString rest) () more) : Takes (skipString (bs ++ rest)) () more := by
  induction bs with
  | nil => exact hrest
  | cons b bs ih =>
      obtain ⟨hb, hbs⟩ := List.forall_mem_cons.mp hbs
      obtain ⟨_, h⟩ := ih hbs
      rw [List.cons_append, skipString, if_neg hb.notQuote, if_neg hb.notBackslash,
        if_neg hb.notControl, h]
      exact takes_ok rfl rfl

/-- What spells the characters of a string is passed over. -/
theorem takes_skipString {cs : List Char} (h : SpellsText text cs) :
    Takes (skipString (text ++ 34 :: rest)) () rest := by
  induction h with
  | nil =>
      rw [List.nil_append, skipString, if_pos rfl]
      exact takes_ok rfl rfl
  | cons hchar _ ih =>
      rw [List.append_assoc]
      cases hchar with
      | plain hc hquote hslash =>
          exact takes_skipString_plain (fun b hb => plainOctet hc hquote hslash hb) ih
      | short h => exact takes_skipString_escape (takes_skipEscape_short h) ih
      | unit h => exact takes_skipString_escape (takes_skipEscape_unicode h) ih
      | pair hc hhi hlo =>
          rw [List.cons_append, List.cons_append, List.append_assoc, List.cons_append,
            List.cons_append]
          exact takes_skipString_escape (takes_skipEscape_unicode hhi)
            (takes_skipString_escape (takes_skipEscape_unicode hlo) ih)

/-- Scalars are passed over behind their first octet, which opens no brackets. -/
theorem Scalar.takes_skip {v : Json} (h : Scalar text v) (hrest : EndsNumber rest) :
    ∃ b more, text = b :: more ∧ Opens b ∧ b ≠ 91 ∧ b ≠ 123 ∧
      Takes (skipScalar b (more ++ rest)) () rest := by
  obtain ⟨b, more, rfl, hb⟩ := h.opens
  refine ⟨b, more, rfl, hb, ?_⟩
  unfold skipScalar
  generalize htext : b :: more = text at h
  cases h with
  | null =>
      obtain ⟨rfl, rfl⟩ := List.cons.inj htext
      refine ⟨by decide, by decide, ?_⟩
      rw [if_pos (by decide)]
      exact takes_readName _
  | yes =>
      obtain ⟨rfl, rfl⟩ := List.cons.inj htext
      refine ⟨by decide, by decide, ?_⟩
      rw [if_neg (by decide), if_pos (by decide)]
      exact takes_readName _
  | no =>
      obtain ⟨rfl, rfl⟩ := List.cons.inj htext
      refine ⟨by decide, by decide, ?_⟩
      rw [if_neg (by decide), if_neg (by decide), if_pos (by decide)]
      exact takes_readName _
  | @integer n _ _ =>
      cases n with
      | ofNat n =>
          obtain ⟨c, ds, hds, hc, hskip⟩ := takes_skipBehindDigit n hrest
          obtain ⟨rfl, rfl⟩ := List.cons.inj (htext.trans hds)
          have hne {c : UInt8} (h : ¬ (48 ≤ c.toNat ∧ c.toNat ≤ 57)) : b ≠ c := ne_of_isDigit hc h
          refine ⟨hne (by decide), hne (by decide), ?_⟩
          rw [if_neg (by simpa using hne (by decide)), if_neg (by simpa using hne (by decide)),
            if_neg (by simpa using hne (by decide)), if_neg (by simpa using hne (by decide)),
            digit?_of_isDigit hc]
          exact hskip
      | negSucc n =>
          obtain ⟨rfl, rfl⟩ := List.cons.inj htext
          refine ⟨by decide, by decide, ?_⟩
          rw [if_neg (by decide), if_neg (by decide), if_neg (by decide), if_pos (by decide)]
          exact takes_skipBehindMinus (n + 1) hrest
  | string h =>
      obtain ⟨rfl, rfl⟩ := List.cons.inj htext
      have hquote : digit? 34 = none := by decide
      refine ⟨by decide, by decide, ?_⟩
      rw [if_neg (by decide), if_neg (by decide), if_neg (by decide), if_neg (by decide), hquote]
      dsimp only
      rw [if_pos (by decide), List.append_assoc]
      exact takes_skipString h

end Lexemes

section Brackets

variable {frame : Bracket} {stack : List Bracket} {next : Option (Bracket × List Bracket)}

/-- What is left to be done inside the brackets that are still open. -/
def Resumes (next : Option (Bracket × List Bracket)) (s u : List UInt8) : Prop :=
  match next with
  | none => u = s
  | some (.array, outer) => Takes (skipIn (.array :: outer) s) () u
  | some (.object, outer) => ∃ t, Takes (skipKey s) () t ∧ Takes (skipIn (.object :: outer) t) () u

/-- What follows a value inside of brackets. -/
def After (stack : List Bracket) (s u : List UInt8) : Prop :=
  match stack with
  | [] => u = s
  | f :: fs => ∃ next t, Takes (closeOpen true f fs s) next t ∧ Resumes next t u

/-- The octet that closes a bracket. -/
def Bracket.closer : Bracket → UInt8
  | .array => 93
  | .object => 125

theorem closeOpen_comma (hw : Blank w) :
    Takes (closeOpen true frame stack (w ++ 44 :: rest)) (some (frame, stack)) rest := by
  obtain ⟨lt, hsees⟩ : Sees (w ++ 44 :: rest) 44 rest := sees_blank hw (by decide)
  rw [closeOpen.eq_def, hsees]
  dsimp only
  rw [if_pos (by decide)]
  exact takes_ok rfl rfl

/-- A value stands behind an opening bracket. -/
theorem closeOpen_value (hw : Blank w) (hb : Opens b) :
    Takes (closeOpen false frame stack (w ++ b :: rest)) (some (frame, stack)) (b :: rest) := by
  obtain ⟨lt, hsees⟩ : Sees (w ++ b :: rest) b rest := sees_blank hw hb.notSpace
  have hclose : ¬ ((b == 93 && frame = .array) || (b == 125 && frame = .object)) = true := by
    simp [hb.notBracket, hb.notBrace]
  rw [closeOpen.eq_def, hsees]
  dsimp only
  rw [if_neg (by simp), if_neg hclose, if_neg Bool.false_ne_true]
  exact takes_ok rfl rfl

/-- Behind a closing bracket goes on what follows the value that it closes. -/
theorem closeOpen_close (commaAllowed : Bool) (hw : Blank w) (h : After stack rest u) :
    ∃ next t, Takes (closeOpen commaAllowed frame stack (w ++ frame.closer :: rest)) next t ∧
      Resumes next t u := by
  have hspace : isSpace frame.closer = false := by cases frame <;> decide
  have hcomma : ¬ (frame.closer == 44 && commaAllowed) = true := by
    cases frame <;> simp [Bracket.closer]
  have hclose : ((frame.closer == 93 && frame = .array) ||
      (frame.closer == 125 && frame = .object)) = true := by cases frame <;> decide
  obtain ⟨lt, hsees⟩ : Sees (w ++ frame.closer :: rest) frame.closer rest := sees_blank hw hspace
  rw [closeOpen.eq_def, hsees]
  dsimp only
  rw [if_neg hcomma, if_pos hclose]
  cases stack with
  | nil => exact ⟨none, rest, takes_ok rfl rfl, h⟩
  | cons f fs =>
      obtain ⟨next, t, ⟨le, hnext⟩, hresumes⟩ := h
      refine ⟨next, t, ?_, hresumes⟩
      dsimp only
      rw [hnext]
      exact takes_ok rfl rfl

/-- What the first octet of a value leads to. -/
def opened (b : UInt8) (stack : List Bracket) (rest : List UInt8) :
    Except Fault (Taken (Option (Bracket × List Bracket)) rest) :=
  if b == 91 then closeOpen false .array stack rest
  else if b == 123 then closeOpen false .object stack rest
  else
    match skipScalar b rest with
    | .error e => .error e
    | .ok r =>
        match stack with
        | [] => .ok ⟨none, r.rest, r.le⟩
        | f :: fs => (closeOpen true f fs r.rest).map (·.widen r.le)

/-- A value is passed over when what its first octet leads to is. -/
theorem takes_skipIn (hw : Blank w) (hb : isSpace b = false)
    (h : Takes (opened b stack rest) next more) (hresumes : Resumes next more u) :
    Takes (skipIn stack (w ++ b :: rest)) () u := by
  obtain ⟨lt, hsees⟩ : Sees (w ++ b :: rest) b rest := sees_blank hw hb
  obtain ⟨le, h⟩ := h
  rw [skipIn.eq_def, hsees]
  dsimp only
  split
  · rename_i heq
    cases h.symm.trans heq
  · rename_i heq
    cases h.symm.trans heq
    obtain rfl : u = more := hresumes
    exact takes_ok rfl rfl
  · rename_i outer _ _ heq
    cases h.symm.trans heq
    obtain ⟨_, hskip⟩ : Takes (skipIn (.array :: outer) more) () u := hresumes
    rw [hskip]
    exact takes_ok rfl rfl
  · rename_i outer _ _ heq
    cases h.symm.trans heq
    obtain ⟨t, ⟨_, hkey⟩, ⟨_, hskip⟩⟩ := hresumes
    rw [hkey]
    dsimp only
    rw [hskip]
    exact takes_ok rfl rfl

end Brackets

section Values

variable {α : Type} {P Q : List UInt8 → α → Prop} {frame : Bracket} {stack : List Bracket}
  {vs : List α} {v : Json}

/-- What is passed over inside any brackets that are still open. -/
structure Skips (P : List UInt8 → α → Prop) : Prop where
  opens : ∀ {text v}, P text v → ∃ b more, text = b :: more ∧ Opens b
  skips : ∀ {text v stack w rest u}, P text v → Blank w → EndsNumber rest → After stack rest u →
    Takes (skipIn stack (w ++ (text ++ rest))) () u

/-- An item or member is passed over inside its brackets when what follows it can be done. -/
structure SkipsIn (frame : Bracket) (Q : List UInt8 → α → Prop) : Prop where
  opens : ∀ {text v}, Q text v → ∃ b more, text = b :: more ∧ Opens b
  skips : ∀ {text v stack w rest u}, Q text v → Blank w → EndsNumber rest →
    After (frame :: stack) rest u → Resumes (some (frame, stack)) (w ++ (text ++ rest)) u

theorem Bracket.endsNumber (hw : Blank w) : EndsNumber (w ++ Bracket.closer frame :: rest) :=
  endsNumber_blank hw (by cases frame <;> simp [Bracket.closer])

/-- Items are passed over up to their bracket, from the first octet of the first one on. -/
theorem resumes_items (hQ : SkipsIn frame Q) (h : Items Q text vs) (hne : vs ≠ [])
    (hafter : After stack rest u) :
    ∃ w tail, Blank w ∧ text = w ++ tail ∧ (∃ b more, tail = b :: more ∧ Opens b) ∧
      ∀ w', Blank w' →
        Resumes (some (frame, stack)) (w' ++ (tail ++ frame.closer :: rest)) u := by
  induction h with
  | none => exact absurd rfl hne
  | @one w t w'' v hw hv hw'' =>
      obtain ⟨b, more, rfl, hb⟩ := hQ.opens hv
      refine ⟨w, _, hw, rfl, ⟨b, more ++ w'', rfl, hb⟩, fun w' hw' => ?_⟩
      rw [List.append_assoc]
      exact hQ.skips hv hw' (Bracket.endsNumber hw'') (closeOpen_close true hw'' hafter)
  | @more w t w'' rest' v vs hw hv hw'' hrest hvs ih =>
      obtain ⟨b, more, rfl, hb⟩ := hQ.opens hv
      obtain ⟨front, tail, hfront, rfl, -, hresumes⟩ := ih hvs
      refine ⟨w, _, hw, rfl, ⟨b, _, rfl, hb⟩, fun w' hw' => ?_⟩
      have hnext := hresumes front hfront
      simp only [List.append_assoc, List.cons_append] at hnext ⊢
      exact hQ.skips hv hw' (endsNumber_blank hw'' (.inl rfl))
        ⟨some (frame, stack), _, closeOpen_comma hw'', hnext⟩

/-- What stands between brackets is passed over with the bracket that closes them. -/
theorem closeOpen_items (hQ : SkipsIn frame Q) (h : Items Q text vs) (hafter : After stack rest u) :
    ∃ next t, Takes (closeOpen false frame stack (text ++ frame.closer :: rest)) next t ∧
      Resumes next t u := by
  cases vs with
  | nil =>
      cases h with
      | none hw => exact closeOpen_close false hw hafter
  | cons v vs =>
      obtain ⟨w, tail, hw, rfl, ⟨b, more, rfl, hb⟩, hresumes⟩ := resumes_items hQ h nofun hafter
      refine ⟨some (frame, stack), _, ?_, hresumes [] nofun⟩
      rw [List.append_assoc]
      exact closeOpen_value hw hb

theorem Skips.items (hP : Skips P) : SkipsIn .array P :=
  ⟨hP.opens, hP.skips⟩

theorem takes_skipKey {key w' : List UInt8} {cs : List Char} (hkey : SpellsText key cs)
    (hw : Blank w) (hw' : Blank w') :
    Takes (skipKey (w ++ (quotedText key ++ (w' ++ 58 :: rest)))) () rest := by
  obtain ⟨lt, hsees⟩ : Sees (w ++ 34 :: (key ++ 34 :: (w' ++ 58 :: rest))) 34
      (key ++ 34 :: (w' ++ 58 :: rest)) := sees_blank hw (by decide)
  rw [quotedText_append]
  unfold skipKey
  rw [hsees]
  dsimp only
  rw [if_pos (by decide)]
  refine (takes_skipString hkey).bind fun _ => ?_
  exact (takes_next (takes_readColon hw')).bind fun _ => takes_ok rfl rfl

theorem Skips.members (hP : Skips P) : SkipsIn .object (MemberText P) := by
  refine ⟨fun h => ?_, fun h hw hrest hafter => ?_⟩
  · obtain ⟨-, -, -, -⟩ := h
    exact ⟨_, _, rfl, by decide, by decide, by decide, by decide⟩
  · obtain ⟨hkey, hu, hu', hv⟩ := h
    rename_i rest u key w' w'' t name v
    have hspelled : quotedText key ++ (w' ++ 58 :: (w'' ++ t)) ++ rest =
        quotedText key ++ (w' ++ 58 :: (w'' ++ (t ++ rest))) := by simp
    rw [hspelled]
    exact ⟨_, takes_skipKey hkey hw hu, hP.skips hv hu' hrest hafter⟩

end Values

section Spelled

variable {arrange : List Member → List Member} {stack : List Bracket} {v : Json}

theorem skips_scalar : Skips Scalar := by
  refine ⟨Scalar.opens, fun h hw hrest hafter => ?_⟩
  rename_i text v stack w rest u
  obtain ⟨b, more, rfl, hb, hbracket, hbrace, ⟨le, hskip⟩⟩ := h.takes_skip hrest
  have hopened : ∃ next t, Takes (opened b stack (more ++ rest)) next t ∧ Resumes next t u := by
    unfold opened
    rw [if_neg (by simpa using hbracket), if_neg (by simpa using hbrace), hskip]
    cases stack with
    | nil => exact ⟨none, rest, takes_ok rfl rfl, hafter⟩
    | cons f fs =>
        obtain ⟨next, t, hnext, hresumes⟩ := hafter
        exact ⟨next, t, hnext.of_value fun _ => ⟨rfl, rfl⟩, hresumes⟩
  obtain ⟨next, t, hnext, hresumes⟩ := hopened
  exact takes_skipIn hw hb.notSpace hnext hresumes

/-- Values of any depth are passed over. -/
theorem skips_spells (arrange : List Member → List Member) (depth : Nat) :
    Skips (Spells arrange depth) := by
  induction depth with
  | zero => exact skips_scalar
  | succ d ih =>
      refine ⟨(reads_readValue arrange (d + 1)).opens, fun h hw hrest hafter => ?_⟩
      cases h with
      | scalar h => exact skips_scalar.skips h hw hrest hafter
      | array h =>
          obtain ⟨next, t, hnext, hresumes⟩ := closeOpen_items ih.items h hafter
          rw [List.cons_append, List.append_assoc]
          exact takes_skipIn hw (by decide) hnext hresumes
      | object h =>
          obtain ⟨next, t, hnext, hresumes⟩ := closeOpen_items ih.members h hafter
          rw [List.cons_append, List.append_assoc]
          exact takes_skipIn hw (by decide) hnext hresumes

/-- Passing over a value takes exactly the value. -/
theorem takes_skipValue {depth : Nat} (h : Spells arrange depth text v) (hw : Blank w)
    (hrest : EndsNumber rest) : Takes (skipValue (w ++ (text ++ rest))) () rest :=
  (skips_spells arrange depth).skips h hw hrest rfl

end Spelled

end Json
end EntityTrust
