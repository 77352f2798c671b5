import EntityTrust.Json.Streamed
import EntityTrust.Proofs.Json.Records
import EntityTrust.Proofs.Json.Skipping

/-!
# Records read from what spells them

An object that spells the members of a record is read as the record, whatever the order of the
members and whatever else it holds.

**Members.**  `Accepts` says that the reader of a member takes every text of a value as the value.
`Streams` says that this is so of all values that pass the rule of the member, and that the readers
have the names of the rules.

**Invariant.**  The members read so far are the named ones of those that were passed, and the names
of the rules that they were checked by.

**Results.**
* `accepts_text`, `accepts_list`, `accepts_case`, `accepts_checked`, `accepts_optional`: the readers
  of members.
* `Streams.runs`: what is left of members that pass the rules are the named ones.
* `takes_readStreamed`: a record is read from every text of its members.
-/

namespace EntityTrust
namespace Json

variable {arrange : List Member → List Member} {depth : Nat} {text rest : List UInt8} {v : Json}

section Values

/-- Only the text of `null` begins with its first letter. -/
theorem Spells.begins (h : Spells arrange depth text v) :
    ∃ b more, text = b :: more ∧ Opens b ∧ (b = 110 → v = .null) := by
  have hscalar {v : Json} (h : Scalar text v) :
      ∃ b more, text = b :: more ∧ Opens b ∧ (b = 110 → v = .null) := by
    obtain ⟨b, more, hb, hopens⟩ := h.opens
    refine ⟨b, more, hb, hopens, ?_⟩
    rintro rfl
    cases h with
    | null => rfl
    | yes | no | string => cases hb
    | @integer n =>
        cases n with
        | ofNat n =>
            have hdigit : IsDigit 110 := isDigit_digits n 110 (by rw [← numeral, hb]; simp)
            exact absurd hdigit (by unfold IsDigit; decide)
        | negSucc n => cases hb
  cases depth with
  | zero => exact hscalar h
  | succ depth =>
      cases h with
      | scalar h => exact hscalar h
      | array | object =>
          exact ⟨_, _, rfl, ⟨by decide, by decide, by decide, by decide⟩, fun h => nomatch h⟩

theorem Spells.eq_null (h : Spells arrange depth text .null) : text = [110, 117, 108, 108] := by
  cases depth with
  | zero =>
      cases h
      rfl
  | succ depth =>
      cases h with
      | scalar h =>
          cases h
          rfl

theorem Spells.eq_string {s : String} (h : Spells arrange depth text (.string s)) :
    ∃ t, text = quotedText t ∧ SpellsText t s.toList := by
  cases depth with
  | zero =>
      cases h with
      | string h => exact ⟨_, rfl, h⟩
  | succ depth =>
      cases h with
      | scalar h =>
          cases h with
          | string h => exact ⟨_, rfl, h⟩

theorem Spells.eq_array {vs : List Json} (h : Spells arrange (depth + 1) text (.array vs)) :
    ∃ t, text = 91 :: (t ++ [93]) ∧ Items (Spells arrange depth) t vs := by
  cases h with
  | scalar h => cases h
  | array h => exact ⟨_, rfl, h⟩

theorem Spells.eq_object {ms : List Member} (h : Spells id (depth + 1) text (.object ms)) :
    ∃ t, text = 123 :: (t ++ [125]) ∧ Items (MemberText (Spells id depth)) t ms := by
  generalize hv : Json.object ms = v at h
  cases h with
  | scalar h =>
      subst hv
      cases h
  | array => cases hv
  | object h =>
      cases hv
      exact ⟨_, rfl, h⟩

end Values

section Readers

variable {read : Reader Json} {cases : List String} {w : List UInt8}

/-- A reader takes every text of a value as the value. -/
def Accepts (read : Reader Json) (depth : Nat) (v : Json) : Prop :=
  ∀ ⦃w text rest⦄, Blank w → Spells id depth text v → EndsNumber rest →
    Takes (read (w ++ (text ++ rest))) v rest

theorem accepts_text (depth : Nat) (s : String) : Accepts readText depth (.string s) := by
  intro w text rest hw h _
  obtain ⟨t, rfl, ht⟩ := h.eq_string
  obtain ⟨lt, hsees⟩ : Sees (w ++ 34 :: (t ++ 34 :: rest)) 34 (t ++ 34 :: rest) :=
    sees_blank hw (by decide)
  rw [quotedText_append]
  unfold readText
  rw [hsees]
  exact (takes_readString ht).bind fun _ => takes_ok rfl rfl

theorem accepts_optional_null (read : Reader Json) (depth : Nat) :
    Accepts (readOptional read) depth .null := by
  intro w text rest hw h _
  obtain rfl := h.eq_null
  obtain ⟨lt, hsees⟩ : Sees (w ++ 110 :: ([117, 108, 108] ++ rest)) 110 ([117, 108, 108] ++ rest) :=
    sees_blank hw (by decide)
  rw [List.cons_append]
  unfold readOptional
  rw [hsees]
  exact (takes_readName [117, 108, 108]).bind fun _ => takes_ok rfl rfl

/-- A value that is not `null` is left to the reader behind. -/
theorem accepts_optional (h : Accepts read depth v) (hv : v ≠ .null) :
    Accepts (readOptional read) depth v := by
  intro w text rest hw htext hrest
  have htakes := h hw htext hrest
  obtain ⟨b, more, rfl, hb, hnull⟩ := htext.begins
  have hfirst : b ≠ 110 := fun h => hv (hnull h)
  obtain ⟨lt, hsees⟩ : Sees (w ++ b :: (more ++ rest)) b (more ++ rest) :=
    sees_blank hw hb.notSpace
  rw [List.cons_append] at htakes ⊢
  unfold readOptional
  rw [hsees]
  split
  · rename_i heq
    cases heq
    exact absurd rfl hfirst
  · exact htakes

/-- A member that may be `null` is read when it is `null` or passes its typed reading. -/
theorem accepts_nullable {α : Type} {check : As α} {o : Option α}
    (haccepts : ∀ {v a}, check v = .ok a → Accepts read depth v)
    (h : optional check v = .ok o) : Accepts (readOptional read) depth v := by
  by_cases hv : v = .null
  · subst hv
    exact accepts_optional_null read depth
  · rw [optional_of_ne_null hv] at h
    obtain ⟨a, ha, -⟩ := Outcome.map_eq_ok.mp h
    exact accepts_optional (haccepts ha) hv

/-- The name of a case is read as a string. -/
theorem accepts_case {s : String} (hs : s ∈ cases) (d depth : Nat) :
    Accepts (readCase cases d) depth (.string s) := by
  intro w text rest hw h _
  obtain ⟨t, rfl, ht⟩ := h.eq_string
  obtain ⟨lt, hsees⟩ : Sees (w ++ 34 :: (t ++ 34 :: rest)) 34 (t ++ 34 :: rest) :=
    sees_blank hw (by decide)
  rw [quotedText_append]
  unfold readCase
  rw [hsees]
  refine (takes_readString ht).bind fun _ => ?_
  dsimp only
  rw [if_pos (List.contains_iff_mem.mpr hs)]
  exact takes_ok rfl rfl

/-- An object is read as it is written, and then passes the typed reading. -/
theorem accepts_checked {α : Type} {expected : String} {check : As α} {a : α}
    {ms : List Member} (h : check (.object ms) = .ok a) (depth : Nat) :
    Accepts (readChecked 123 expected check depth) depth (.object ms) := by
  intro w text rest hw htext hrest
  have hread : Takes (readRaw depth (text ++ rest)) (.object ms) rest :=
    (reads_readValue id depth).takes blank_nil htext hrest
  obtain ⟨more, rfl⟩ : ∃ more, text = 123 :: more := by
    cases depth with
    | zero => cases htext
    | succ depth =>
        obtain ⟨t, rfl, -⟩ := htext.eq_object
        exact ⟨_, rfl⟩
  obtain ⟨lt, hsees⟩ : Sees (w ++ 123 :: (more ++ rest)) 123 (more ++ rest) :=
    sees_blank hw (by decide)
  rw [List.cons_append] at hread ⊢
  unfold readChecked
  rw [hsees]
  dsimp only
  rw [if_pos (by decide)]
  refine hread.bind fun _ => ?_
  dsimp only
  rw [h]
  exact takes_ok rfl rfl

/-- The values of a kind that a reader accepts. -/
theorem reads_accepted {Q : Json → Prop} (h : ∀ v, Q v → Accepts read depth v) :
    Reads read fun text v => Spells id depth text v ∧ Q v where
  opens h := by
    obtain ⟨b, more, heq, hb, -⟩ := h.1.begins
    exact ⟨b, more, heq, hb⟩
  takes hw h' hrest := h _ h'.2 hw h'.1 hrest

theorem Items.of_mem {α : Type} {P Q : List UInt8 → α → Prop} {vs : List α}
    (h : Items P text vs) (hQ : ∀ text, ∀ v ∈ vs, P text v → Q text v) : Items Q text vs := by
  induction h with
  | none hw => exact .none hw
  | one hw hv hw' => exact .one hw (hQ _ _ List.mem_cons_self hv) hw'
  | more hw hv hw' _ hne ih =>
      exact .more hw (hQ _ _ List.mem_cons_self hv) hw'
        (ih fun text v hv => hQ text v (List.mem_cons_of_mem _ hv)) hne

/-- An array is read when its items are. -/
theorem accepts_list {vs : List Json} (h : ∀ v ∈ vs, ∀ depth, Accepts read depth v) (depth : Nat) :
    Accepts (readList read depth) depth (.array vs) := by
  intro w text rest hw htext _
  cases depth with
  | zero => cases htext
  | succ depth =>
      obtain ⟨t, rfl, hitems⟩ := htext.eq_array
      have haccepted := reads_accepted fun v hv => h v hv depth
      have hread : Takes (readItems read true 0 (t ++ 93 :: rest)) vs (93 :: rest) :=
        takes_readItems haccepted (hitems.of_mem fun _ _ hv ht => ⟨ht, hv⟩) 0 rfl nofun
      obtain ⟨lt, hsees⟩ : Sees (w ++ 91 :: (t ++ 93 :: rest)) 91 (t ++ 93 :: rest) :=
        sees_blank hw (by decide)
      rw [List.cons_append, List.append_assoc, List.singleton_append]
      unfold readList
      rw [hsees]
      refine hread.bind fun _ => ?_
      exact (takes_closing closeArray_bracket).bind fun _ => takes_ok rfl rfl

/-- Passing over any value that is spelled. -/
theorem reads_skipValue (depth : Nat) :
    Reads skipValue fun text _ => ∃ v, Spells id depth text v where
  opens h := by
    obtain ⟨v, h⟩ := h
    exact (reads_readValue id depth).opens h
  takes hw h hrest := by
    obtain ⟨v, h⟩ := h
    exact takes_skipValue h hw hrest

end Readers

namespace Record

variable {α β : Type} {r : Record α} {ms ms' : List Member}

/-- What a description builds depends only on what its rules find. -/
class Local (r : Record α) : Prop where
  congr : ∀ {ms ms'}, (∀ rule ∈ r.rules, find? rule ms = find? rule ms') →
    r.ofMembers ms = r.ofMembers ms'

instance (a : α) : Local (pure a : Record α) where
  congr _ := rfl

instance (f : Record (α → β)) (x : Record α) [hf : Local f] [hx : Local x] : Local (f <*> x) where
  congr {ms ms'} h := by
    have hfirst := hf.congr fun rule hrule => h rule (List.mem_append_left _ hrule)
    have hsecond := hx.congr fun rule hrule => h rule (List.mem_append_right _ hrule)
    show (f.ofMembers ms >>= fun g => x.ofMembers ms >>= fun a => pure (g a)) =
      (f.ofMembers ms' >>= fun g => x.ofMembers ms' >>= fun a => pure (g a))
    rw [hfirst, hsecond]

instance (f : α → β) (x : Record α) [Local x] : Local (f <$> x) :=
  inferInstanceAs (Local ((pure f : Record (α → β)) <*> x))

instance (name : String) (aliases : List String) (read : As α) (absent short : Option α) :
    Local (member name aliases read absent short) where
  congr h := by
    rw [ofMembers_member_eq, ofMembers_member_eq, ← h (ruleOf name aliases read)
      List.mem_cons_self]

instance (name : String) (read : As α) : Local (required name read) :=
  inferInstanceAs (Local (member ..))

instance (name : String) (read : As α) : Local (nullable name read) :=
  inferInstanceAs (Local (member ..))

/-- Whether some rule covers a member. -/
def known (rules : List Rule) (m : Member) : Bool :=
  rules.any (·.covers m.1)

theorem known_of_find? {rules : List Rule} {rule : Rule} {m : Member}
    (h : rules.find? (·.covers m.1) = some rule) : known rules m = true :=
  List.any_eq_true.mpr ⟨rule, List.mem_of_find?_eq_some h, by simpa using List.find?_some h⟩

theorem not_known_of_find? {rules : List Rule} {m : Member}
    (h : rules.find? (·.covers m.1) = none) : ¬ known rules m = true := by
  simpa [known] using h

theorem find?_filter {rule : Rule} {p : Member → Bool}
    (h : ∀ m, rule.covers m.1 = true → p m = true) :
    find? rule (ms.filter p) = find? rule ms := by
  induction ms with
  | nil => rfl
  | cons m ms ih =>
      by_cases hcovers : rule.covers m.1 = true
      · rw [List.filter_cons_of_pos (h m hcovers), find?, find?, if_pos hcovers, if_pos hcovers]
      · have hskip : find? rule (m :: ms) = find? rule ms := by rw [find?, if_neg hcovers]
        rw [hskip, ← ih]
        by_cases hp : p m = true
        · rw [List.filter_cons_of_pos hp, find?, if_neg hcovers]
        · rw [List.filter_cons_of_neg hp]

theorem check_filter (rules : List Rule) (seen : List String) (ms : List Member) :
    check rules seen (ms.filter (known rules)) = check rules seen ms := by
  induction ms generalizing seen with
  | nil => rfl
  | cons m ms ih =>
      cases hfind : rules.find? (·.covers m.1) with
      | none =>
          rw [List.filter_cons_of_neg (not_known_of_find? hfind), ih,
            check.eq_def rules seen (m :: ms)]
          dsimp only
          rw [hfind]
      | some rule =>
          rw [List.filter_cons_of_pos (known_of_find? hfind), check.eq_def,
            check.eq_def rules seen (m :: ms)]
          dsimp only
          rw [hfind]
          dsimp only
          simp only [ih]

/-- Members without a rule have no part in a record. -/
theorem readMembers_filter [hr : Local r] (ms : List Member) :
    r.readMembers (ms.filter (known r.rules)) = r.readMembers ms := by
  have hbuild : r.ofMembers (ms.filter (known r.rules)) = r.ofMembers ms :=
    hr.congr fun rule hrule => find?_filter fun m hm => List.any_eq_true.mpr ⟨rule, hrule, hm⟩
  rw [readMembers, readMembers, check_filter, hbuild]

end Record

section Members

variable {fields : StreamedMembers} {acc acc' ms : List Member} {m : Member} {rules : List Rule}
  {rule : Rule} {seen : List String}

/-- What a member adds to the members that have been read. -/
def Adds (fields : StreamedMembers) (depth : Nat) (acc : List Member) (m : Member)
    (acc' : List Member) : Prop :=
  match fields.lookup m.1 with
  | none => acc' = acc
  | some read =>
      acc.any (·.1 == m.1) = false ∧ Accepts (read depth) depth m.2 ∧ acc' = m :: acc

theorem steps_readMember (fields : StreamedMembers) (depth : Nat) :
    Steps (readMember fields depth) (Spells id depth) (Adds fields depth) := by
  constructor
  intro acc acc' name v w w' text rest hadds hw hw' h hrest
  unfold Adds at hadds
  unfold readMember
  cases hread : fields.lookup name with
  | none =>
      rw [hread] at hadds
      obtain rfl : acc' = acc := hadds
      have hskip : Takes (readMemberValue name skipValue (w ++ 58 :: (w' ++ (text ++ rest)))) ()
          rest := takes_readMemberValue (reads_skipValue depth) hw hw' ⟨v, h⟩ hrest
      exact hskip.bind fun _ => takes_ok rfl rfl
  | some read =>
      rw [hread] at hadds
      obtain ⟨hfresh, haccepts, rfl⟩ := hadds
      have hvalue : Takes (readMemberValue name (read depth) (w ++ 58 :: (w' ++ (text ++ rest)))) v
          rest :=
        takes_readMemberValue (reads_accepted (Q := fun x => x = v) fun x hx => hx ▸ haccepts)
          hw hw' ⟨h, rfl⟩ hrest
      dsimp only
      rw [if_neg (by simp [hfresh])]
      exact hvalue.bind fun _ => takes_ok rfl rfl

/-- The reader of a member has the name of its rule, and accepts the admitted values that pass. -/
structure Suits (admits : String → Json → Prop) (depth : Nat) (field : String × (Nat → Reader Json))
    (rule : Rule) : Prop where
  name : rule.name = field.1
  free : rule.aliases = []
  accepts : ∀ {v}, admits field.1 v → rule.check v = .ok () → Accepts (field.2 depth) depth v

/-- The readers of members go with the rules of a record. -/
def Streams (admits : String → Json → Prop) (depth : Nat) (fields : StreamedMembers)
    (rules : List Rule) : Prop :=
  List.Forall₂ (Suits admits depth) fields rules

variable {admits : String → Json → Prop}

theorem Suits.covers {field : String × (Nat → Reader Json)} (h : Suits admits depth field rule)
    (name : String) : rule.covers name = (field.1 == name) := by
  simp [Rule.covers, h.free, h.name]

theorem Streams.unnamed {name : String} (hs : Streams admits depth fields rules)
    (h : rules.find? (·.covers name) = none) : fields.lookup name = none := by
  induction hs with
  | nil => rfl
  | @cons f rule fields rules hf _ ih =>
      obtain ⟨hhead, htail⟩ := List.forall_mem_cons.mp (List.find?_eq_none.mp h)
      have hname : (name == f.1) = false := by
        rw [BEq.comm, ← hf.covers]
        simpa using hhead
      rw [List.lookup_cons, hname]
      exact ih (List.find?_eq_none.mpr htail)

theorem Streams.named {name : String} (hs : Streams admits depth fields rules)
    (h : rules.find? (·.covers name) = some rule) :
    ∃ read, fields.lookup name = some read ∧ Suits admits depth (name, read) rule := by
  induction hs with
  | nil => cases h
  | @cons f rule' fields rules hf _ ih =>
      by_cases hcovers : rule'.covers name = true
      · rw [List.find?_cons_of_pos (by simpa using hcovers)] at h
        obtain rfl := Option.some.inj h
        obtain rfl : f.1 = name := by simpa [hf.covers] using hcovers
        exact ⟨f.2, List.lookup_cons_self, hf⟩
      · rw [List.find?_cons_of_neg (by simpa using hcovers)] at h
        have hname : (name == f.1) = false := by
          rw [BEq.comm, ← hf.covers]
          simpa using hcovers
        rw [List.lookup_cons, hname]
        exact ih h

/-- A member that passes has not come before and passes its rule. -/
theorem passes_of_check (h : Record.check rules seen ms = .ok ()) (hm : m ∈ ms)
    (hrule : rules.find? (·.covers m.1) = some rule) :
    rule.name ∉ seen ∧ rule.check m.2 = .ok () := by
  induction ms generalizing seen with
  | nil => cases hm
  | cons d ms ih =>
      obtain ⟨k, v⟩ := d
      rw [Record.check.eq_def] at h
      dsimp only at h
      split at h
      · rename_i hnone
        obtain rfl | hm := List.mem_cons.mp hm
        · cases hnone.symm.trans hrule
        · exact ih h hm
      · rename_i r hr
        split at h
        · cases h
        · rename_i hseen
          split at h
          · cases h
          · rename_i hcheck
            obtain rfl | hm := List.mem_cons.mp hm
            · obtain rfl := Option.some.inj (hr.symm.trans hrule)
              exact ⟨by simpa using hseen, hcheck⟩
            · obtain ⟨hfresh, hpasses⟩ := ih h hm
              exact ⟨fun hmem => hfresh (List.mem_cons_of_mem _ hmem), hpasses⟩

/-- What is left of members that pass the rules are the named ones, the last one first. -/
theorem Streams.runs (hs : Streams admits depth fields rules) (hms : ∀ m ∈ ms, admits m.1 m.2)
    (h : Record.check rules seen ms = .ok ()) (hseen : ∀ m ∈ acc, m.1 ∈ seen) :
    Runs (Adds fields depth) acc ms
      ((ms.filter (Record.known rules)).reverse ++ acc) := by
  induction ms generalizing seen acc with
  | nil => rfl
  | cons m ms ih =>
      obtain ⟨hm, hms⟩ := List.forall_mem_cons.mp hms
      have hpasses {rule : Rule} (hrule : rules.find? (·.covers m.1) = some rule) :
          rule.name ∉ seen ∧ rule.check m.2 = .ok () :=
        passes_of_check h List.mem_cons_self hrule
      rw [Record.check.eq_def] at h
      dsimp only at h
      cases hfind : rules.find? (·.covers m.1) with
      | none =>
          rw [hfind] at h
          rw [List.filter_cons_of_neg (Record.not_known_of_find? hfind)]
          exact ⟨acc, by rw [Adds, hs.unnamed hfind], ih hms h hseen⟩
      | some rule =>
          obtain ⟨read, hread, hsuits⟩ := hs.named hfind
          obtain ⟨hfresh, hcheck⟩ := hpasses hfind
          have hnew : acc.any (·.1 == m.1) = false := by
            rw [List.any_eq_false]
            intro d hd heq
            have hsame : d.1 = m.1 := by simpa using heq
            exact hfresh (hsuits.name ▸ hsame ▸ hseen d hd)
          rw [hfind] at h
          dsimp only at h
          rw [if_neg (by simpa using hfresh), hcheck] at h
          rw [List.filter_cons_of_pos (Record.known_of_find? hfind), List.reverse_cons,
            List.append_assoc]
          refine ⟨m :: acc, by rw [Adds, hread]; exact ⟨hnew, hsuits.accepts hm hcheck, rfl⟩, ?_⟩
          refine ih hms h fun d hd => ?_
          obtain rfl | hd := List.mem_cons.mp hd
          · exact hsuits.name ▸ List.mem_cons_self
          · exact List.mem_cons_of_mem _ (hseen d hd)

end Members

section Records

variable {α : Type} {fields : StreamedMembers} {record : Record α} {ms : List Member} {a : α}
  {w : List UInt8} {admits : String → Json → Prop}

/-- A record is read from every text of its members. -/
theorem takes_readStreamed [Record.Local record] {type : String}
    (hs : Streams admits depth fields record.rules)
    (h : Spells id (depth + 1) text (.object ms)) (hms : ∀ m ∈ ms, admits m.1 m.2)
    (hread : record.readMembers ms = .ok a) (hw : Blank w) :
    Takes (readStreamed type fields record (depth + 1) (w ++ (text ++ rest))) a rest := by
  obtain ⟨t, rfl, hitems⟩ := h.eq_object
  obtain ⟨_, hcheck, -⟩ := Outcome.bind_eq_ok.mp hread
  have hmembers : Takes (foldMembers (readMember fields depth) [] true (t ++ 125 :: rest))
      ((ms.filter (Record.known record.rules)).reverse ++ []) (125 :: rest) :=
    takes_foldMembers (steps_readMember fields depth) hitems (hs.runs hms hcheck nofun) rfl nofun
  have hbuilt : record.readMembers
      ((ms.filter (Record.known record.rules)).reverse ++ []).reverse = .ok a := by
    rw [List.append_nil, List.reverse_reverse, Record.readMembers_filter, hread]
  obtain ⟨lt, hsees⟩ : Sees (w ++ 123 :: (t ++ 125 :: rest)) 123 (t ++ 125 :: rest) :=
    sees_blank hw (by decide)
  rw [List.cons_append, List.append_assoc, List.singleton_append]
  unfold readStreamed
  rw [hsees]
  dsimp only
  rw [if_pos (by decide)]
  refine hmembers.bind fun _ => ?_
  dsimp only
  rw [hbuilt]
  exact (takes_closing closeObject_brace).bind fun _ => takes_ok rfl rfl

end Records

end Json
end EntityTrust
