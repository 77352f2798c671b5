import EntityTrust.Proofs.Json.Fields

/-!
# Records that are read again

The law of `Lossless` for records, from that for their members.

**Descriptions.**  `Regular` is what every description of a record has that is put together from
members: what it builds has passed its checks, and of an array it takes an item for each of them.

**Readings.**  `Gives` says that a description gives a record, be it from an object or from an
array.  `Kept` says that the written value of a member, or its absence, is read as the member again;
it is the invariant that goes with a member from the one reading to the other.

**Results.**
* `readMembers_of_ofMembers`: what is built from sorted members passes all checks.
* `Gives.seq`, `Gives.required` and so on: what a description gives, it gives by its members.
* `Keeps.returns`: a record is read again when its members are kept.
-/

namespace EntityTrust
namespace Json
namespace Record

variable {α β : Type} {r : Record α} {ms : List Member}

/-- A description that builds only what it has checked. -/
class Regular (r : Record α) : Prop where
  rest_eq : ∀ {short i items a rest}, r.ofItems short i items = .ok (a, rest) →
    rest = items.drop r.rules.length
  checked : ∀ {ms a}, r.ofMembers ms = .ok a →
    ∀ rule ∈ r.rules, ∀ v, find? rule ms = some v → rule.check v = .ok ()

section Regular

theorem ofItems_seq_eq_ok {f : Record (α → β)} {x : Record α} {short : Nat → Issue} {i : Nat}
    {items rest : List Json} {b : β} :
    (f <*> x).ofItems short i items = .ok (b, rest) ↔
      ∃ g middle a, f.ofItems short i items = .ok (g, middle) ∧
        x.ofItems short (i + f.rules.length) middle = .ok (a, rest) ∧ g a = b := by
  show (f.ofItems short i items >>= fun p =>
    x.ofItems short (i + f.rules.length) p.2 >>= fun q => pure (p.1 q.1, q.2)) = .ok (b, rest) ↔ _
  simp only [Outcome.bind_eq_ok, Prod.exists]
  constructor
  · rintro ⟨g, middle, hf, a, rest', hx, heq⟩
    cases heq
    exact ⟨g, middle, a, hf, hx, rfl⟩
  · rintro ⟨g, middle, a, hf, hx, rfl⟩
    exact ⟨g, middle, hf, a, rest, hx, rfl⟩

instance (a : α) : Regular (pure a : Record α) where
  rest_eq h := by
    cases h
    rfl
  checked _ rule hrule := nomatch hrule

instance (f : Record (α → β)) (x : Record α) [hf : Regular f] [hx : Regular x] :
    Regular (f <*> x) where
  rest_eq {short i items b rest} h := by
    obtain ⟨g, middle, a, hg, ha, -⟩ := ofItems_seq_eq_ok.mp h
    show rest = items.drop (f.rules ++ x.rules).length
    rw [hx.rest_eq ha, hf.rest_eq hg, List.drop_drop, List.length_append]
  checked h rule hrule := by
    obtain ⟨g, a, hg, ha, -⟩ := ofMembers_seq_eq_ok.mp h
    obtain hrule | hrule := List.mem_append.mp hrule
    · exact hf.checked hg rule hrule
    · exact hx.checked ha rule hrule

instance (f : α → β) (x : Record α) [Regular x] : Regular (f <$> x) :=
  inferInstanceAs (Regular ((pure f : Record (α → β)) <*> x))

/-- A member is read from the first item, or its absence is. -/
theorem ofItems_member_cases {name : String} {aliases : List String} {read : As α}
    {absent short : Option α} {tooShort : Nat → Issue} {i : Nat} {items rest : List Json} {a : α} :
    (member name aliases read absent short).ofItems tooShort i items = .ok (a, rest) ↔
      (∃ v, items = v :: rest ∧ read v = .ok a) ∨ items = [] ∧ rest = [] ∧ short = some a := by
  cases items with
  | nil => cases short <;> simp [member, and_comm, eq_comm]
  | cons v vs =>
      simp only [member, Outcome.map_eq_ok, Prod.mk.injEq, List.cons.injEq, reduceCtorEq,
        false_and, or_false]
      constructor
      · rintro ⟨a', ha, rfl, rfl⟩
        exact ⟨v, ⟨rfl, rfl⟩, ha⟩
      · rintro ⟨v', ⟨rfl, rfl⟩, ha⟩
        exact ⟨a, ha, rfl, rfl⟩

/-- The rule of a member. -/
def ruleOf (name : String) (aliases : List String) (read : As α) : Rule :=
  ⟨name, aliases, fun v => (read v).map fun _ => ()⟩

theorem ofMembers_member_eq {name : String} {aliases : List String} {read : As α}
    {absent short : Option α} :
    (member name aliases read absent short).ofMembers ms =
      match find? (ruleOf name aliases read) ms, absent with
      | some v, _ => read v
      | none, some a => .ok a
      | none, none => .error (.missingMember name) :=
  rfl

/-- A member is read from the first value that its rule finds, or its absence is. -/
theorem ofMembers_member_cases {name : String} {aliases : List String} {read : As α}
    {absent short : Option α} {a : α} :
    (member name aliases read absent short).ofMembers ms = .ok a ↔
      (∃ v, find? (ruleOf name aliases read) ms = some v ∧ read v = .ok a) ∨
        find? (ruleOf name aliases read) ms = none ∧ absent = some a := by
  rw [ofMembers_member_eq]
  cases find? (ruleOf name aliases read) ms with
  | some v => simp
  | none => cases absent <;> simp

instance (name : String) (aliases : List String) (read : As α) (absent short : Option α) :
    Regular (member name aliases read absent short) where
  rest_eq h := by
    obtain ⟨v, rfl, -⟩ | ⟨rfl, rfl, -⟩ := ofItems_member_cases.mp h <;> rfl
  checked h rule hrule v hv := by
    obtain rfl : rule = ruleOf name aliases read := List.mem_singleton.mp hrule
    obtain ⟨v', hfound, hread⟩ | ⟨hnone, -⟩ := ofMembers_member_cases.mp h
    · obtain rfl := Option.some.inj (hv.symm.trans hfound)
      exact Outcome.map_eq_ok.mpr ⟨_, hread, rfl⟩
    · cases hv.symm.trans hnone

instance (name : String) (read : As α) : Regular (required name read) :=
  inferInstanceAs (Regular (member ..))

instance (name : String) (read : As α) : Regular (nullable name read) :=
  inferInstanceAs (Regular (member ..))

instance (name : String) (read : As α) : Regular (omittable name read) :=
  inferInstanceAs (Regular (member ..))

instance (name : String) (read : As α) (value : α) : Regular (defaulted name read value) :=
  inferInstanceAs (Regular (member ..))

instance (known : List String) : Regular (others known) where
  rest_eq h := by
    cases h
    rfl
  checked _ rule hrule := nomatch hrule

end Regular

section Checks

/-- Members of different names pass the rules when each of them passes its own. -/
theorem check_of_forall {rules : List Rule} {seen : List String}
    (hrules : ∀ m ∈ ms, ∀ rule, rules.find? (·.covers m.1) = some rule →
      rule.name = m.1 ∧ rule.check m.2 = .ok ())
    (hnodup : (namesOf ms).Nodup) (hfresh : ∀ m ∈ ms, m.1 ∉ seen) :
    check rules seen ms = .ok () := by
  induction ms generalizing seen with
  | nil => rfl
  | cons m ms ih =>
      obtain ⟨hm, hms⟩ := List.forall_mem_cons.mp hrules
      obtain ⟨hunseen, hfresh⟩ := List.forall_mem_cons.mp hfresh
      obtain ⟨hlater, hnodup⟩ := List.nodup_cons.mp hnodup
      rw [check.eq_def]
      dsimp only
      cases hfind : rules.find? (·.covers m.1) with
      | none => exact ih hms hnodup hfresh
      | some rule =>
          obtain ⟨hname, hcheck⟩ := hm rule hfind
          have hnew : ∀ d ∈ ms, d.1 ∉ rule.name :: seen := fun d hd => by
            rw [List.mem_cons, not_or]
            refine ⟨fun heq => hlater ?_, hfresh d hd⟩
            rw [← hname, ← heq]
            exact List.mem_map_of_mem (f := Prod.fst) hd
          simpa [hname ▸ hunseen, hcheck] using ih hms hnodup hnew

/-- What is built from sorted members passes all checks. -/
theorem readMembers_of_ofMembers [hr : Regular r] (hsorted : Sorted ms)
    (free : ∀ rule ∈ r.rules, ∀ m ∈ ms, m.1 ∉ rule.aliases) {a : α}
    (h : r.ofMembers ms = .ok a) : r.readMembers ms = .ok a := by
  have hcheck : check r.rules [] ms = .ok () := by
    refine check_of_forall (fun m hm rule hfind => ?_) hsorted.nodup fun m _ => List.not_mem_nil
    have hrule := List.mem_of_find?_eq_some hfind
    have hname : rule.name = m.1 := by
      simpa [Rule.covers, free rule hrule m hm] using List.find?_some hfind
    refine ⟨hname, hr.checked h rule hrule m.2 ?_⟩
    rw [find?_of_free (free rule hrule), hname]
    exact lookup_of_mem hsorted.nodup hm
  rw [readMembers, hcheck]
  exact h

theorem ofMembers_of_readMembers {a : α} (h : r.readMembers ms = .ok a) :
    r.ofMembers ms = .ok a := by
  obtain ⟨-, -, hmembers⟩ := Outcome.bind_eq_ok.mp h
  exact hmembers

end Checks

section Gives

theorem mem_of_find? {rule : Rule} {v : Json} (h : find? rule ms = some v) :
    ∃ k, (k, v) ∈ ms := by
  induction ms with
  | nil => cases h
  | cons m ms ih =>
      unfold find? at h
      split at h
      · exact ⟨m.1, Option.some.inj h ▸ List.mem_cons_self⟩
      · obtain ⟨k, hk⟩ := ih h
        exact ⟨k, List.mem_cons_of_mem _ hk⟩

/-- The value of a member, under its name in an object or at its place in an array. -/
def memberAt (name : String) (place : Nat) : Json → Option Json
  | .object ms => lookup name ms
  | .array items => items[place]?
  | _ => none

/-- A description gives a record, from the members of an object or from the items of an array that
follow a place. -/
inductive Gives (r : Record α) : Json → Nat → α → Prop
  | ofMembers {ms : List Member} {place : Nat} {a : α} (sorted : Sorted ms)
      (normal : ∀ m ∈ ms, m.2.Normal) (h : r.ofMembers ms = .ok a) : Gives r (.object ms) place a
  | ofItems {short : Nat → Issue} {i place : Nat} {items rest : List Json} {a : α}
      (normal : ∀ v ∈ items, v.Normal)
      (h : r.ofItems short i (items.drop place) = .ok (a, rest)) : Gives r (.array items) place a

variable {v : Json} {place : Nat} {a : α}

/-- What is read as a record is given by its description. -/
theorem gives_of_read {type : String} (hv : v.Normal) (h : r.read type v = .ok a) :
    Gives r v 0 a := by
  cases hv with
  | object sorted normal => exact .ofMembers sorted normal (ofMembers_of_readMembers h)
  | array normal =>
      obtain ⟨⟨a', rest⟩, hitems, hrest⟩ := Outcome.bind_eq_ok.mp h
      by_cases hempty : rest.isEmpty = true
      · simp only [hempty, if_true] at hrest
        cases hrest
        exact .ofItems normal hitems
      · simp only [hempty] at hrest
        cases hrest
  | _ => cases h

theorem gives_of_readObject {type : String} (hv : v.Normal) (h : r.readObject type v = .ok a) :
    Gives r v 0 a := by
  cases hv with
  | object sorted normal => exact .ofMembers sorted normal (ofMembers_of_readMembers h)
  | _ => cases h

theorem Gives.seq {f : Record (α → β)} {x : Record α} [hf : Regular f] {b : β}
    (h : Gives (f <*> x) v place b) :
    ∃ g a, Gives f v place g ∧ Gives x v (place + f.rules.length) a ∧ g a = b := by
  cases h with
  | ofMembers sorted normal h =>
      obtain ⟨g, a, hg, ha, hb⟩ := ofMembers_seq_eq_ok.mp h
      exact ⟨g, a, .ofMembers sorted normal hg, .ofMembers sorted normal ha, hb⟩
  | ofItems normal h =>
      obtain ⟨g, middle, a, hg, ha, hb⟩ := ofItems_seq_eq_ok.mp h
      rw [hf.rest_eq hg, List.drop_drop] at ha
      exact ⟨g, a, .ofItems normal hg, .ofItems normal ha, hb⟩

theorem Gives.map {f : α → β} {x : Record α} {b : β} (h : Gives (f <$> x) v place b) :
    ∃ a, Gives x v place a ∧ f a = b := by
  obtain ⟨g, a, hg, ha, hb⟩ := Gives.seq (f := (pure f : Record (α → β))) h
  have hf : g = f := by
    cases hg with
    | ofMembers _ _ h => cases h; rfl
    | ofItems _ h => cases h; rfl
  exact ⟨a, ha, hf ▸ hb⟩

/-- A member is read from a value, or it is one that stands in for its absence. -/
theorem Gives.member {name : String} {aliases : List String} {read : As α}
    {absent short : Option α} (h : Gives (Record.member name aliases read absent short) v place a) :
    (∃ w, w.Normal ∧ read w = .ok a) ∨ absent = some a ∨ short = some a := by
  cases h with
  | ofMembers sorted normal h =>
      obtain ⟨w, hfound, hread⟩ | ⟨-, habsent⟩ := ofMembers_member_cases.mp h
      · obtain ⟨k, hmem⟩ := mem_of_find? hfound
        exact .inl ⟨w, normal _ hmem, hread⟩
      · exact .inr (.inl habsent)
  | ofItems normal h =>
      obtain ⟨w, hdrop, hread⟩ | ⟨-, -, hshort⟩ := ofItems_member_cases.mp h
      · exact .inl ⟨w, normal w (List.mem_of_mem_drop (hdrop ▸ List.mem_cons_self)), hread⟩
      · exact .inr (.inr hshort)

/-- A member that is there is read from its value. -/
theorem Gives.memberAt {name : String} {read : As α} {absent short : Option α} {w : Json}
    (h : Gives (Record.member name [] read absent short) v place a)
    (hw : memberAt name place v = some w) : w.Normal ∧ read w = .ok a := by
  cases h with
  | ofMembers sorted normal h =>
      refine ⟨normal _ (mem_of_lookup hw), ?_⟩
      have hfind : find? (ruleOf name [] read) _ = some w :=
        (find?_eq_lookup name _ _).trans hw
      obtain ⟨w', hfound, hread⟩ | ⟨hnone, -⟩ := ofMembers_member_cases.mp h
      · obtain rfl := Option.some.inj (hfind.symm.trans hfound)
        exact hread
      · cases hfind.symm.trans hnone
  | @ofItems _ _ _ items _ _ normal h =>
      refine ⟨normal w (List.mem_of_getElem? hw), ?_⟩
      have hhead : (items.drop place).head? = some w := List.head?_drop.trans hw
      obtain ⟨w', hdrop, hread⟩ | ⟨hnil, -⟩ := ofItems_member_cases.mp h
      · rw [hdrop] at hhead
        exact Option.some.inj hhead ▸ hread
      · rw [hnil] at hhead
        cases hhead

/-- The other members are sorted, in normal form and not among the known ones. -/
theorem Gives.others {known : List String} {others : List Member}
    (h : Gives (Record.others known) v place others) :
    Sorted others ∧ (∀ m ∈ others, m.2.Normal) ∧ ∀ m ∈ others, m.1 ∉ known := by
  cases h with
  | ofMembers sorted normal h =>
      cases h
      refine ⟨sorted.filter _, fun m hm => normal m (List.mem_filter.mp hm).1, fun m hm => ?_⟩
      simpa using (List.mem_filter.mp hm).2
  | ofItems normal h =>
      cases h
      exact ⟨.nil, nofun, nofun⟩

theorem Gives.others_eq {known : List String} {others : List Member}
    (h : Gives (Record.others known) (.object ms) place others) :
    others = ms.filter fun m => !known.contains m.1 := by
  cases h with
  | ofMembers sorted normal h =>
      cases h
      rfl

end Gives

section Kept

variable {read : As α} {write : α → Json} {name : String} {aliases : List String} {v : Json}
  {place : Nat}

/-- The value that a member is written as, or its absence, is read as the member again. -/
structure Kept (read : As α) (absent : Option α) (w : Option Json) (a : α) : Prop where
  normal : ∀ v, w = some v → v.Normal
  again : ∀ v, w = some v → read v = .ok a
  left : w = none → absent = some a

theorem Kept.of_returns {absent : Option α} {a : α} (h : Returns read write a) :
    Kept read absent (some (write a)) a where
  normal _ hv := Option.some.inj hv ▸ h.normal
  again _ hv := Option.some.inj hv ▸ h.again
  left := nofun

/-- Any value of a member that may be absent is kept when values are read as they are written. -/
theorem Kept.of_option (o : Option α) (h : ∀ x, Returns read write x)
    (hnull : ∀ x, write x ≠ .null) :
    Kept (optional read) (some none) (o.map write) o := by
  cases o with
  | none => exact ⟨nofun, nofun, fun _ => rfl⟩
  | some x => exact .of_returns (.optional h hnull (some x))

/-- A member of a table is the value of its field. -/
theorem Kept.ofMembers {absent short : Option α} {w : Option Json} {a : α}
    (h : Kept read absent w a) (free : ∀ m ∈ ms, m.1 ∉ aliases) (hw : lookup name ms = w) :
    (member name aliases read absent short).ofMembers ms = .ok a := by
  have hfind : find? (ruleOf name aliases read) ms = w := (find?_of_free free).trans hw
  refine ofMembers_member_cases.mpr ?_
  cases w with
  | none => exact .inr ⟨hfind, h.left rfl⟩
  | some v => exact .inl ⟨v, hfind, h.again v rfl⟩

theorem Kept.ofTable {absent short : Option α} {w : Option Json} {a : α} {fs : Fields}
    {more : List Member} (h : Kept read absent w a) (t : Table fs more ms) (hf : (name, w) ∈ fs) :
    (member name [] read absent short).ofMembers ms = .ok a :=
  h.ofMembers (fun _ _ => List.not_mem_nil) (t.named _ hf)

theorem Gives.ofTable {known : List String} {fs : Fields} {more : List Member}
    (h : Gives (Record.others known) v place more) (t : Table fs more ms)
    (hknown : fs.map Prod.fst = known) : (Record.others known).ofMembers ms = .ok more := by
  obtain ⟨sorted, -, fresh⟩ := h.others
  exact congrArg Except.ok (t.filter_eq hknown sorted fresh)

theorem Gives.required {a : α} (h : Gives (Record.member name aliases read none none) v place a)
    (law : Lossless read write) : Kept read none (some (write a)) a := by
  obtain ⟨v, hv, hread⟩ | hnone | hnone := h.member
  · exact .of_returns (law hv hread)
  · cases hnone
  · cases hnone

/-- A member that may be absent is left out when it is. -/
theorem Gives.option {o : Option α} {short : Option (Option α)}
    (h : Gives (Record.member name aliases (optional read) (some none) short) v place o)
    (hshort : short = none ∨ short = some none) (law : Lossless read write)
    (hnull : ∀ {v x}, v ≠ .null → read v = .ok x → write x ≠ .null) :
    Kept (optional read) (some none) (o.map write) o := by
  have hkept : Returns (Json.optional read) (fun o => (o.map write).getD .null) o ∨ o = none := by
    obtain ⟨v, hv, hread⟩ | habsent | hend := h.member
    · exact .inl (law.optional hnull hv hread)
    · exact .inr (Option.some.inj habsent).symm
    · obtain rfl | rfl := hshort
      · cases hend
      · exact .inr (Option.some.inj hend).symm
  cases o with
  | none => exact ⟨nofun, nofun, fun _ => rfl⟩
  | some x =>
      obtain hreturns | hnone := hkept
      · exact .of_returns hreturns
      · cases hnone

theorem Gives.nullable {o : Option α} (h : Gives (Record.nullable name read) v place o)
    (law : Lossless read write) (hnull : ∀ x, write x ≠ .null) :
    Kept (optional read) (some none) (o.map write) o :=
  h.option (.inl rfl) law fun _ _ => hnull _

theorem Gives.omittable {o : Option α} (h : Gives (Record.omittable name read) v place o)
    (law : Lossless read write) (hnull : ∀ x, write x ≠ .null) :
    Kept (optional read) (some none) (o.map write) o :=
  h.option (.inr rfl) law fun _ _ => hnull _

/-- Any value but `null` is kept as it is. -/
theorem Gives.json {o : Option Json} (h : Gives (Record.omittable name asJson) v place o) :
    Kept (optional asJson) (some none) o o := by
  have hkept := h.option (.inr rfl) lossless_json fun hne hread => by
    cases hread
    exact hne
  rwa [Option.map_id] at hkept

/-- A collection that may be absent is left out when it is empty. -/
theorem Gives.collection {read : As (List α)} {write : List α → Json} {xs : List α}
    (h : Gives (defaulted name read []) v place xs) (law : Lossless read write) :
    Kept read (some []) (if xs = [] then none else some (write xs)) xs := by
  cases xs with
  | nil => exact ⟨nofun, nofun, fun _ => rfl⟩
  | cons x xs =>
      obtain ⟨v, hv, hread⟩ | habsent | hend := h.member
      · exact .of_returns (law hv hread)
      · cases habsent
      · cases hend

/-- A member that may be absent is written as what stands in for it. -/
theorem Gives.standIn {value a : α} (h : Gives (defaulted name read value) v place a)
    (law : Lossless read write) (hvalue : Returns read write value) :
    Kept read (some value) (some (write a)) a := by
  obtain ⟨v, hv, hread⟩ | habsent | hend := h.member
  · exact .of_returns (law hv hread)
  · cases habsent
    exact .of_returns hvalue
  · cases hend
    exact .of_returns hvalue

end Kept

section Law

variable {write : α → Json} {fs : Fields} {more : List Member} {a : α}

theorem ofMembers_seq {f : Record (α → β)} {x : Record α} {g : α → β}
    (hf : f.ofMembers ms = .ok g) (hx : x.ofMembers ms = .ok a) :
    (f <*> x).ofMembers ms = .ok (g a) :=
  ofMembers_seq_eq_ok.mpr ⟨g, a, hf, hx, rfl⟩

theorem ofMembers_map {f : α → β} {x : Record α} (hx : x.ofMembers ms = .ok a) :
    (f <$> x).ofMembers ms = .ok (f a) :=
  ofMembers_map_eq_ok.mpr ⟨a, hx, rfl⟩

/-- A record is read from every table of its fields. -/
structure Keeps (r : Record α) (fs : Fields) (more : List Member) (a : α) : Prop where
  nodup : (fs.map Prod.fst).Nodup
  free : ∀ name ∈ r.rules.flatMap Rule.aliases, name ∉ fs.map Prod.fst ∧ name ∉ namesOf more
  normal : ∀ f ∈ fs, ∀ v, f.2 = some v → v.Normal
  sorted : Sorted more
  normalMore : ∀ m ∈ more, m.2.Normal
  fresh : ∀ m ∈ more, m.1 ∉ fs.map Prod.fst
  again : ∀ {ms}, Table fs more ms → r.ofMembers ms = .ok a

theorem Keeps.readMembers [Regular r] (h : Keeps r fs more a) :
    r.readMembers (Json.ofMembers (fieldMembers fs ++ more)) = .ok a := by
  refine readMembers_of_ofMembers (sorted_ofMembers _) (fun rule hrule m hm halias => ?_)
    (h.again (table_ofMembers h.nodup h.sorted h.fresh))
  obtain ⟨hfield, hother⟩ := h.free m.1 (List.mem_flatMap.mpr ⟨rule, hrule, halias⟩)
  obtain hm | hm := List.mem_append.mp (mem_of_mem_ofMembers hm)
  · exact hfield ((namesOf_fieldMembers fs).subset (List.mem_map_of_mem (f := Prod.fst) hm))
  · exact hother (List.mem_map_of_mem (f := Prod.fst) hm)

/-- A record that is read from an object is read from the written one. -/
theorem Keeps.returns [Regular r] {read : As α} (h : Keeps r fs more a)
    (hwrite : write a = .object (Json.ofMembers (fieldMembers fs ++ more)))
    (hread : ∀ ms, read (.object ms) = r.readMembers ms) : Returns read write a where
  normal := hwrite ▸ normal_ofMembers h.normal h.normalMore
  again := by rw [hwrite, hread, h.readMembers]

/-- The members of an object beside the fields are kept as they are. -/
theorem Keeps.lookup_eq {known : List String} {name : String} {place : Nat} (h : Keeps r fs more a)
    (hknown : fs.map Prod.fst = known) (hmore : Gives (others known) (.object ms) place more)
    (hname : name ∉ known) :
    lookup name (Json.ofMembers (fieldMembers fs ++ more)) = lookup name ms := by
  have ht := table_ofMembers h.nodup h.sorted h.fresh
  rw [ht.unnamed name (hknown ▸ hname), hmore.others_eq,
    lookup_filter_fst fun name => !known.contains name]
  simp [hname]

end Law
end Record
end Json
end EntityTrust
