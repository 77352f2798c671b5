import EntityTrust.Proofs.Json.Printing
import EntityTrust.Proofs.Json.Streamed
import EntityTrust.Proofs.Key.Codec
import EntityTrust.Token.Header

/-!
# Headers as they are spelled

An object whose members make up a header is read as the header from every text of it.

**Members.**  The members of a header may come in any order, with others among them, which are only
passed over; the algorithm is given by its name.

**Results.**
* `Header.streams`: the readers of the members go with the description of the record.
* `Header.ofOctets_of_document`: what spells the members of a header is read as the header.
* `Header.means_written`, `Header.document_written`: this is so of what any header is written as.
-/

namespace EntityTrust

theorem Algorithm.lookup_name (a : Algorithm) : Algorithm.cases.lookup a.name = some a := by
  cases a <;> rfl

namespace Header

open Json Record

variable {depth : Nat} {v : Json}

instance : Local record := by
  unfold record
  infer_instance

instance : Regular record := by
  unfold record
  infer_instance

/-- The algorithm is given by its name. -/
def NamesAlgorithm (name : String) (v : Json) : Prop :=
  name = "alg" → ∃ s, v = .string s

theorem accepts_asText {s : String} (h : asText v = .ok s) : Accepts readText depth v := by
  obtain rfl := asText_eq_ok.mp h
  exact accepts_text depth s

theorem accepts_asList {xs : List String} (h : asList asText v = .ok xs) :
    Accepts (readList readText depth) depth v := by
  have hitems {vs : List Json} {xs : List String} (h : readAll asText vs = .ok xs) :
      ∀ v ∈ vs, ∀ depth, Accepts readText depth v := by
    induction vs generalizing xs with
    | nil => nofun
    | cons v vs ih =>
        obtain ⟨s, xs, hv, hvs, -⟩ := readAll_cons_eq_ok.mp h
        exact List.forall_mem_cons.mpr ⟨fun _ => accepts_asText hv, ih hvs⟩
  cases v with
  | array vs => exact accepts_list (hitems h) depth
  | _ => cases h

theorem accepts_key {k : Jwk} (h : Jwk.ofJson v = .ok k) :
    Accepts (readChecked 123 "struct Jwk" Jwk.ofJson depth) depth v := by
  cases v with
  | object ms => exact accepts_checked h depth
  | _ => cases h

theorem accepts_algorithm {s : String} {a : Algorithm}
    (h : asCase Algorithm.cases (.string s) = .ok a) :
    Accepts (readCase (Algorithm.all.map Algorithm.name) depth) depth (.string s) := by
  refine accepts_case ?_ depth depth
  simp only [asCase, asCaseWith] at h
  cases hs : Algorithm.cases.lookup s with
  | none =>
      rw [hs] at h
      cases h
  | some a =>
      obtain ⟨front, back, hsplit, -⟩ := List.lookup_eq_some_iff.mp hs
      have hmem : (s, a) ∈ Algorithm.cases := by simp [hsplit]
      obtain ⟨b, hb, heq⟩ := List.mem_map.mp hmem
      cases heq
      exact List.mem_map_of_mem (f := Algorithm.name) hb

theorem suits_nullable {α : Type} {name : String} {check : As α} {item : Nat → Reader Json}
    (h : ∀ {v a}, check v = .ok a → Accepts (item depth) depth v) :
    Suits NamesAlgorithm depth (name, fun depth => readOptional (item depth))
      (ruleOf name [] (optional check)) where
  name := rfl
  free := rfl
  accepts _ hcheck := by
    obtain ⟨o, ho, -⟩ := Outcome.map_eq_ok.mp hcheck
    exact accepts_nullable h ho

/-- The readers of the members go with the description of the record. -/
theorem streams (depth : Nat) : Streams NamesAlgorithm depth streamed record.rules := by
  have htext (name : String) : Suits NamesAlgorithm depth (name, fun _ => readOptional readText)
      (ruleOf name [] (Json.optional asText)) := suits_nullable accepts_asText
  have halgorithm : Suits NamesAlgorithm depth
      ("alg", readCase (Algorithm.all.map Algorithm.name))
      (ruleOf "alg" [] (asCase Algorithm.cases)) := by
    refine ⟨rfl, rfl, fun hname hcheck => ?_⟩
    obtain ⟨s, rfl⟩ := hname rfl
    obtain ⟨a, ha, -⟩ := Outcome.map_eq_ok.mp hcheck
    exact accepts_algorithm ha
  exact .cons (htext "typ") (.cons halgorithm (.cons (htext "cty") (.cons (htext "jku")
    (.cons (suits_nullable accepts_key) (.cons (htext "kid") (.cons (htext "x5u")
      (.cons (suits_nullable accepts_asList) (.cons (htext "x5t")
        (.cons (htext "x5t#S256") .nil)))))))))

/-- The members of an object say what a header is. -/
structure Means (ms : List Member) (h : Header) : Prop where
  algorithm : ∀ v, ("alg", v) ∈ ms → v = .string h.algorithm.name
  members : record.readMembers ms = .ok h

/-- What spells the members of a header is read as the header. -/
theorem ofOctets_of_document {text : List UInt8} {ms : List Member} {h : Header}
    (htext : Document id text (.object ms)) (hmeans : Means ms h) : ofOctets text = .ok h := by
  obtain ⟨w, t, w', hw, ht, hw', rfl⟩ := htext
  have hnames : ∀ m ∈ ms, NamesAlgorithm m.1 m.2 := by
    rintro ⟨name, v⟩ hm rfl
    exact ⟨_, hmeans.algorithm v hm⟩
  have hread : Takes (readStreamed "Header" streamed record maxDepth (w ++ (t ++ w'))) h w' :=
    takes_readStreamed (streams 126) ht hnames hmeans.members hw
  unfold ofOctets
  rw [wholeDocument_of_takes hread hw']

/-- The key identifier is the text of its member. -/
theorem Means.keyId {ms : List Member} {h : Header} (hmeans : Means ms h) :
    h.keyId = (lookup "kid" ms).bind string? := by
  have h₉ := ofMembers_of_readMembers hmeans.members
  obtain ⟨_, _, h₈, -, rfl⟩ := ofMembers_seq_eq_ok.mp h₉
  obtain ⟨_, _, h₇, -, rfl⟩ := ofMembers_seq_eq_ok.mp h₈
  obtain ⟨_, _, h₆, -, rfl⟩ := ofMembers_seq_eq_ok.mp h₇
  obtain ⟨_, _, h₅, -, rfl⟩ := ofMembers_seq_eq_ok.mp h₆
  obtain ⟨_, kid, h₄, hkid, rfl⟩ := ofMembers_seq_eq_ok.mp h₅
  obtain ⟨_, _, h₃, -, rfl⟩ := ofMembers_seq_eq_ok.mp h₄
  obtain ⟨_, _, h₂, -, rfl⟩ := ofMembers_seq_eq_ok.mp h₃
  obtain ⟨_, _, h₁, -, rfl⟩ := ofMembers_seq_eq_ok.mp h₂
  obtain ⟨_, _, h₀, -, rfl⟩ := ofMembers_seq_eq_ok.mp h₁
  obtain ⟨_, -, rfl⟩ := ofMembers_map_eq_ok.mp h₀
  show kid = _
  have hfind : find? (ruleOf "kid" [] (optional asText)) ms = lookup "kid" ms :=
    find?_eq_lookup "kid" _ ms
  obtain ⟨v, hfound, hvalue⟩ | ⟨hnone, habsent⟩ := ofMembers_member_cases.mp hkid
  · rw [← hfind, hfound]
    cases v with
    | null => exact (Except.ok.inj hvalue).symm
    | string s => exact (Except.ok.inj hvalue).symm
    | _ => cases hvalue
  · rw [← hfind, hnone]
    exact (Option.some.inj habsent).symm

section Written

/-- The fields of a header. -/
def fields (h : Header) : Fields :=
  [("typ", h.tokenType.map .string), ("alg", some (.string h.algorithm.name)),
    ("cty", h.contentType.map .string), ("jku", h.keySetUrl.map .string),
    ("jwk", h.key.map Jwk.toJson), ("kid", h.keyId.map .string),
    ("x5u", h.certificateUrl.map .string),
    ("x5c", h.certificates.map fun xs => .array (xs.map .string)),
    ("x5t", h.thumbprint.map .string), ("x5t#S256", h.thumbprint256.map .string)]

theorem toJson_eq (h : Header) :
    h.toJson = .object (Json.ofMembers (fieldMembers h.fields ++ [])) := by
  simp [toJson, fields, fieldMembers, present]

/-- A header is read again from what it is written as. -/
theorem keeps (h : Header) : Keeps record h.fields [] h := by
  have ktype := Kept.of_option h.tokenType returns_text nofun
  have kalgorithm : Kept (asCase Algorithm.cases) none (some (.string h.algorithm.name))
      h.algorithm := .of_returns (returns_case Algorithm.lookup_name h.algorithm)
  have kcontent := Kept.of_option h.contentType returns_text nofun
  have ksource := Kept.of_option h.keySetUrl returns_text nofun
  have kkey := Kept.of_option h.key Jwk.returns fun k => by simp [Jwk.toJson_eq]
  have kid := Kept.of_option h.keyId returns_text nofun
  have kurl := Kept.of_option h.certificateUrl returns_text nofun
  have kcertificates := Kept.of_option h.certificates (Returns.list returns_text) nofun
  have kthumbprint := Kept.of_option h.thumbprint returns_text nofun
  have kthumbprint256 := Kept.of_option h.thumbprint256 returns_text nofun
  refine ⟨?_, nofun, ?_, .nil, nofun, nofun, fun t => ?_⟩
  · simp [fields]
  · simp only [fields, List.forall_mem_cons]
    exact ⟨ktype.normal, kalgorithm.normal, kcontent.normal, ksource.normal, kkey.normal,
      kid.normal, kurl.normal, kcertificates.normal, kthumbprint.normal, kthumbprint256.normal,
      nofun⟩
  · show record.ofMembers _ = .ok (Header.mk h.tokenType h.algorithm h.contentType h.keySetUrl h.key
      h.keyId h.certificateUrl h.certificates h.thumbprint h.thumbprint256)
    refine ofMembers_seq ?_ (kthumbprint256.ofTable t (by simp [fields]))
    refine ofMembers_seq ?_ (kthumbprint.ofTable t (by simp [fields]))
    refine ofMembers_seq ?_ (kcertificates.ofTable t (by simp [fields]))
    refine ofMembers_seq ?_ (kurl.ofTable t (by simp [fields]))
    refine ofMembers_seq ?_ (kid.ofTable t (by simp [fields]))
    refine ofMembers_seq ?_ (kkey.ofTable t (by simp [fields]))
    refine ofMembers_seq ?_ (ksource.ofTable t (by simp [fields]))
    refine ofMembers_seq ?_ (kcontent.ofTable t (by simp [fields]))
    refine ofMembers_seq ?_ (kalgorithm.ofTable t (by simp [fields]))
    exact ofMembers_map (ktype.ofTable t (by simp [fields]))

/-- The members that a header is written as say what it is. -/
theorem means_written (h : Header) : Means (Json.ofMembers (fieldMembers h.fields ++ [])) h := by
  have ht := table_ofMembers h.keeps.nodup h.keeps.sorted h.keeps.fresh
  refine ⟨fun v hv => ?_, h.keeps.readMembers⟩
  have hname : lookup "alg" (Json.ofMembers (fieldMembers h.fields ++ [])) =
      some (.string h.algorithm.name) := ht.named ("alg", _) (by simp [fields])
  exact Option.some.inj ((lookup_of_mem ht.sorted.nodup hv).symm.trans hname)

theorem plain_texts (o : Option String) : ∀ v, o.map Json.string = some v → Plain depth v := by
  intro v hv
  obtain ⟨s, -, rfl⟩ := Option.map_eq_some_iff.mp hv
  exact .string s

theorem plain_lists (o : Option (List String)) :
    ∀ v, o.map (fun xs => Json.array (xs.map .string)) = some v → Plain (depth + 1) v := by
  intro v hv
  obtain ⟨xs, -, rfl⟩ := Option.map_eq_some_iff.mp hv
  refine .array fun v hv => ?_
  obtain ⟨s, -, rfl⟩ := List.mem_map.mp hv
  exact .string s

theorem plain_string (s : String) : ∀ v, some (Json.string s) = some v → Plain depth v := by
  rintro v ⟨⟩
  exact .string s

theorem plain_ofMembers {fs : Fields} (h : ∀ f ∈ fs, ∀ v, f.2 = some v → Plain depth v) :
    Plain (depth + 1) (.object (Json.ofMembers (fieldMembers fs ++ []))) := by
  refine .object (sorted_ofMembers _) fun m hm => ?_
  have hmem := mem_of_mem_ofMembers hm
  rw [List.append_nil] at hmem
  obtain ⟨f, hf, hmem⟩ := List.mem_flatMap.mp hmem
  cases hv : f.2 with
  | none =>
      rw [hv] at hmem
      cases hmem
  | some v =>
      rw [hv] at hmem
      obtain rfl := List.mem_singleton.mp hmem
      exact h f hf v hv

theorem plain_material (m : KeyMaterial) : ∀ f ∈ m.fields, ∀ v, f.2 = some v → Plain depth v := by
  cases m <;> simp [KeyMaterial.fields, plain_string]

theorem plain_key (k : Jwk) : Plain (depth + 2) k.toJson := by
  rw [Jwk.toJson_eq]
  refine plain_ofMembers ?_
  simp only [Jwk.fields, List.cons_append, List.nil_append, List.forall_mem_cons]
  refine ⟨plain_texts _, plain_lists _, ?_, plain_texts _, plain_texts _, plain_lists _,
    plain_texts _, plain_texts _, plain_material _⟩
  intro v hv
  obtain ⟨a, -, rfl⟩ := Option.map_eq_some_iff.mp hv
  exact .string a.name

theorem plain_toJson (h : Header) : Plain (depth + 3) h.toJson := by
  rw [toJson_eq]
  refine plain_ofMembers ?_
  simp only [fields, List.forall_mem_cons]
  refine ⟨plain_texts _, plain_string _, plain_texts _, plain_texts _, ?_, plain_texts _,
    plain_texts _, plain_lists _, plain_texts _, plain_texts _, nofun⟩
  intro v hv
  obtain ⟨k, -, rfl⟩ := Option.map_eq_some_iff.mp hv
  exact plain_key k

/-- A written header spells its members. -/
theorem document_written (h : Header) : Document id (Utf8.encode (render h.toJson))
    (.object (Json.ofMembers (fieldMembers h.fields ++ []))) := by
  have hplain : Plain (124 + 3) h.toJson := plain_toJson h
  rw [← toJson_eq]
  exact hplain.document fun _ _ => rfl

end Written

end Header
end EntityTrust
