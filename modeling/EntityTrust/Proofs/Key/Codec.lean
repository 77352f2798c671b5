import EntityTrust.Proofs.Json.Records

/-!
# Written keys

Keys and key sets are read again as they were written.

**Kinds.**  A key is written with the members of its kind, and the name of the kind is among them.
Every other kind asks for another name, so the first kind that can be read is the one written.

**Results.**
* `KeyMaterial.ofMembers_of_table`: the kind of a key is found in its members.
* `Jwk.lossless`, `KeySet.lossless`: nothing that is read of keys is lost.
-/

namespace EntityTrust

open Json Record

theorem CurveName.lookup_name (c : CurveName) : CurveName.cases.lookup c.name = some c := by
  cases c <;> rfl

theorem KeyAlgorithm.lookup_name (a : KeyAlgorithm) :
    KeyAlgorithm.cases.lookup a.name = some a := by
  cases a with
  | signing a => cases a <;> rfl
  | _ => rfl

namespace KeyMaterial

/-- The fields of a kind. -/
def fields : KeyMaterial → Fields
  | ellipticCurve c x y =>
      [("kty", some (.string "EC")), ("crv", some (.string c.name)), ("x", some (.string x)),
        ("y", some (.string y))]
  | rsa n e =>
      [("kty", some (.string "RSA")), ("n", some (.string n)), ("e", some (.string e))]
  | octets k => [("kty", some (.string "oct")), ("k", some (.string k))]
  | octetPair c x =>
      [("kty", some (.string "OKP")), ("crv", some (.string c.name)), ("x", some (.string x))]

theorem toMembers_eq (m : KeyMaterial) : m.toMembers = fieldMembers m.fields := by
  cases m <;> rfl

instance (name : String) : Regular (kind name) :=
  inferInstanceAs (Regular (required ..))

instance : Regular ellipticCurveRecord := by
  unfold ellipticCurveRecord
  infer_instance

instance : Regular rsaRecord := by
  unfold rsaRecord
  infer_instance

instance : Regular octetsRecord := by
  unfold octetsRecord
  infer_instance

instance : Regular octetPairRecord := by
  unfold octetPairRecord
  infer_instance

section Kinds

variable {ms : List Member} {m : KeyMaterial} {r : Record KeyMaterial} {name other : String}

/-- A kind is read under its own name only. -/
theorem eq_of_kind (hname : lookup "kty" ms = some (.string other))
    (h : (kind name).ofMembers ms = .ok ()) : other = name := by
  obtain ⟨v, hv, hread⟩ := ofMembers_required_eq_ok.mp h
  obtain rfl := Option.some.inj (hname.symm.trans hv)
  by_contra hne
  have hlookup : [(name, ())].lookup other = none := by
    rw [List.lookup_cons, beq_false_of_ne hne]
    rfl
  simp [asCase, asCaseWith, hlookup] at hread

theorem kind_of_string (hname : lookup "kty" ms = some (.string name)) :
    (kind name).ofMembers ms = .ok () :=
  ofMembers_required_eq_ok.mpr ⟨_, hname, by simp [asCase, asCaseWith, List.lookup_cons_self]⟩

theorem kind_of_ellipticCurve (h : ellipticCurveRecord.ofMembers ms = .ok m) :
    (kind "EC").ofMembers ms = .ok () := by
  obtain ⟨_, _, h, -, -⟩ := ofMembers_seq_eq_ok.mp h
  obtain ⟨_, _, h, -, -⟩ := ofMembers_seq_eq_ok.mp h
  obtain ⟨_, _, h, -, -⟩ := ofMembers_seq_eq_ok.mp h
  exact (ofMembers_map_eq_ok.mp h).choose_spec.1

theorem kind_of_rsa (h : rsaRecord.ofMembers ms = .ok m) : (kind "RSA").ofMembers ms = .ok () := by
  obtain ⟨_, _, h, -, -⟩ := ofMembers_seq_eq_ok.mp h
  obtain ⟨_, _, h, -, -⟩ := ofMembers_seq_eq_ok.mp h
  exact (ofMembers_map_eq_ok.mp h).choose_spec.1

theorem kind_of_octets (h : octetsRecord.ofMembers ms = .ok m) :
    (kind "oct").ofMembers ms = .ok () := by
  obtain ⟨_, _, h, -, -⟩ := ofMembers_seq_eq_ok.mp h
  exact (ofMembers_map_eq_ok.mp h).choose_spec.1

/-- A record of one kind is not read from the members of another. -/
theorem toOption_readMembers
    (hkind : ∀ {m}, r.ofMembers ms = .ok m → (kind name).ofMembers ms = .ok ())
    (hname : lookup "kty" ms = some (.string other)) (hne : other ≠ name) :
    (r.readMembers ms).toOption = none := by
  cases h : r.readMembers ms with
  | error e => rfl
  | ok m => exact absurd (eq_of_kind hname (hkind (ofMembers_of_readMembers h))) hne

theorem text_of_lookup {s : String} (h : lookup name ms = some (.string s)) :
    (required name asText).ofMembers ms = .ok s :=
  ofMembers_required_eq_ok.mpr ⟨_, h, rfl⟩

theorem curve_of_lookup {c : CurveName} (h : lookup "crv" ms = some (.string c.name)) :
    (required "crv" (asCase CurveName.cases)).ofMembers ms = .ok c :=
  ofMembers_required_eq_ok.mpr ⟨_, h, by simp [asCase, asCaseWith, c.lookup_name]⟩

/-- The kind of a key is found in its members. -/
theorem ofMembers_of_table (hsorted : Sorted ms)
    (hfields : ∀ f ∈ m.fields, lookup f.1 ms = f.2) : KeyMaterial.ofMembers ms = .ok m := by
  have hread (r : Record KeyMaterial) [Regular r] (hfree : r.rules.flatMap Rule.aliases = [])
      (h : r.ofMembers ms = .ok m) : (r.readMembers ms).toOption = some m := by
    have hnone (rule : Rule) (hrule : rule ∈ r.rules) : rule.aliases = [] :=
      List.flatMap_eq_nil_iff.mp hfree rule hrule
    rw [readMembers_of_ofMembers hsorted (fun rule hrule m _ => by simp [hnone rule hrule]) h]
    rfl
  cases m with
  | ellipticCurve c x y =>
      simp only [fields, List.forall_mem_cons] at hfields
      obtain ⟨hkty, hcrv, hx, hy, -⟩ := hfields
      have h := hread ellipticCurveRecord rfl (ofMembers_seq (ofMembers_seq (ofMembers_seq
        (ofMembers_map (kind_of_string hkty)) (curve_of_lookup hcrv)) (text_of_lookup hx))
          (text_of_lookup hy))
      simp [KeyMaterial.ofMembers, kinds, h]
  | rsa n e =>
      simp only [fields, List.forall_mem_cons] at hfields
      obtain ⟨hkty, hn, he, -⟩ := hfields
      have hcurve := toOption_readMembers kind_of_ellipticCurve hkty (by decide)
      have h := hread rsaRecord rfl (ofMembers_seq (ofMembers_seq
        (ofMembers_map (kind_of_string hkty)) (text_of_lookup hn)) (text_of_lookup he))
      simp [KeyMaterial.ofMembers, kinds, hcurve, h]
  | octets k =>
      simp only [fields, List.forall_mem_cons] at hfields
      obtain ⟨hkty, hk, -⟩ := hfields
      have hcurve := toOption_readMembers kind_of_ellipticCurve hkty (by decide)
      have hrsa := toOption_readMembers kind_of_rsa hkty (by decide)
      have h := hread octetsRecord rfl (ofMembers_seq
        (ofMembers_map (kind_of_string hkty)) (text_of_lookup hk))
      simp [KeyMaterial.ofMembers, kinds, hcurve, hrsa, h]
  | octetPair c x =>
      simp only [fields, List.forall_mem_cons] at hfields
      obtain ⟨hkty, hcrv, hx, -⟩ := hfields
      have hcurve := toOption_readMembers kind_of_ellipticCurve hkty (by decide)
      have hrsa := toOption_readMembers kind_of_rsa hkty (by decide)
      have hoctets := toOption_readMembers kind_of_octets hkty (by decide)
      have h := hread octetPairRecord rfl (ofMembers_seq (ofMembers_seq
        (ofMembers_map (kind_of_string hkty)) (curve_of_lookup hcrv)) (text_of_lookup hx))
      simp [KeyMaterial.ofMembers, kinds, hcurve, hrsa, hoctets, h]

theorem normal_fields (m : KeyMaterial) : ∀ f ∈ m.fields, ∀ v, f.2 = some v → v.Normal := by
  cases m <;> simp [fields, Normal.string]

end Kinds

end KeyMaterial

namespace Jwk

instance : Regular commonRecord := by
  unfold commonRecord
  infer_instance

/-- The fields of a key. -/
def fields (k : Jwk) : Fields :=
  [("use", k.usage.map .string),
    ("key_ops", k.operations.map fun xs => .array (xs.map .string)),
    ("alg", k.algorithm.map fun a => .string a.name), ("kid", k.id.map .string),
    ("x5u", k.certificateUrl.map .string),
    ("x5c", k.certificates.map fun xs => .array (xs.map .string)),
    ("x5t", k.thumbprint.map .string), ("x5t#S256", k.thumbprint256.map .string)] ++
  k.material.fields

theorem toJson_eq (k : Jwk) :
    k.toJson = .object (Json.ofMembers (fieldMembers k.fields ++ [])) := by
  simp [toJson, fields, fieldMembers, KeyMaterial.toMembers_eq]

/-- The common members are read again from what a key is written as. -/
theorem keeps (k : Jwk) : Keeps commonRecord k.fields []
    (Jwk.mk k.usage k.operations k.algorithm k.id k.certificateUrl k.certificates k.thumbprint
      k.thumbprint256) := by
  have kusage := Kept.of_option k.usage returns_text nofun
  have koperations := Kept.of_option k.operations (Returns.list returns_text) nofun
  have kalgorithm : Kept (Json.optional asAlgorithm) (some none)
      (k.algorithm.map fun a => .string a.name) k.algorithm :=
    .of_option k.algorithm (returns_case KeyAlgorithm.lookup_name) nofun
  have kid := Kept.of_option k.id returns_text nofun
  have kurl := Kept.of_option k.certificateUrl returns_text nofun
  have kcertificates := Kept.of_option k.certificates (Returns.list returns_text) nofun
  have kthumbprint := Kept.of_option k.thumbprint returns_text nofun
  have kthumbprint256 := Kept.of_option k.thumbprint256 returns_text nofun
  refine ⟨?_, nofun, ?_, .nil, nofun, nofun, fun t => ?_⟩
  · cases hm : k.material <;> simp [fields, KeyMaterial.fields, hm]
  · simp only [fields, List.cons_append, List.nil_append, List.forall_mem_cons]
    exact ⟨kusage.normal, koperations.normal, kalgorithm.normal, kid.normal, kurl.normal,
      kcertificates.normal, kthumbprint.normal, kthumbprint256.normal, k.material.normal_fields⟩
  · refine ofMembers_seq ?_ (kthumbprint256.ofTable t (by simp [fields]))
    refine ofMembers_seq ?_ (kthumbprint.ofTable t (by simp [fields]))
    refine ofMembers_seq ?_ (kcertificates.ofTable t (by simp [fields]))
    refine ofMembers_seq ?_ (kurl.ofTable t (by simp [fields]))
    refine ofMembers_seq ?_ (kid.ofTable t (by simp [fields]))
    refine ofMembers_seq ?_ (kalgorithm.ofTable t (by simp [fields]))
    refine ofMembers_seq ?_ (koperations.ofTable t (by simp [fields]))
    exact ofMembers_map (kusage.ofTable t (by simp [fields]))

/-- Every key is read again from what it is written as. -/
theorem returns (k : Jwk) : Returns ofJson toJson k := by
  have hkeeps := k.keeps
  have ht := table_ofMembers hkeeps.nodup hkeeps.sorted hkeeps.fresh
  have hmaterial : KeyMaterial.ofMembers (Json.ofMembers (fieldMembers k.fields ++ [])) =
      .ok k.material :=
    KeyMaterial.ofMembers_of_table ht.sorted fun f hf =>
      ht.named f (List.mem_append_right _ hf)
  refine ⟨toJson_eq k ▸ normal_ofMembers hkeeps.normal hkeeps.normalMore, ?_⟩
  rw [toJson_eq, ofJson, hkeeps.readMembers, Outcome.ok_bind, hmaterial]
  rfl

theorem lossless : Lossless ofJson toJson :=
  fun _ k _ _ => returns k

end Jwk

namespace KeySet

/-- The fields of a key set. -/
def fields (s : KeySet) : Fields :=
  [("keys", some (.array (s.keys.map Jwk.toJson)))]

theorem lossless : Lossless ofJson toJson := by
  intro v s hv hs
  obtain ⟨keys, hkeys, rfl⟩ := (gives_of_read hv hs).map
  have kkeys := hkeys.required Jwk.lossless.list
  have hkeeps : Keeps (KeySet.mk <$> required "keys" (asList Jwk.ofJson)) (fields ⟨keys⟩) []
      ⟨keys⟩ :=
    ⟨List.nodup_singleton _, nofun, List.forall_mem_singleton.mpr kkeys.normal, .nil, nofun, nofun,
      fun t => ofMembers_map (kkeys.ofTable t List.mem_cons_self)⟩
  exact hkeeps.returns rfl fun _ => rfl

end KeySet
end EntityTrust
