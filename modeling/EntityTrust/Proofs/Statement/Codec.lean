import EntityTrust.Proofs.Json.Document
import EntityTrust.Proofs.Key.Codec
import EntityTrust.Proofs.Statement.Metadata
import EntityTrust.TrustMark.Claims

/-!
# Written statements

Statements, and the records in them, are read again as they were written.

**Forms.**  A record may come as an object or as an array of its members, its identifier may stand
under either of two names, and what is absent may be left out or `null`.  It is written in one form
only: as an object, under the first name, without what is absent.  What is lost is the form and the
members that mean nothing.

**Results.**
* `EntityConfiguration.lossless`, `SubordinateStatement.lossless` and the like for the records in
  them and for trust marks: nothing that is read is lost.
* `EntityConfiguration.survives_toJson`: the metadata in a configuration keeps the members that have
  no meaning of their own.
* `SubordinateStatement.memberAt_toJson`: the metadata in a subordinate statement stays as it is.
* `Statement.returns_of_decode`: every statement that is decoded from a token is read again.
* `Statement.codecs_faithful`: the law of all these records, for every value in normal form.
-/

namespace EntityTrust

open Json Record

theorem lossless_texts : Lossless (asList asText) texts :=
  lossless_text.list

namespace TrustMarkOwner

/-- The fields of an owner. -/
def fields (o : TrustMarkOwner) : Fields :=
  [("sub", some (.string o.subject)), ("jwks", some o.keys.toJson)]

theorem lossless : Lossless ofJson toJson := by
  intro v o hv ho
  obtain ⟨_, keys, h₁, hkeys, rfl⟩ := (gives_of_read hv ho).seq
  obtain ⟨subject, hsubject, rfl⟩ := h₁.map
  have ksubject := hsubject.required lossless_text
  have kkeys := hkeys.required KeySet.lossless
  have hkeeps : Keeps (TrustMarkOwner.mk <$> required "sub" asText <*>
      required "jwks" KeySet.ofJson) (fields ⟨subject, keys⟩) [] ⟨subject, keys⟩ := by
    refine ⟨by simp [fields], nofun, ?_, .nil, nofun, nofun, fun t => ?_⟩
    · simp only [fields, List.forall_mem_cons]
      exact ⟨ksubject.normal, kkeys.normal, nofun⟩
    · refine ofMembers_seq ?_ (kkeys.ofTable t (by simp [fields]))
      exact ofMembers_map (ksubject.ofTable t (by simp [fields]))
  exact hkeeps.returns rfl fun _ => rfl

end TrustMarkOwner

namespace TrustMarkEntry

/-- The fields of an entry. -/
def fields (e : TrustMarkEntry) : Fields :=
  [("id", some (.string e.id)), ("trust_mark", some (.string e.mark))]

theorem lossless : Lossless ofJson toJson := by
  intro v e hv he
  obtain ⟨_, mark, h₁, hmark, rfl⟩ := (gives_of_read hv he).seq
  obtain ⟨id, hid, rfl⟩ := h₁.map
  have kid := hid.required lossless_text
  have kmark := hmark.required lossless_text
  have hfree : ∀ name ∈ ["trust_mark_id"], name ∉ (fields ⟨id, mark⟩).map Prod.fst := by
    simp [fields]
  have hkeeps : Keeps (TrustMarkEntry.mk <$> member "id" ["trust_mark_id"] asText none none <*>
      required "trust_mark" asText) (fields ⟨id, mark⟩) [] ⟨id, mark⟩ := by
    refine ⟨by simp [fields], fun name hname => ⟨hfree name hname, nofun⟩, ?_, .nil, nofun, nofun,
      fun t => ?_⟩
    · simp only [fields, List.forall_mem_cons]
      exact ⟨kid.normal, kmark.normal, nofun⟩
    · refine ofMembers_seq ?_ (kmark.ofTable t (by simp [fields]))
      exact ofMembers_map (kid.ofMembers (t.free hfree) (t.named _ List.mem_cons_self))
  exact hkeeps.returns rfl fun _ => rfl

end TrustMarkEntry

namespace TrustMarkClaims

instance : Regular record := by
  unfold record
  infer_instance

/-- The fields of a trust mark. -/
def fields (c : TrustMarkClaims) : Fields :=
  [("iss", some (.string c.issuer)), ("id", some (.string c.id)),
    ("sub", c.subject.map .string), ("iat", c.issuedAt.map .integer),
    ("exp", c.expiresAt.map .integer), ("delegation", c.delegation.map .string)]

theorem toJson_eq (c : TrustMarkClaims) :
    c.toJson = .object (Json.ofMembers (fieldMembers c.fields ++ [])) := by
  simp [toJson, fields, fieldMembers, present]

theorem lossless : Lossless ofJson toJson := by
  intro v c hv hc
  obtain ⟨_, delegation, h₅, hdelegation, rfl⟩ := (gives_of_read hv hc).seq
  obtain ⟨_, expiresAt, h₄, hexpiresAt, rfl⟩ := h₅.seq
  obtain ⟨_, issuedAt, h₃, hissuedAt, rfl⟩ := h₄.seq
  obtain ⟨_, subject, h₂, hsubject, rfl⟩ := h₃.seq
  obtain ⟨_, id, h₁, hid, rfl⟩ := h₂.seq
  obtain ⟨issuer, hissuer, rfl⟩ := h₁.map
  have kissuer := hissuer.required lossless_text
  have kid := hid.required lossless_text
  have ksubject := hsubject.omittable lossless_text nofun
  have kissuedAt := hissuedAt.omittable lossless_signed64 nofun
  have kexpiresAt := hexpiresAt.omittable lossless_signed64 nofun
  have kdelegation := hdelegation.omittable lossless_text nofun
  set c : TrustMarkClaims := ⟨issuer, id, subject, issuedAt, expiresAt, delegation⟩
  have hfree : ∀ name ∈ ["trust_mark_id"], name ∉ c.fields.map Prod.fst := by
    simp [fields]
  have hname : ("id", some (.string id)) ∈ c.fields := by
    simp [fields, c]
  have hkeeps : Keeps record c.fields [] c := by
    refine ⟨by simp [fields], fun name hname => ⟨hfree name hname, nofun⟩, ?_, .nil, nofun, nofun,
      fun t => ?_⟩
    · simp only [fields, List.forall_mem_cons]
      exact ⟨kissuer.normal, kid.normal, ksubject.normal, kissuedAt.normal, kexpiresAt.normal,
        kdelegation.normal, nofun⟩
    · refine ofMembers_seq ?_ (kdelegation.ofTable t (by simp [fields, c]))
      refine ofMembers_seq ?_ (kexpiresAt.ofTable t (by simp [fields, c]))
      refine ofMembers_seq ?_ (kissuedAt.ofTable t (by simp [fields, c]))
      refine ofMembers_seq ?_ (ksubject.ofTable t (by simp [fields, c]))
      refine ofMembers_seq ?_ (kid.ofMembers (t.free hfree) (t.named _ hname))
      exact ofMembers_map (kissuer.ofTable t (by simp [fields, c]))
  exact hkeeps.returns c.toJson_eq fun _ => rfl

end TrustMarkClaims

namespace Constraints

/-- The fields of constraints. -/
def fields (c : Constraints) : Fields :=
  [("max_path_length", c.maxPathLength.map fun n : Nat => .integer n),
    ("naming_constraints", c.naming), ("allowed_entity_types", c.entityTypes.map texts)]

theorem toJson_eq (c : Constraints) :
    c.toJson = .object (Json.ofMembers (fieldMembers c.fields ++ [])) := by
  obtain ⟨_ | n, naming, entityTypes⟩ := c <;> simp [toJson, fields, fieldMembers]

theorem lossless : Lossless ofJson toJson := by
  intro v c hv hc
  obtain ⟨_, entityTypes, h₂, hentityTypes, rfl⟩ := (gives_of_read hv hc).seq
  obtain ⟨_, naming, h₁, hnaming, rfl⟩ := h₂.seq
  obtain ⟨maxPathLength, hmaxPathLength, rfl⟩ := h₁.map
  have kmaxPathLength := hmaxPathLength.omittable (lossless_natural _ _) nofun
  have knaming := hnaming.json
  have kentityTypes := hentityTypes.omittable lossless_texts nofun
  set c : Constraints := ⟨maxPathLength, naming, entityTypes⟩
  have hkeeps : Keeps (Constraints.mk <$>
      omittable "max_path_length" (asNatural Numeral.maxWord32 "u32") <*>
      omittable "naming_constraints" asJson <*>
      omittable "allowed_entity_types" (asList asText)) c.fields [] c := by
    refine ⟨by simp [fields], nofun, ?_, .nil, nofun, nofun, fun t => ?_⟩
    · simp only [fields, List.forall_mem_cons]
      exact ⟨kmaxPathLength.normal, knaming.normal, kentityTypes.normal, nofun⟩
    · refine ofMembers_seq ?_ (kentityTypes.ofTable t (by simp [fields, c]))
      refine ofMembers_seq ?_ (knaming.ofTable t (by simp [fields, c]))
      exact ofMembers_map (kmaxPathLength.ofTable t (by simp [fields, c]))
  exact hkeeps.returns c.toJson_eq fun _ => rfl

end Constraints

namespace StatementCore

instance : Regular record := by
  unfold record
  infer_instance

/-- The fields that statements share. -/
def fields (c : StatementCore) : Fields :=
  [("iss", some (.string c.issuer)), ("sub", some (.string c.subject)),
    ("iat", some (.integer c.issuedAt)), ("exp", some (.integer c.expiresAt)),
    ("jwks", some c.keys.toJson)]

theorem toMembers_eq (c : StatementCore) : c.toMembers = fieldMembers c.fields :=
  rfl

/-- The shared members are read from every record that has them among its fields. -/
theorem again_of_gives {v : Json} {place : Nat} {c : StatementCore} (h : Gives record v place c) :
    (∀ f ∈ c.fields, ∀ v, f.2 = some v → v.Normal) ∧
      ∀ {fs more ms}, Table fs more ms → c.fields ⊆ fs → record.ofMembers ms = .ok c := by
  obtain ⟨_, keys, h₄, hkeys, rfl⟩ := h.seq
  obtain ⟨_, expiresAt, h₃, hexpiresAt, rfl⟩ := h₄.seq
  obtain ⟨_, issuedAt, h₂, hissuedAt, rfl⟩ := h₃.seq
  obtain ⟨_, subject, h₁, hsubject, rfl⟩ := h₂.seq
  obtain ⟨issuer, hissuer, rfl⟩ := h₁.map
  have kissuer := hissuer.required lossless_text
  have ksubject := hsubject.required lossless_text
  have kissuedAt := hissuedAt.required lossless_signed64
  have kexpiresAt := hexpiresAt.required lossless_signed64
  have kkeys := hkeys.required KeySet.lossless
  constructor
  · simp only [fields, List.forall_mem_cons]
    exact ⟨kissuer.normal, ksubject.normal, kissuedAt.normal, kexpiresAt.normal, kkeys.normal,
      nofun⟩
  · intro fs more ms t hfields
    refine ofMembers_seq ?_ (kkeys.ofTable t (hfields (by simp [fields])))
    refine ofMembers_seq ?_ (kexpiresAt.ofTable t (hfields (by simp [fields])))
    refine ofMembers_seq ?_ (kissuedAt.ofTable t (hfields (by simp [fields])))
    refine ofMembers_seq ?_ (ksubject.ofTable t (hfields (by simp [fields])))
    exact ofMembers_map (kissuer.ofTable t (hfields (by simp [fields])))

end StatementCore

namespace EntityConfiguration

instance : Regular record := by
  unfold record
  infer_instance

/-- The fields of a configuration. -/
def fields (c : EntityConfiguration) : Fields :=
  c.toStatementCore.fields ++
  [("authority_hints", if c.authorityHints = [] then none else some (texts c.authorityHints)),
    ("metadata", some c.metadata.toJson),
    ("trust_mark_issuers",
      if c.trustMarkIssuers = [] then none else some (mapOf texts c.trustMarkIssuers)),
    ("trust_mark_owners",
      if c.trustMarkOwners = [] then none
      else some (mapOf TrustMarkOwner.toJson c.trustMarkOwners)),
    ("trust_marks",
      if c.trustMarks = [] then none
      else some (.array (c.trustMarks.map TrustMarkEntry.toJson))),
    ("crit", if c.critical = [] then none else some (texts c.critical))]

theorem toJson_eq (c : EntityConfiguration) :
    c.toJson = .object (Json.ofMembers (fieldMembers c.fields ++ [])) := by
  simp [toJson, fields, fieldMembers, presentList_eq, StatementCore.toMembers_eq, present]

variable {v : Json} {c : EntityConfiguration}

theorem keeps_of_gives {place : Nat} (h : Gives record v place c) : Keeps record c.fields [] c := by
  obtain ⟨_, critical, h₆, hcritical, rfl⟩ := h.seq
  obtain ⟨_, trustMarks, h₅, htrustMarks, rfl⟩ := h₆.seq
  obtain ⟨_, trustMarkOwners, h₄, htrustMarkOwners, rfl⟩ := h₅.seq
  obtain ⟨_, trustMarkIssuers, h₃, htrustMarkIssuers, rfl⟩ := h₄.seq
  obtain ⟨_, metadata, h₂, hmetadata, rfl⟩ := h₃.seq
  obtain ⟨_, authorityHints, h₁, hauthorityHints, rfl⟩ := h₂.seq
  obtain ⟨core, hcore, rfl⟩ := h₁.map
  obtain ⟨ncore, kcore⟩ := StatementCore.again_of_gives hcore
  have khints := hauthorityHints.collection lossless_texts
  have kmetadata := hmetadata.standIn Metadata.lossless Metadata.returns_empty
  have kissuers := htrustMarkIssuers.collection lossless_texts.map
  have kowners := htrustMarkOwners.collection TrustMarkOwner.lossless.map
  have kmarks := htrustMarks.collection TrustMarkEntry.lossless.list
  have kcritical := hcritical.collection lossless_texts
  refine ⟨by simp [fields, StatementCore.fields], nofun, ?_, .nil, nofun, nofun, fun t => ?_⟩
  · refine List.forall_mem_append.mpr ⟨ncore, ?_⟩
    simp only [List.forall_mem_cons]
    exact ⟨khints.normal, kmetadata.normal, kissuers.normal, kowners.normal, kmarks.normal,
      kcritical.normal, nofun⟩
  · refine ofMembers_seq ?_ (kcritical.ofTable t (by simp [fields]))
    refine ofMembers_seq ?_ (kmarks.ofTable t (by simp [fields]))
    refine ofMembers_seq ?_ (kowners.ofTable t (by simp [fields]))
    refine ofMembers_seq ?_ (kissuers.ofTable t (by simp [fields]))
    refine ofMembers_seq ?_ (kmetadata.ofTable t (by simp [fields]))
    refine ofMembers_seq ?_ (khints.ofTable t (by simp [fields]))
    exact ofMembers_map (kcore t (List.subset_append_left _ _))

theorem lossless : Lossless ofJson toJson := by
  intro v c hv hc
  exact (keeps_of_gives (gives_of_read hv hc)).returns c.toJson_eq fun _ => rfl

/-- The metadata in a configuration keeps the members that have no meaning of their own.  In an array
it is the item behind six others. -/
theorem survives_toJson (hv : v.Normal) (h : ofJson v = .ok c) {m : Json}
    (hm : memberAt "metadata" 6 v = some m) :
    ∃ m', memberAt "metadata" 6 c.toJson = some m' ∧ Metadata.Survives m m' := by
  have hgives := gives_of_read hv h
  have hkeeps := keeps_of_gives hgives
  have ht := table_ofMembers hkeeps.nodup hkeeps.sorted hkeeps.fresh
  obtain ⟨_, _, h₆, -, rfl⟩ := hgives.seq
  obtain ⟨_, _, h₅, -, rfl⟩ := h₆.seq
  obtain ⟨_, _, h₄, -, rfl⟩ := h₅.seq
  obtain ⟨_, _, h₃, -, rfl⟩ := h₄.seq
  obtain ⟨_, metadata, h₂, hmetadata, rfl⟩ := h₃.seq
  obtain ⟨_, _, h₁, -, rfl⟩ := h₂.seq
  obtain ⟨_, -, rfl⟩ := h₁.map
  obtain ⟨hnormal, hread⟩ := hmetadata.memberAt hm
  rw [toJson_eq]
  exact ⟨metadata.toJson, ht.named ("metadata", _) (by simp [fields]),
    Metadata.survives_toJson hnormal hread⟩

end EntityConfiguration

namespace SubordinateStatement

instance : Regular record := by
  unfold record
  infer_instance

/-- The fields of a subordinate statement. -/
def fields (s : SubordinateStatement) : Fields :=
  s.toStatementCore.fields ++
  [("metadata", s.metadata), ("metadata_policy", s.metadataPolicy),
    ("constraints", s.constraints.map Constraints.toJson),
    ("source_endpoint", s.sourceEndpoint.map .string),
    ("crit", if s.critical = [] then none else some (texts s.critical))]

theorem toJson_eq (s : SubordinateStatement) :
    s.toJson = .object (Json.ofMembers (fieldMembers s.fields ++ [])) := by
  simp [toJson, fields, fieldMembers, presentList_eq, StatementCore.toMembers_eq]

variable {v : Json} {s : SubordinateStatement}

theorem keeps_of_gives {place : Nat} (h : Gives record v place s) : Keeps record s.fields [] s := by
  obtain ⟨_, critical, h₅, hcritical, rfl⟩ := h.seq
  obtain ⟨_, sourceEndpoint, h₄, hsourceEndpoint, rfl⟩ := h₅.seq
  obtain ⟨_, constraints, h₃, hconstraints, rfl⟩ := h₄.seq
  obtain ⟨_, metadataPolicy, h₂, hmetadataPolicy, rfl⟩ := h₃.seq
  obtain ⟨_, metadata, h₁, hmetadata, rfl⟩ := h₂.seq
  obtain ⟨core, hcore, rfl⟩ := h₁.map
  obtain ⟨ncore, kcore⟩ := StatementCore.again_of_gives hcore
  have kmetadata := hmetadata.json
  have kpolicy := hmetadataPolicy.json
  have kconstraints := hconstraints.omittable Constraints.lossless nofun
  have ksource := hsourceEndpoint.omittable lossless_text nofun
  have kcritical := hcritical.collection lossless_texts
  refine ⟨by simp [fields, StatementCore.fields], nofun, ?_, .nil, nofun, nofun, fun t => ?_⟩
  · refine List.forall_mem_append.mpr ⟨ncore, ?_⟩
    simp only [List.forall_mem_cons]
    exact ⟨kmetadata.normal, kpolicy.normal, kconstraints.normal, ksource.normal, kcritical.normal,
      nofun⟩
  · refine ofMembers_seq ?_ (kcritical.ofTable t (by simp [fields]))
    refine ofMembers_seq ?_ (ksource.ofTable t (by simp [fields]))
    refine ofMembers_seq ?_ (kconstraints.ofTable t (by simp [fields]))
    refine ofMembers_seq ?_ (kpolicy.ofTable t (by simp [fields]))
    refine ofMembers_seq ?_ (kmetadata.ofTable t (by simp [fields]))
    exact ofMembers_map (kcore t (List.subset_append_left _ _))

theorem lossless : Lossless ofJson toJson := by
  intro v s hv hs
  exact (keeps_of_gives (gives_of_read hv hs)).returns s.toJson_eq fun _ => rfl

/-- The metadata in a subordinate statement stays as it is.  In an array it is the item behind five
others. -/
theorem memberAt_toJson (hv : v.Normal) (h : ofJson v = .ok s) {m : Json}
    (hm : memberAt "metadata" 5 v = some m) (hne : m ≠ .null) :
    memberAt "metadata" 5 s.toJson = some m := by
  have hgives := gives_of_read hv h
  have hkeeps := keeps_of_gives hgives
  have ht := table_ofMembers hkeeps.nodup hkeeps.sorted hkeeps.fresh
  obtain ⟨_, _, h₅, -, rfl⟩ := hgives.seq
  obtain ⟨_, _, h₄, -, rfl⟩ := h₅.seq
  obtain ⟨_, _, h₃, -, rfl⟩ := h₄.seq
  obtain ⟨_, _, h₂, -, rfl⟩ := h₃.seq
  obtain ⟨_, metadata, h₁, hmetadata, rfl⟩ := h₂.seq
  obtain ⟨_, -, rfl⟩ := h₁.map
  obtain ⟨-, hread⟩ := hmetadata.memberAt hm
  rw [optional_of_ne_null hne] at hread
  obtain rfl : some m = metadata := Except.ok.inj hread
  rw [toJson_eq]
  exact ht.named ("metadata", some m) (by simp [fields])

end SubordinateStatement

/-- The claims of a token are in normal form. -/
theorem Token.normal_claims {text : String} {t : Token} (h : Token.decode text = .ok t) :
    (Json.object t.claims).Normal := by
  unfold Token.decode at h
  dsimp only at h
  split at h
  · obtain ⟨_, -, h⟩ := Outcome.bind_eq_ok.mp h
    obtain ⟨claims, hclaims, h⟩ := Outcome.bind_eq_ok.mp h
    cases h
    unfold Token.claimsOf at hclaims
    split at hclaims
    · cases hclaims
    · split at hclaims
      · cases hclaims
      · rename_i hdocument
        cases hclaims
        exact normal_ofDocument hdocument
      · cases hclaims
  · cases h

namespace Statement

/-- A decoded statement is read again once it is written. -/
theorem returns_of_decode {text : String} {s : Statement} (h : decode text = .ok s) :
    match s with
    | configuration c => Returns EntityConfiguration.ofJson EntityConfiguration.toJson c
    | subordinate s => Returns SubordinateStatement.ofJson SubordinateStatement.toJson s := by
  obtain ⟨t, ht, hs⟩ := Outcome.bind_eq_ok.mp h
  have hnormal := Token.normal_claims ht
  unfold ofToken at hs
  split at hs
  · split at hs
    · obtain ⟨c, hc, rfl⟩ := Outcome.map_eq_ok.mp hs
      have hread := (EntityConfiguration.ofToken_eq_ok.mp hc).1
      exact EntityConfiguration.lossless hnormal (Token.read_eq_ok.mp hread)
    · obtain ⟨c, hc, rfl⟩ := Outcome.map_eq_ok.mp hs
      exact SubordinateStatement.lossless hnormal (Token.read_eq_ok.mp hc)
  · cases hs

/-- Nothing that is read of statements and of the records in them is lost when it is written, and
what metadata holds beside its named members stays as it is. -/
theorem codecs_faithful {v : Json} (hv : v.Normal) :
    Settles EntityConfiguration.ofJson EntityConfiguration.toJson v ∧
      Settles SubordinateStatement.ofJson SubordinateStatement.toJson v ∧
      Settles Metadata.ofJson Metadata.toJson v ∧
      Settles FederationMetadata.ofJson FederationMetadata.toJson v ∧
      Settles Constraints.ofJson Constraints.toJson v ∧
      Settles TrustMarkOwner.ofJson TrustMarkOwner.toJson v ∧
      Settles TrustMarkEntry.ofJson TrustMarkEntry.toJson v ∧
      Settles TrustMarkClaims.ofJson TrustMarkClaims.toJson v ∧
      (∀ m, Metadata.ofJson v = .ok m → Metadata.Survives v m.toJson) ∧
      (∀ m, FederationMetadata.ofJson v = .ok m →
        AgreeBeside FederationMetadata.names v m.toJson) ∧
      (∀ c m, EntityConfiguration.ofJson v = .ok c → memberAt "metadata" 6 v = some m →
        ∃ m', memberAt "metadata" 6 c.toJson = some m' ∧ Metadata.Survives m m') ∧
      ∀ s m, SubordinateStatement.ofJson v = .ok s → memberAt "metadata" 5 v = some m →
        m ≠ .null → memberAt "metadata" 5 s.toJson = some m :=
  ⟨EntityConfiguration.lossless.settles hv, SubordinateStatement.lossless.settles hv,
    Metadata.lossless.settles hv, FederationMetadata.lossless.settles hv,
    Constraints.lossless.settles hv, TrustMarkOwner.lossless.settles hv,
    TrustMarkEntry.lossless.settles hv, TrustMarkClaims.lossless.settles hv,
    fun _ hm => Metadata.survives_toJson hv hm,
    fun _ hm => FederationMetadata.agreeBeside_toJson hv hm,
    fun _ _ hc hm => EntityConfiguration.survives_toJson hv hc hm,
    fun _ _ hs hm hne => SubordinateStatement.memberAt_toJson hv hs hm hne⟩

section Sample

/-- A configuration whose metadata holds more than its named members, and whose trust mark has its
identifier under the second name. -/
def sampleRead : Json :=
  .object [("exp", .integer 2), ("iat", .integer 1), ("iss", .string "https://a.example"),
    ("jwks", .object [("keys", .array [])]),
    ("metadata", .object [
      ("federation_entity", .object [("federation_list_endpoint", .null),
        ("logo_uri", .string "https://a.example/logo"), ("organization_name", .string "A")]),
      ("openid_provider", .object [("issuer", .string "https://a.example")])]),
    ("sub", .string "https://a.example"),
    ("trust_marks", .array [.object [("trust_mark", .string "t"), ("trust_mark_id", .string "i")]])]

/-- The configuration as it is written. -/
def sampleWritten : Json :=
  .object [("exp", .integer 2), ("iat", .integer 1), ("iss", .string "https://a.example"),
    ("jwks", .object [("keys", .array [])]),
    ("metadata", .object [
      ("federation_entity", .object [("logo_uri", .string "https://a.example/logo"),
        ("organization_name", .string "A")]),
      ("openid_provider", .object [("issuer", .string "https://a.example")])]),
    ("sub", .string "https://a.example"),
    ("trust_marks", .array [.object [("id", .string "i"), ("trust_mark", .string "t")]])]

theorem normal_sampleRead : sampleRead.Normal := by
  simp only [sampleRead, normal_object, normal_array, List.forall_mem_cons, List.not_mem_nil,
    Normal.null, Normal.integer, Normal.string, true_and, and_true, false_implies, implies_true]
  decide

theorem codecs_faithful_sample :
    (EntityConfiguration.ofJson sampleRead).map EntityConfiguration.toJson = .ok sampleWritten ∧
      (EntityConfiguration.ofJson sampleWritten).map EntityConfiguration.toJson =
        .ok sampleWritten ∧
      ∃ m m', memberAt "metadata" 6 sampleRead = some m ∧
        memberAt "metadata" 6 sampleWritten = some m' ∧ Metadata.Survives m m' := by
  have hwritten : (EntityConfiguration.ofJson sampleRead).map EntityConfiguration.toJson =
      .ok sampleWritten := by decide
  obtain ⟨hsettles, -, -, -, -, -, -, -, -, -, hsurvives, -⟩ := codecs_faithful normal_sampleRead
  obtain ⟨c, hc, heq⟩ := Outcome.map_eq_ok.mp hwritten
  obtain ⟨m', hm', hkept⟩ := hsurvives c _ hc rfl
  exact ⟨hwritten, hsettles.idempotent _ hwritten, _, m', rfl, heq ▸ hm', hkept⟩

end Sample

end Statement
end EntityTrust
