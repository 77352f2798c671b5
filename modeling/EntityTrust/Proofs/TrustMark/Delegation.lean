import EntityTrust.Proofs.TrustMark.Policy

/-!
# What a delegation is good for

An owner signs a delegation for one issuer and one identifier of a mark.  A validator compares the
issuer of the delegation with the owner and looks at nothing else in it, so that the delegation
serves every mark it is attached to.

**Results.**
* `owned_isValid_iff`: when a mark of an owned identifier is accepted.
* `delegation_bound_iff`: an accepted delegation comes from the owner; it serves every mark in order
  of that owner; so accepted delegations name issuer and mark exactly when the issuers attach no
  other ones.
* `replayed_delegation_accepted`: a mark with a delegation for another issuer and another mark.
-/

namespace EntityTrust
namespace TrustMark

open Discovery

/-- A delegation names an issuer and the mark that the issuer may issue. -/
def Names (d : Token) (issuer id : String) : Prop :=
  d.claim "sub" = some (.string issuer) ∧
    (d.claim "id" = some (.string id) ∨ d.claim "trust_mark_id" = some (.string id))

/-- A mark carries a delegation. -/
def Carries (c : TrustMarkClaims) (d : Token) : Prop :=
  ∃ text, c.delegation = some text ∧ Token.decode text = .ok d

section Delegations

variable {w : World} {past : Past} {anchor : EntityConfiguration} {now : Int}

/-- A mark carries one delegation at most. -/
theorem Carries.unique {c : TrustMarkClaims} {d d' : Token} (h : Carries c d) (h' : Carries c d') :
    d = d' := by
  obtain ⟨text, htext, hd⟩ := h
  obtain ⟨text', htext', hd'⟩ := h'
  obtain rfl : text = text' := Option.some.inj (htext.symm.trans htext')
  exact Except.ok.inj (hd.symm.trans hd')

/-- A mark of an owned identifier is accepted when it is in order and carries a delegation that the
owner signed and issued. -/
theorem owned_isValid_iff {raw : String} {t : Token} {c : TrustMarkClaims} {owner : TrustMarkOwner}
    (hreads : ReadsAs raw t c) (howner : anchor.trustMarkOwners.lookup c.id = some owner) :
    (verdictIn w past anchor now raw).isValid = true ↔
      InOrder w past now t c ∧ ∃ d, Carries c d ∧ DelegatedBy w owner d := by
  rw [verdictIn_isValid_iff]
  constructor
  · rintro ⟨t', c', hreads', horder, hpermits⟩
    obtain ⟨rfl, rfl⟩ := hreads.unique hreads'
    cases hpermits with
    | owned howner' hcarried hdecoded hdelegated =>
        obtain rfl := Option.some.inj (howner.symm.trans howner')
        exact ⟨horder, _, ⟨_, hcarried, hdecoded⟩, hdelegated⟩
    | listed hunowned =>
        rw [howner] at hunowned
        cases hunowned
  · rintro ⟨horder, d, ⟨text, hcarried, hdecoded⟩, hdelegated⟩
    exact ⟨t, c, hreads, horder, .owned howner hcarried hdecoded hdelegated⟩

/-- What is known of the delegations of one owner that are accepted: the owner signed and issued
them; a delegation that is accepted with one mark is accepted with every mark in order that carries
it; and they name issuer and mark exactly when no mark in order carries another delegation. -/
theorem delegation_bound_iff (owner : TrustMarkOwner) :
    (∀ raw t c, ReadsAs raw t c → anchor.trustMarkOwners.lookup c.id = some owner →
        (verdictIn w past anchor now raw).isValid = true →
        ∃ d, Carries c d ∧ DelegatedBy w owner d) ∧
      (∀ raw t c raw' t' c', ReadsAs raw t c → ReadsAs raw' t' c' →
        anchor.trustMarkOwners.lookup c.id = some owner →
        anchor.trustMarkOwners.lookup c'.id = some owner → c'.delegation = c.delegation →
        (verdictIn w past anchor now raw).isValid = true →
        ((verdictIn w past anchor now raw').isValid = true ↔ InOrder w past now t' c')) ∧
      ((∀ raw t c d, ReadsAs raw t c → anchor.trustMarkOwners.lookup c.id = some owner →
          (verdictIn w past anchor now raw).isValid = true → Carries c d → Names d c.issuer c.id) ↔
        ∀ raw t c d, ReadsAs raw t c → anchor.trustMarkOwners.lookup c.id = some owner →
          InOrder w past now t c → Carries c d → DelegatedBy w owner d →
          Names d c.issuer c.id) := by
  refine ⟨fun raw t c hreads howner hvalid => ((owned_isValid_iff hreads howner).mp hvalid).2,
    ?_, ?_, ?_⟩
  · intro raw t c raw' t' c' hreads hreads' howner howner' hsame hvalid
    obtain ⟨-, d, ⟨text, hcarried, hdecoded⟩, hdelegated⟩ :=
      (owned_isValid_iff hreads howner).mp hvalid
    have hcarried' : Carries c' d := ⟨text, hsame.trans hcarried, hdecoded⟩
    rw [owned_isValid_iff hreads' howner']
    exact and_iff_left ⟨d, hcarried', hdelegated⟩
  · intro h raw t c d hreads howner horder hcarries hdelegated
    exact h raw t c d hreads howner
      ((owned_isValid_iff hreads howner).mpr ⟨horder, d, hcarries, hdelegated⟩) hcarries
  · intro h raw t c d hreads howner hvalid hcarries
    obtain ⟨horder, d', hcarries', hdelegated⟩ := (owned_isValid_iff hreads howner).mp hvalid
    obtain rfl := hcarries.unique hcarries'
    exact h raw t c d hreads howner horder hcarries hdelegated

end Delegations

namespace Sample

open Discovery.Sample

def otherText : String :=
  token
    ("eyJkZWxlZ2F0aW9uIjoiZXlKaGJHY2lPaUpGWkVSVFFTSXNJbXRwWkNJNkltc2lmUS5leUpwWkNJNkltNGlMQ0pwYzN" ++
      "NaU9pSnZPaUlzSW5OMVlpSTZJbmc2SW4wLiIsImlkIjoibCIsImlzcyI6InM6In0")

/-- A mark called `l`, issued by `s:` with the same delegation. -/
def other : Token :=
  ⟨otherText, header, [("delegation", .string delegationText),
    ("id", .string "l"), ("iss", .string "s:")]⟩

def otherClaims : TrustMarkClaims :=
  ⟨"s:", "l", none, none, none, some delegationText⟩

theorem other_reads : ReadsAs otherText other otherClaims :=
  ⟨decode_token (by decide +kernel) (by decide +kernel), rfl⟩

theorem other_inOrder : InOrder world [] 5 other otherClaims :=
  ⟨by simp [otherClaims], "s:/.well-known/openid-federation",
    token leafPayload, leaf, rfl, rfl,
    leaf_verified, rfl, rfl⟩

theorem carries : Carries markClaims delegation :=
  ⟨delegationText, rfl, decoded.1⟩

theorem not_names : ¬ Names delegation "s:" "m" := by
  rintro ⟨hsubject, -⟩
  simp [delegation, Token.claim, lookup_cons] at hsubject

theorem accepted : (verdictIn world [] anchor 5 markText).isValid = true :=
  (owned_isValid_iff reads rfl).mpr ⟨inOrder, delegation, carries, delegated⟩

end Sample

/-- The delegation that is accepted with the mark called `m` is accepted with the one called `l`. -/
theorem delegation_bound_iff_sample :
    (∃ d, Carries Sample.markClaims d ∧ DelegatedBy Discovery.Sample.world Sample.owner d) ∧
      ReadsAs Sample.otherText Sample.other Sample.otherClaims ∧
      (verdictIn Discovery.Sample.world [] Sample.anchor 5 Sample.otherText).isValid = true :=
  ⟨(delegation_bound_iff Sample.owner).1 Sample.markText Sample.mark Sample.markClaims Sample.reads
      rfl Sample.accepted, Sample.other_reads,
    ((delegation_bound_iff Sample.owner).2.1 Sample.markText Sample.mark Sample.markClaims
      Sample.otherText Sample.other Sample.otherClaims Sample.reads Sample.other_reads rfl rfl rfl
      Sample.accepted).mpr Sample.other_inOrder⟩

/-- A mark is accepted with a delegation that its owner made for another issuer and another mark. -/
theorem replayed_delegation_accepted :
    ReadsAs Sample.markText Sample.mark Sample.markClaims ∧
      Sample.anchor.trustMarkOwners.lookup Sample.markClaims.id = some Sample.owner ∧
      (verdictIn Discovery.Sample.world [] Sample.anchor 5 Sample.markText).isValid = true ∧
      Carries Sample.markClaims Sample.delegation ∧
      ¬ Names Sample.delegation Sample.markClaims.issuer Sample.markClaims.id :=
  ⟨Sample.reads, rfl, Sample.accepted, Sample.carries, Sample.not_names⟩

end TrustMark
end EntityTrust
