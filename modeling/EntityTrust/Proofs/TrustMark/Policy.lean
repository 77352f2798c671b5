import EntityTrust.Proofs.Discovery.Soundness
import EntityTrust.Proofs.TrustMark.Claims

/-!
# The policy for trust marks

The validation of a mark against a description of what it accepts, in a world that may answer
anything and whose checks are a fixed predicate.

**Policy.**  A mark in order has not expired and is signed with a key of the configuration that its
issuer serves (`IssuedBy`).  `Permits` is what the anchor asks beyond that: for an identifier with
an owner a delegation that the owner signed and issued, for any other one an issuer that is listed.

**Results.**
* `runFrom_checkMark_eq_ok`: what passing all rules consists of, the one request included.
* `validate_eq_of_owner`: the issuers that an anchor lists do not matter for an identifier that has
  an owner.
* `validate_valid_iff_policy`: a verdict is valid exactly when the policy accepts the mark.
-/

namespace EntityTrust
namespace TrustMark

open Discovery Outcome

section Policy

variable (w : World) (past : Past)

/-- A token is signed with a key that its issuer publishes: the text served at the issuer's
configuration URL is a self-verified configuration with exactly this subject, and its keys verify
the token. -/
structure IssuedBy (t : Token) (issuer url text : String) (v : Verified) : Prop where
  located : Location.configuration issuer = .ok url
  served : w.answer past url = .ok text
  verified : w.SelfVerified text v
  named : v.configuration.subject = issuer
  signed : w.verifies t v.configuration.keys = true

/-- A token with the claims of a mark has not expired and is signed by its issuer. -/
structure InOrder (now : Int) (t : Token) (c : TrustMarkClaims) : Prop where
  unexpired : ∀ exp, c.expiresAt = some exp → now < exp
  issued : ∃ url text v, IssuedBy w past t c.issuer url text v

/-- A delegation that an owner signed and issued. -/
structure DelegatedBy (owner : TrustMarkOwner) (d : Token) : Prop where
  signed : w.verifies d owner.keys = true
  issuer : d.claim "iss" = some (.string owner.subject)

/-- What an anchor asks of a mark. -/
inductive Permits (anchor : EntityConfiguration) (c : TrustMarkClaims) : Prop
  | owned {owner : TrustMarkOwner} {text : String} {d : Token}
      (owns : anchor.trustMarkOwners.lookup c.id = some owner) (carried : c.delegation = some text)
      (decoded : Token.decode text = .ok d) (delegated : DelegatedBy w owner d)
  | listed {issuers : List String} (unowned : anchor.trustMarkOwners.lookup c.id = none)
      (known : anchor.trustMarkIssuers.lookup c.id = some issuers) (member : c.issuer ∈ issuers)

end Policy

section Runs

variable {w : World} {past past' : Past}

theorem runFrom_step {α : Type} (x : Except MarkRejection α) :
    runFrom (step (m := StateM Past) x) past = (x, past) := rfl

theorem runFrom_step_eq_ok {α : Type} {x : Except MarkRejection α} {a : α} :
    runFrom (step (m := StateM Past) x) past = (.ok a, past') ↔ x = .ok a ∧ past = past' := by
  rw [runFrom_step, Prod.mk.injEq]

theorem runFrom_fetchIssuer_eq_ok {url text : String} :
    runFrom (fetchIssuer w.federation url) past = (.ok text, past') ↔
      w.answer past url = .ok text ∧ past ++ [⟨url, .ok text⟩] = past' := by
  have hrun : runFrom (fetchIssuer w.federation url) past =
      ((w.answer past url).mapError .issuerNotFetched, past ++ [⟨url, w.answer past url⟩]) := by
    simp only [runFrom, fetchIssuer, World.federation, StateT.run, ExceptT.run, ExceptT.mk, bind,
      StateT.bind]
    cases w.answer past url <;> rfl
  rw [hrun]
  cases w.answer past url with
  | error e => simp [Except.mapError]
  | ok raw =>
      rw [Except.mapError, Prod.mk.injEq, Except.ok.injEq, Except.ok.injEq]
      constructor
      · rintro ⟨rfl, rfl⟩
        exact ⟨rfl, rfl⟩
      · rintro ⟨rfl, rfl⟩
        exact ⟨rfl, rfl⟩

theorem runFrom_demand_eq_ok {t : Token} {keys : KeySet} {r : MarkRejection} {u : Unit} :
    runFrom (demand w.federation t keys r) past = (.ok u, past') ↔
      w.verifies t keys = true ∧ past = past' := by
  have hverifies : w.federation.verifies t keys = pure (w.verifies t keys) := by
    unfold Federation.verifies World.verifies TrustChain.verifies Signature.verifyWith
      World.federation
    cases t.keyId with
    | none => rfl
    | some id =>
        cases hk : keys.find? id with
        | none =>
            simp only [hk]
            rfl
        | some k => simp only [hk]
  have hrun : runFrom (demand w.federation t keys r) past =
      (if w.verifies t keys then .ok () else .error r, past) := by
    simp only [runFrom, demand, hverifies]
    rfl
  rw [hrun, Prod.mk.injEq]
  cases w.verifies t keys <;> simp

theorem readIssuer_eq_ok {text : String} {t : Token} {c : EntityConfiguration} :
    readIssuer text = .ok (t, c) ↔
      Token.decode text = .ok t ∧ EntityConfiguration.ofToken t = .ok c := by
  constructor
  · intro h
    unfold readIssuer at h
    split at h
    · cases h
    · rename_i t' hdecoded
      split at h
      · cases h
      · rename_i c' hread
        cases h
        exact ⟨hdecoded, hread⟩
  · rintro ⟨hdecoded, hread⟩
    simp only [readIssuer, hdecoded, hread]

theorem readDelegation_eq_ok {id : String} {delegation : Option String} {d : Token} :
    readDelegation id delegation = .ok d ↔
      ∃ text, delegation = some text ∧ Token.decode text = .ok d := by
  constructor
  · intro h
    unfold readDelegation at h
    split at h
    · cases h
    · rename_i text
      split at h
      · cases h
      · rename_i d' hdecoded
        cases h
        exact ⟨text, rfl, hdecoded⟩
  · rintro ⟨text, rfl, hdecoded⟩
    simp only [readDelegation, hdecoded]

theorem claimText_eq_some {t : Token} {name text : String} :
    t.claimText name = some text ↔ t.claim name = some (.string text) := by
  unfold Token.claimText
  cases t.claim name with
  | none => simp
  | some v => cases v <;> simp [Json.string?]

/-- The signature of a mark is accepted after one request, when its issuer publishes the key. -/
theorem runFrom_checkSignature_eq_ok {t : Token} {issuer : String} {u : Unit} :
    runFrom (checkSignature w.federation t issuer) past = (.ok u, past') ↔
      ∃ url text v, IssuedBy w past t issuer url text v ∧ past ++ [⟨url, .ok text⟩] = past' := by
  unfold checkSignature
  cases hurl : Location.configuration issuer with
  | error e =>
      refine iff_of_false runFrom_throw_ne_ok ?_
      rintro ⟨url, text, v, hissued, -⟩
      rw [hissued.located] at hurl
      cases hurl
  | ok url =>
      simp only [runFrom_bind_eq_ok, runFrom_fetchIssuer_eq_ok, runFrom_step_eq_ok, Prod.exists,
        runFrom_guard_bind_eq_ok, runFrom_demand_eq_ok]
      constructor
      · rintro ⟨text, _, ⟨hserved, rfl⟩, t', c, _, ⟨hread, rfl⟩, hnamed, _, _, ⟨hself, rfl⟩,
          hsigned, rfl⟩
        obtain ⟨hdecoded, hread⟩ := readIssuer_eq_ok.mp hread
        exact ⟨url, text, ⟨t', c⟩, ⟨hurl, hserved, ⟨hdecoded, hread, hself⟩, hnamed, hsigned⟩, rfl⟩
      · rintro ⟨url', text, v, hissued, rfl⟩
        obtain rfl : url = url' := Except.ok.inj (hurl.symm.trans hissued.located)
        exact ⟨text, _, ⟨hissued.served, rfl⟩, v.token, v.configuration, _,
          ⟨readIssuer_eq_ok.mpr ⟨hissued.verified.decoded, hissued.verified.read⟩, rfl⟩,
          hissued.named, (), _, ⟨hissued.verified.signed, rfl⟩, hissued.signed, rfl⟩

theorem runFrom_checkDelegation_eq_ok {owner : TrustMarkOwner} {c : TrustMarkClaims} {u : Unit} :
    runFrom (checkDelegation w.federation owner c) past = (.ok u, past') ↔
      (∃ text d, c.delegation = some text ∧ Token.decode text = .ok d ∧ DelegatedBy w owner d) ∧
        past = past' := by
  unfold checkDelegation
  simp only [runFrom_bind_eq_ok, runFrom_step_eq_ok, runFrom_demand_eq_ok, runFrom_guard_eq_ok,
    readDelegation_eq_ok]
  constructor
  · rintro ⟨d, _, ⟨⟨text, hcarried, hdecoded⟩, rfl⟩, _, _, ⟨hsigned, rfl⟩, hissuer, rfl⟩
    exact ⟨⟨text, d, hcarried, hdecoded, hsigned, claimText_eq_some.mp hissuer⟩, rfl⟩
  · rintro ⟨⟨text, d, hcarried, hdecoded, hdelegated⟩, rfl⟩
    exact ⟨d, _, ⟨⟨text, hcarried, hdecoded⟩, rfl⟩, (), _, ⟨hdelegated.signed, rfl⟩,
      claimText_eq_some.mpr hdelegated.issuer, rfl⟩

theorem checkIssuer_eq_ok {anchor : EntityConfiguration} {c : TrustMarkClaims} {u : Unit} :
    checkIssuer anchor c = .ok u ↔
      ∃ issuers, anchor.trustMarkIssuers.lookup c.id = some issuers ∧ c.issuer ∈ issuers := by
  unfold checkIssuer
  cases anchor.trustMarkIssuers.lookup c.id with
  | none => simp
  | some issuers => by_cases h : c.issuer ∈ issuers <;> simp [h]

/-- A mark passes all rules after one request, when it is in order and the anchor permits it. -/
theorem runFrom_checkMark_eq_ok {anchor : EntityConfiguration} {now : Int} {raw : String}
    {u : Unit} :
    runFrom (checkMark w.federation anchor now raw) past = (.ok u, past') ↔
      ∃ t c url text v, ReadsAs raw t c ∧ (∀ exp, c.expiresAt = some exp → now < exp) ∧
        IssuedBy w past t c.issuer url text v ∧ Permits w anchor c ∧
        past ++ [⟨url, .ok text⟩] = past' := by
  unfold checkMark
  simp only [runFrom_bind_eq_ok, runFrom_step_eq_ok, runFrom_checkSignature_eq_ok, readMark_eq_ok]
  have hdecode : ∀ t, (Token.decode raw).mapError MarkRejection.undecodable = .ok t ↔
      Token.decode raw = .ok t := by
    intro t
    cases Token.decode raw <;> simp [Except.mapError]
  constructor
  · rintro ⟨t, _, ⟨ht, rfl⟩, c, _, ⟨⟨hread, hexp⟩, rfl⟩, _, _, ⟨url, text, v, hissued, rfl⟩, hrest⟩
    have hreads : ReadsAs raw t c := ⟨(hdecode t).mp ht, hread⟩
    cases howner : anchor.trustMarkOwners.lookup c.id with
    | some owner =>
        simp only [howner, runFrom_checkDelegation_eq_ok] at hrest
        obtain ⟨⟨text', d, hcarried, hdecoded, hdelegated⟩, rfl⟩ := hrest
        exact ⟨t, c, url, text, v, hreads, hexp, hissued,
          .owned howner hcarried hdecoded hdelegated, rfl⟩
    | none =>
        simp only [howner, runFrom_step_eq_ok, checkIssuer_eq_ok] at hrest
        obtain ⟨⟨issuers, hknown, hmember⟩, rfl⟩ := hrest
        exact ⟨t, c, url, text, v, hreads, hexp, hissued, .listed howner hknown hmember, rfl⟩
  · rintro ⟨t, c, url, text, v, hreads, hexp, hissued, hpermits, rfl⟩
    refine ⟨t, _, ⟨(hdecode t).mpr hreads.decoded, rfl⟩, c, _, ⟨⟨hreads.read, hexp⟩, rfl⟩, (), _,
      ⟨url, text, v, hissued, rfl⟩, ?_⟩
    cases hpermits with
    | owned howner hcarried hdecoded hdelegated =>
        simp only [howner, runFrom_checkDelegation_eq_ok]
        exact ⟨⟨_, _, hcarried, hdecoded, hdelegated⟩, trivial⟩
    | listed howner hknown hmember =>
        simp only [howner, runFrom_step_eq_ok, checkIssuer_eq_ok]
        exact ⟨⟨_, hknown, hmember⟩, trivial⟩

end Runs

section Verdicts

variable {w : World} {past : Past} {anchor : EntityConfiguration} {now : Int} {raw : String}

/-- The verdict on a mark at a point of the past. -/
def verdictIn (w : World) (past : Past) (anchor : EntityConfiguration) (now : Int) (raw : String) :
    Verdict :=
  ((validate w.federation anchor now raw).run past).1

theorem run_validate :
    (validate w.federation anchor now raw).run past =
      (runFrom (checkMark w.federation anchor now raw) past).map verdictOf id := by
  unfold validate runFrom
  generalize checkMark w.federation anchor now raw = x
  rfl

theorem verdictIn_eq :
    verdictIn w past anchor now raw =
      verdictOf (runFrom (checkMark w.federation anchor now raw) past).1 := by
  rw [verdictIn, run_validate, Prod.map_fst]

theorem verdictIn_isValid_iff :
    (verdictIn w past anchor now raw).isValid = true ↔
      ∃ t c, ReadsAs raw t c ∧ InOrder w past now t c ∧ Permits w anchor c := by
  rw [verdictIn_eq]
  rcases hrun : runFrom (checkMark w.federation anchor now raw) past with ⟨r | u, past'⟩
  · refine iff_of_false Bool.false_ne_true ?_
    rintro ⟨t, c, hreads, ⟨hexp, url, text, v, hissued⟩, hpermits⟩
    have hok : runFrom (checkMark w.federation anchor now raw) past = (.ok (), _) :=
      runFrom_checkMark_eq_ok.mpr ⟨t, c, url, text, v, hreads, hexp, hissued, hpermits, rfl⟩
    rw [hrun] at hok
    cases hok
  · refine iff_of_true rfl ?_
    obtain ⟨t, c, url, text, v, hreads, hexp, hissued, hpermits, -⟩ :=
      runFrom_checkMark_eq_ok.mp hrun
    exact ⟨t, c, hreads, ⟨hexp, url, text, v, hissued⟩, hpermits⟩

/-- The claims of a mark are determined by its text. -/
theorem ReadsAs.unique {t t' : Token} {c c' : TrustMarkClaims} (h : ReadsAs raw t c)
    (h' : ReadsAs raw t' c') : t = t' ∧ c = c' := by
  obtain rfl : t = t' := Except.ok.inj (h.decoded.symm.trans h'.decoded)
  exact ⟨rfl, Except.ok.inj (h.read.symm.trans h'.read)⟩

section Steps

variable {m : Type → Type} [Monad m] [LawfulMonad m] {α β : Type}

theorem step_ok_bind (a : α) (g : α → ExceptT MarkRejection m β) : step (.ok a) >>= g = g a :=
  pure_bind a g

theorem step_error_bind (r : MarkRejection) (g : α → ExceptT MarkRejection m β) :
    step (.error r) >>= g = step (.error r) :=
  pure_bind (.error r) (ExceptT.bindCont g)

/-- For an identifier that has an owner, the issuers that the anchor lists do not matter: neither
the verdict nor what is requested depends on them. -/
theorem validate_eq_of_owner {f : Federation m} {t : Token} {c : TrustMarkClaims}
    {owner : TrustMarkOwner} (hreads : ReadsAs raw t c)
    (howner : anchor.trustMarkOwners.lookup c.id = some owner)
    (issuers : List (String × List String)) :
    validate f { anchor with trustMarkIssuers := issuers } now raw = validate f anchor now raw := by
  have hcheck : checkMark f { anchor with trustMarkIssuers := issuers } now raw =
      checkMark f anchor now raw := by
    unfold checkMark
    simp only [hreads.decoded, Except.mapError, step_ok_bind]
    cases hmark : readMark t now with
    | error r => simp only [step_error_bind]
    | ok c' =>
        obtain rfl : c' = c := Except.ok.inj ((readMark_eq_ok.mp hmark).1.symm.trans hreads.read)
        simp only [step_ok_bind, howner]
  rw [validate, hcheck, validate]

end Steps

/-- A verdict is valid exactly when the text is a mark in order that the anchor permits; for an
identifier that has an owner, no change of the listed issuers changes the verdict. -/
theorem validate_valid_iff_policy :
    ((verdictIn w past anchor now raw).isValid = true ↔
        ∃ t c, ReadsAs raw t c ∧ InOrder w past now t c ∧ Permits w anchor c) ∧
      ∀ t c owner issuers, ReadsAs raw t c → anchor.trustMarkOwners.lookup c.id = some owner →
        verdictIn w past { anchor with trustMarkIssuers := issuers } now raw =
          verdictIn w past anchor now raw := by
  refine ⟨verdictIn_isValid_iff, fun t c owner issuers hreads howner => ?_⟩
  unfold verdictIn
  rw [validate_eq_of_owner hreads howner issuers]

end Verdicts

namespace Sample

open Discovery.Sample

/-- An owner of marks. -/
def owner : TrustMarkOwner :=
  ⟨"o:", keys ""⟩

/-- The anchor `t:`, for which marks called `m` and marks called `l` have an owner. -/
def anchor : EntityConfiguration :=
  { configuration "t:" [] .empty with trustMarkOwners := [("m", owner), ("l", owner)] }

def delegationText : String :=
  token "eyJpZCI6Im4iLCJpc3MiOiJvOiIsInN1YiI6Ing6In0"

/-- A delegation that `o:` made for `x:` and marks called `n`. -/
def delegation : Token :=
  ⟨delegationText, header, [("id", .string "n"), ("iss", .string "o:"), ("sub", .string "x:")]⟩

def markText : String :=
  token ("eyJkZWxlZ2F0aW9uIjoiZXlKaGJHY2lPaUpGWkVSVFFTSXNJbXRwWkNJNkltc2lmUS5leUpwWkNJNkltNGlMQ0pwYzN" ++
    "NaU9pSnZPaUlzSW5OMVlpSTZJbmc2SW4wLiIsImlkIjoibSIsImlzcyI6InM6In0")

/-- A mark called `m`, issued by `s:` with that delegation. -/
def mark : Token :=
  ⟨markText, header, [("delegation", .string delegationText), ("id", .string "m"),
    ("iss", .string "s:")]⟩

def markClaims : TrustMarkClaims :=
  ⟨"s:", "m", none, none, none, some delegationText⟩

theorem decoded : Token.decode delegationText = .ok delegation ∧
    Token.decode markText = .ok mark := by
  refine ⟨decode_token ?_ ?_, decode_token ?_ ?_⟩
  all_goals decide +kernel

theorem reads : ReadsAs markText mark markClaims :=
  ⟨decoded.2, rfl⟩

theorem delegated : DelegatedBy world owner delegation :=
  ⟨rfl, rfl⟩

theorem inOrder : InOrder world [] 5 mark markClaims :=
  ⟨by simp [markClaims], "s:/.well-known/openid-federation", token leafPayload, leaf, rfl, rfl,
    leaf_verified, rfl, rfl⟩

theorem permits : Permits world anchor markClaims :=
  .owned rfl rfl decoded.1 delegated

end Sample

/-- A mark with a delegation by its owner is accepted, whatever issuers the anchor lists. -/
theorem validate_valid_iff_policy_sample :
    (verdictIn Discovery.Sample.world [] Sample.anchor 5 Sample.markText).isValid = true ∧
      ReadsAs Sample.markText Sample.mark Sample.markClaims ∧
      Sample.anchor.trustMarkOwners.lookup Sample.markClaims.id = some Sample.owner ∧
      verdictIn Discovery.Sample.world [] { Sample.anchor with trustMarkIssuers := [("m", ["x:"])] } 5
          Sample.markText =
        verdictIn Discovery.Sample.world [] Sample.anchor 5 Sample.markText :=
  ⟨validate_valid_iff_policy.1.mpr
      ⟨Sample.mark, Sample.markClaims, Sample.reads, Sample.inOrder, Sample.permits⟩,
    Sample.reads, rfl,
    validate_valid_iff_policy.2 Sample.mark Sample.markClaims Sample.owner _ Sample.reads rfl⟩

end TrustMark
end EntityTrust
