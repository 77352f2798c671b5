import EntityTrust.Discovery.Resolution
import EntityTrust.Proofs.Chain.Accessors

/-!
# The subject of a chain that was found

The identifier of an authority is compared with the hint that led to it.  The identifier of the
entity that a search starts from is compared with nothing: whatever self-verified configuration is
served at its URL becomes the foot of the chain.

**Results.**
* `Given.findChain`: every chain that is given comes from a search.
* `subject_given_iff`: a chain is about the requested entity exactly when the configuration served
  for it is.
-/

namespace EntityTrust
namespace Discovery

/-- The report of a search. -/
def World.resolve (w : World) (settings : Settings) (id : String) (anchors : List String)
    (depth : Option Nat) : Resolution :=
  ((Discovery.resolve w.federation settings id anchors depth).run []).1

/-- The report of a search for a chain that verifies. -/
def World.resolveVerified (w : World) (settings : Settings) (verifier : Verifier (StateM Past))
    (id : String) (anchors : List String) (now : Int) : Resolution :=
  ((Discovery.resolveVerified w.federation settings verifier id anchors now).run []).1

/-- A chain is given for an entity: by a search, or by one of the reports on it. -/
inductive Given (w : World) (id : String) (anchors : List String) (c : TrustChain) : Prop
  | searched {levels : Nat} :
      (w.findChain id anchors levels).1 = .ok (some c) → Given w id anchors c
  | resolved {settings : Settings} {depth : Option Nat} :
      (w.resolve settings id anchors depth).chain = some c → Given w id anchors c
  | verified {settings : Settings} {verifier : Verifier (StateM Past)} {now : Int} :
      (w.resolveVerified settings verifier id anchors now).chain = some c → Given w id anchors c

variable {w : World} {id : String} {anchors : List String} {c : TrustChain}

theorem run_resolve (settings : Settings) (depth : Option Nat) :
    (Discovery.resolve w.federation settings id anchors depth).run [] =
      (Resolution.ofOutcome (w.findChain id anchors (depth.getD settings.maxDepth)).1,
        (w.findChain id anchors (depth.getD settings.maxDepth)).2) := by
  simp only [Discovery.resolve, StateT.run_bind]
  rfl

theorem chain_ofOutcome {o : Except FetchError (Option TrustChain)} :
    (Resolution.ofOutcome o).chain = some c ↔ o = .ok (some c) := by
  rcases o with e | _ | c' <;> simp [Resolution.ofOutcome, Resolution.failure, Resolution.notFound,
    Resolution.found]

theorem chain_resolve {settings : Settings} {depth : Option Nat} :
    (w.resolve settings id anchors depth).chain = some c ↔
      (w.findChain id anchors (depth.getD settings.maxDepth)).1 = .ok (some c) := by
  rw [World.resolve, run_resolve, chain_ofOutcome]

/-- A report on a verified chain reports the chain of the search or none. -/
theorem chain_resolveVerified {settings : Settings} {verifier : Verifier (StateM Past)} {now : Int}
    (h : (w.resolveVerified settings verifier id anchors now).chain = some c) :
    (w.findChain id anchors settings.maxDepth).1 = .ok (some c) := by
  unfold World.resolveVerified Discovery.resolveVerified at h
  simp only [StateT.run_bind, run_resolve, Option.getD_none] at h
  generalize w.findChain id anchors settings.maxDepth = outcome at h ⊢
  obtain ⟨e | _ | c', past⟩ := outcome
  · cases h
  · cases h
  · simp only [Resolution.ofOutcome, Resolution.found, bind] at h
    split at h
    · cases h
    · simp only [StateT.run, StateT.bind, bind] at h
      split at h
      split at h
      · cases h
        rfl
      · cases h

/-- Every chain that is given comes from a search. -/
theorem Given.findChain (h : Given w id anchors c) :
    ∃ levels past, w.findChain id anchors levels = (.ok (some c), past) := by
  cases h with
  | searched h => exact ⟨_, fst_findChain_eq_ok.mp h⟩
  | resolved h => exact ⟨_, fst_findChain_eq_ok.mp (chain_resolve.mp h)⟩
  | verified h => exact ⟨_, fst_findChain_eq_ok.mp (chain_resolveVerified h)⟩

/-- A chain that is given is about the entity whose self-verified configuration was served for the
requested one, so it is about the requested entity exactly when that configuration is. -/
theorem subject_given_iff (h : Given w id anchors c) :
    ∃ url raw v keyId, SetsOut w id url raw v keyId ∧ c.subject = .ok v.configuration.subject ∧
      ((∃ s, c.subject = .ok s ∧ Location.canonical s = Location.canonical id) ↔
        Location.canonical v.configuration.subject = Location.canonical id) := by
  obtain ⟨levels, past, hfound⟩ := h.findChain
  obtain ⟨url, raw, v, keyId, t, sets, hsearch, -⟩ := findChain_eq_some.mp hfound
  have hhead : c.statements.head? = some raw := by
    obtain ⟨rest, hrest⟩ := prefix_of_search hsearch
    rw [← hrest]
    rfl
  have hsubject := TrustChain.subject_eq_ok hhead sets.verified.decoded
    (EntityConfiguration.carries_of_ofToken sets.verified.read).1
  refine ⟨url, raw, v, keyId, sets, hsubject, ?_⟩
  rw [hsubject]
  constructor
  · rintro ⟨s, hs, hcanonical⟩
    cases hs
    exact hcanonical
  · intro hcanonical
    exact ⟨_, rfl, hcanonical⟩

namespace Sample

/-- The page of `x:` is that of `s:`, and so is the chain. -/
theorem findChain_copy : (world.findChain "x:" ["t:"] 1).1 = .ok (some chain) :=
  congrArg Prod.fst
    (findChain_world "x:" "x:/.well-known/openid-federation" 0 rfl rfl (by decide))

end Sample

/-- The configuration behind the chain that is given for `x:`. -/
theorem subject_given_sample :
    ∃ url raw v keyId, SetsOut Sample.world "x:" url raw v keyId ∧
      Sample.chain.subject = .ok v.configuration.subject ∧
      ((∃ s, Sample.chain.subject = .ok s ∧ Location.canonical s = Location.canonical "x:") ↔
        Location.canonical v.configuration.subject = Location.canonical "x:") :=
  subject_given_iff (Given.searched Sample.findChain_copy)

/-- A chain about `s:` that is given for `x:`. -/
theorem given_about_other :
    (Sample.world.findChain "x:" ["t:"] 1).1 = .ok (some Sample.chain) ∧
      ¬ ∃ s, Sample.chain.subject = .ok s ∧ Location.canonical s = Location.canonical "x:" := by
  have hsubject : Sample.chain.subject = .ok "s:" :=
    TrustChain.subject_eq_ok rfl Sample.decoded.1 Sample.leaf_carries
  refine ⟨Sample.findChain_copy, ?_⟩
  rintro ⟨s, hs, hcanonical⟩
  rw [hsubject] at hs
  cases hs
  revert hcanonical
  decide

end Discovery
end EntityTrust
