import EntityTrust.Proofs.Chain.Purity
import EntityTrust.Proofs.Discovery.Attempt
import EntityTrust.Proofs.Discovery.Subject

/-!
# Reports of chains that verify

A report of a verified chain puts two checks between the search and its caller: that the chain ends
at one of the given anchors, and that it verifies at the given instant.

**The first check.**  The search compares a hint with the anchors, and the configuration of the
authority with the hint.  The check reads the issuer of the last statement back from its bare
claims.  `EndsAt` is what the search leaves at the end of a chain, and it is all that the check asks
for, so that only the second check ever turns a chain down.

**Results.**
* `endsAt_of_search`: the last statement of a chain that is found is the configuration of an anchor.
* `anchor_of_searched`, `isSome_anchoredIn`: the first check passes.
* `verified_report`: which chains are reported, and what is reported instead of the others.
-/

namespace EntityTrust
namespace Discovery

variable {σ : Type}

/-- The last of some texts is the configuration of an entity that names an anchor. -/
def EndsAt (g : Goal) (texts : List String) : Prop :=
  ∃ raw v, texts.getLast? = some raw ∧ readConfiguration raw = some v ∧
    g.isAnchor v.configuration.subject = true

section Search

variable {f : Federation (StateM σ)} {g : Goal} {c : Climber} {visited visited' : List String}
  {r r' : σ × Journal σ} {found : List String}

theorem Goal.isAnchor_congr {id id' : String} (h : Location.canonical id = Location.canonical id') :
    g.isAnchor id = g.isAnchor id' := by
  rw [isAnchor, isAnchor, h]

theorem endsAt_of_followAny {hints : List String}
    {climb : Climber → Search (StateM (σ × Journal σ)) (Option (List String))}
    (hclimb : ∀ {c visited visited' r r' found},
      Outcome.runFrom ((climb c).run visited) r = (.ok (some found, visited'), r') →
        EndsAt g found)
    (h : Outcome.runFrom ((Journal.followAny f g climb c hints).run visited) r =
      (.ok (some found, visited'), r')) : EndsAt g found := by
  induction hints generalizing visited r with
  | nil => cases h
  | cons hint hints ih =>
      obtain ⟨s, j⟩ := r
      simp only [Journal.followAny, StateT.run_bind, Outcome.runFrom_bind] at h
      have hattempt : Attempt f g climb c hint visited s j _ := attempt_follow c hint visited s j
      generalize Outcome.runFrom ((Journal.follow f g climb c hint).run visited) (s, j) = attempt
        at hattempt h
      cases hattempt with
      | skipped seen => exact ih h
      | stopped located fresh blocked rest_eq outcome =>
          rcases outcome with rfl | ⟨e, rfl, -⟩
          · exact ih h
          · cases h
      | @passed hop u t fresh passes =>
          by_cases hanchor : g.isAnchor hint = true
          · simp only [hanchor, if_true] at h
            cases h
            exact ⟨hop.configurationText, hop.authority, by simp, passes.arrives.read,
              (Goal.isAnchor_congr passes.arrives.named).trans hanchor⟩
          · simp only [hanchor, Bool.false_eq_true, if_false] at h
            rcases hrun : Outcome.runFrom
              ((climb (hop.above c)).run (hop.configurationUrl :: visited))
              (t, j ++ hop.events c hint s u) with ⟨e | ⟨_ | found', visited''⟩, k⟩
            · rw [hrun] at h
              cases h
            · rw [hrun] at h
              exact ih h
            · rw [hrun] at h
              cases h
              exact hclimb hrun

/-- A chain that is found ends with the configuration of an anchor. -/
theorem endsAt_of_search {left : Nat}
    (h : Outcome.runFrom ((Journal.search f g left c).run visited) r =
      (.ok (some found, visited'), r')) : EndsAt g found := by
  induction left generalizing c visited visited' r r' found with
  | zero => cases h
  | succ left ih => exact endsAt_of_followAny ih h

end Search

section Found

variable {f : Federation (StateM σ)} {id : String} {anchors : List String} {levels : Nat} {s : σ}
  {c : TrustChain}

theorem endsAt_of_searched (h : searched f id anchors levels s = .ok (some c)) :
    EndsAt (.ofAnchors anchors) c.statements := by
  cases hlocated : Location.configuration id with
  | error cause =>
      rw [searched, run_findChain_of_error f anchors levels s hlocated] at h
      cases h
  | ok url =>
      rw [searched_eq_of_begin f anchors levels s hlocated] at h
      have hdeparture := departure_begin (f := f) (.ofAnchors anchors) levels url s
      generalize Journal.begin f (.ofAnchors anchors) levels url s = r at hdeparture h
      cases hdeparture with
      | failed blocked => cases h
      | unusable blocked => cases h
      | @climbing raw keyId v t departs =>
          rcases hrun : Outcome.runFrom ((Journal.search f (.ofAnchors anchors) levels
            (.foot v keyId raw)).run [url]) (t, [.outset s ⟨url, .ok raw⟩]) with
              ⟨e | ⟨_ | found, visited⟩, k⟩
          · rw [hrun] at h
            cases h
          · rw [hrun] at h
            cases h
          · rw [hrun] at h
            cases h
            exact endsAt_of_search hrun

/-- The issuer of the last statement of a chain that is found names an anchor. -/
theorem anchor_of_searched (h : searched f id anchors levels s = .ok (some c)) :
    ∃ issuer, c.anchor = .ok issuer ∧
      ∃ a ∈ anchors, Location.canonical a = Location.canonical issuer := by
  obtain ⟨raw, v, hlast, hread, hanchor⟩ := endsAt_of_searched h
  obtain ⟨hdecoded, hconfiguration, -⟩ := World.readConfiguration_eq_some.mp hread
  obtain ⟨hcarries, hself⟩ := EntityConfiguration.carries_of_ofToken hconfiguration
  refine ⟨v.configuration.issuer, TrustChain.anchor_eq_ok hlast hdecoded hcarries, ?_⟩
  rw [hself]
  simpa [Goal.isAnchor, Goal.ofAnchors] using hanchor

theorem isSome_anchoredIn {issuer : String} (hanchor : c.anchor = .ok issuer)
    (hmem : ∃ a ∈ anchors, Location.canonical a = Location.canonical issuer) :
    (anchoredIn c anchors).isSome = true := by
  simpa [anchoredIn, hanchor, List.find?_isSome] using hmem

end Found

/-- The report of a search. -/
def reported (f : Federation (StateM σ)) (settings : Settings) (id : String) (anchors : List String)
    (depth : Option Nat) (s : σ) : Resolution :=
  ((resolve f settings id anchors depth).run s).1

/-- The report of a search for a chain that verifies by a predicate. -/
def reportedVerified (f : Federation (StateM σ)) (settings : Settings)
    (accepts : String → Jwk → Bool) (id : String) (anchors : List String) (now : Int) (s : σ) :
    Resolution :=
  ((resolveVerified f settings (TrustChain.ofPredicate accepts) id anchors now).run s).1

/-- How the report of a verified chain follows from the report of the search. -/
structure VerifiedReport (f : Federation (StateM σ)) (settings : Settings)
    (accepts : String → Jwk → Bool) (id : String) (anchors : List String) (now : Int) (s : σ) :
    Prop where
  /-- A chain is reported exactly when it is found and verifies. -/
  chain_iff : ∀ c, (reportedVerified f settings accepts id anchors now s).chain = some c ↔
    (reported f settings id anchors none s).chain = some c ∧
      (TrustChain.verify (m := Id) accepts none now c.statements).isValid = true
  /-- Of a chain that does not verify, the reason is reported. -/
  rejected : ∀ c, (reported f settings id anchors none s).chain = some c →
    (TrustChain.verify (m := Id) accepts none now c.statements).isValid = false →
      ∃ reason, (TrustChain.verify (m := Id) accepts none now c.statements).error = some reason ∧
        reportedVerified f settings accepts id anchors now s = ⟨none, true, some reason⟩
  /-- A report without a chain stays as it is. -/
  unchanged : (reported f settings id anchors none s).chain = none →
    reportedVerified f settings accepts id anchors now s = reported f settings id anchors none s
  /-- The issuer of the last statement of a chain that is found names an anchor, at any depth, so
  that no chain is turned down for its anchor. -/
  anchored : ∀ depth c, (reported f settings id anchors depth s).chain = some c →
    (anchoredIn c anchors).isSome = true ∧ ∃ issuer, c.anchor = .ok issuer ∧
      ∃ a ∈ anchors, Location.canonical a = Location.canonical issuer

section Reports

variable {f : Federation (StateM σ)} {settings : Settings} {accepts : String → Jwk → Bool}
  {id : String} {anchors : List String} {now : Int} {s : σ} {c : TrustChain}

theorem exists_reason {statements : List String}
    (h : (TrustChain.verify (m := Id) accepts none now statements).isValid = false) :
    ∃ reason, TrustChain.verify (m := Id) accepts none now statements = .invalid reason := by
  unfold TrustChain.verify at h ⊢
  cases hall : (TrustChain.checkAll (m := Id) accepts none now statements).run with
  | error r =>
      simp only [hall] at h ⊢
      exact ⟨r.message, rfl⟩
  | ok u =>
      simp only [hall] at h
      cases h

theorem anchor_of_reported {depth : Option Nat}
    (h : (reported f settings id anchors depth s).chain = some c) :
    ∃ issuer, c.anchor = .ok issuer ∧
      ∃ a ∈ anchors, Location.canonical a = Location.canonical issuer := by
  rw [reported, run_resolve_fst settings depth rfl] at h
  exact anchor_of_searched (chain_ofOutcome.mp h)

/-- The check of the anchor passes, and verification decides. -/
theorem reportedVerified_eq :
    reportedVerified f settings accepts id anchors now s =
      match (reported f settings id anchors none s).chain with
      | none => reported f settings id anchors none s
      | some c =>
          let verdict := TrustChain.verify (m := Id) accepts none now c.statements
          if verdict.isValid then reported f settings id anchors none s
          else .failure (verdict.error.getD "Trust chain verification failed") := by
  have hanchor : ∀ c, (reported f settings id anchors none s).chain = some c →
      ∃ a, anchoredIn c anchors = some a := by
    intro c hc
    obtain ⟨issuer, hissuer, hmem⟩ := anchor_of_reported hc
    exact Option.isSome_iff_exists.mp (isSome_anchoredIn hissuer hmem)
  unfold reportedVerified resolveVerified
  simp only [StateT.run_bind]
  unfold reported at hanchor ⊢
  revert hanchor
  rcases (resolve f settings id anchors none).run s with ⟨⟨_ | c, failed, message⟩, t⟩
  · exact fun _ => rfl
  · intro hanchor
    obtain ⟨a, ha⟩ := hanchor c rfl
    simp only [bind, ha, TrustChain.verify_ofPredicate]
    generalize TrustChain.verify (m := Id) accepts none now c.statements = verdict
    obtain ⟨_ | _, error⟩ := verdict
    · rfl
    · rfl

/-- A report on a verified chain follows from the report of the search and the verdict, in every
federation and from every state of it. -/
theorem verified_report (f : Federation (StateM σ)) (settings : Settings)
    (accepts : String → Jwk → Bool) (id : String) (anchors : List String) (now : Int) (s : σ) :
    VerifiedReport f settings accepts id anchors now s := by
  refine ⟨fun c => ?_, fun c hc hinvalid => ?_, fun hnone => ?_, fun depth c hc => ?_⟩
  · rw [reportedVerified_eq]
    cases hc : (reported f settings id anchors none s).chain with
    | none => simp [hc]
    | some c' =>
        simp only
        cases hvalid : (TrustChain.verify (m := Id) accepts none now c'.statements).isValid with
        | false =>
            simp only [Bool.false_eq_true, if_false, Resolution.failure, Option.some.injEq,
              reduceCtorEq, false_iff, not_and]
            rintro rfl
            simp [hvalid]
        | true =>
            simp only [if_true, hc, Option.some.injEq, iff_self_and]
            rintro rfl
            exact hvalid
  · obtain ⟨reason, hreason⟩ := exists_reason hinvalid
    refine ⟨reason, by rw [hreason]; rfl, ?_⟩
    rw [reportedVerified_eq, hc]
    simp only [hreason]
    rfl
  · rw [reportedVerified_eq, hnone]
  · obtain ⟨issuer, hissuer, hmem⟩ := anchor_of_reported hc
    exact ⟨isSome_anchoredIn hissuer hmem, issuer, hissuer, hmem⟩

end Reports
end Discovery
end EntityTrust
