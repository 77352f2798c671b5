import EntityTrust.Proofs.Discovery.Completeness

/-!
# Federations in which the search misses nothing

**Condition.**  `Reaches` follows hints through self-verified configurations, whatever the statements
between them say.  In a `Forest` no configuration is reached along two hints of one entity, and none
is reached from above itself.

**Results.**
* `visited_of_search`: a search requests only configurations reached along the hints of its entity.
* `not_blocked_of_forest`: in a forest no route is blocked.
* `findChain_none_iff_of_forest`: in a forest nothing is found exactly when there is no route.
-/

namespace EntityTrust
namespace Discovery

/-- A configuration URL is come to along a hint. -/
inductive Reaches (pages : String → String) (accepts : String → Jwk → Bool) : String → String → Prop
  | here {hint url : String} :
      Location.configuration hint = .ok url →
      Reaches pages accepts hint url
  | above {hint url hint' url' : String} {v : Verified} :
      Location.configuration hint = .ok url →
      (World.fixed pages accepts).SelfVerified (pages url) v →
      hint' ∈ v.configuration.authorityHints →
      Reaches pages accepts hint' url' →
      Reaches pages accepts hint url'

/-- Hints that never lead to the same configuration in two ways. -/
structure Forest (pages : String → String) (accepts : String → Jwk → Bool) : Prop where
  apart : ∀ {url url' : String} {v : Verified} {hint hint' : String},
    (World.fixed pages accepts).SelfVerified (pages url) v →
    hint ∈ v.configuration.authorityHints → hint' ∈ v.configuration.authorityHints →
    Reaches pages accepts hint url' → Reaches pages accepts hint' url' → hint = hint'
  upward : ∀ {id url : String} {v : Verified} {hint : String},
    Location.configuration id = .ok url →
    (World.fixed pages accepts).SelfVerified (pages url) v →
    hint ∈ v.configuration.authorityHints → ¬ Reaches pages accepts hint url

section Visited

variable {pages : String → String} {accepts : String → Jwk → Bool} {g : Goal} {c : Climber}
  {s t : Moment} {o : Option (List String)}

/-- Following a hint requests only configurations that it reaches. -/
theorem visited_of_follow {climb : Climber → Steps (Option (List String))} {hint : String}
    (hclimb : ∀ {c s o t}, Yields (climb c) s o t → ∀ url ∈ t.visited,
      url ∈ s.visited ∨ ∃ hint ∈ c.entity.authorityHints, Reaches pages accepts hint url)
    (h : Yields (follow (World.fixed pages accepts).federation g climb c hint) s o t) :
    ∀ url ∈ t.visited, url ∈ s.visited ∨ Reaches pages accepts hint url := by
  intro url hurl
  unfold follow at h
  obtain ⟨arrival, u, harrive, h⟩ := yields_bind.mp h
  have hstart : ∀ url ∈ u.visited, url ∈ s.visited ∨ Reaches pages accepts hint url := by
    intro url hurl
    rcases after_of_authorityOf harrive with ⟨rfl, -⟩ | ⟨place, raw, hlocated, rfl⟩
    · exact .inl hurl
    · rcases List.mem_cons.mp hurl with rfl | hurl
      · exact .inr (.here hlocated)
      · exact .inl hurl
  cases arrival with
  | none =>
      obtain ⟨-, rfl⟩ := yields_pure.mp h
      exact hstart url hurl
  | some arrival =>
      obtain ⟨raw, a⟩ := arrival
      obtain ⟨place, v, hlocated, -, hraw, hv, rfl, -, -⟩ := yields_authorityOf_some.mp harrive
      obtain rfl : pages place = raw := Except.ok.inj hraw
      obtain ⟨statement, u', hattest, h⟩ := yields_bind.mp h
      have hvisited : u'.visited = u.visited := by
        rcases after_of_attestation hattest with rfl | ⟨_, _, rfl⟩
        · rfl
        · rfl
      cases statement with
      | none =>
          obtain ⟨-, rfl⟩ := yields_pure.mp h
          exact hstart url (hvisited ▸ hurl)
      | some statement =>
          simp only at h
          split at h
          · obtain ⟨-, rfl⟩ := yields_pure.mp h
            exact hstart url (hvisited ▸ hurl)
          · rcases hclimb h url hurl with hbefore | ⟨hint', hmem, hreaches⟩
            · exact hstart url (hvisited ▸ hbefore)
            · exact .inr (.above hlocated hv hmem hreaches)

theorem visited_of_followAny {climb : Climber → Steps (Option (List String))} {hints : List String}
    (hclimb : ∀ {c s o t}, Yields (climb c) s o t → ∀ url ∈ t.visited,
      url ∈ s.visited ∨ ∃ hint ∈ c.entity.authorityHints, Reaches pages accepts hint url)
    (h : Yields (followAny (World.fixed pages accepts).federation g climb c hints) s o t) :
    ∀ url ∈ t.visited, url ∈ s.visited ∨ ∃ hint ∈ hints, Reaches pages accepts hint url := by
  induction hints generalizing s with
  | nil =>
      obtain ⟨-, rfl⟩ := yields_followAny_nil.mp h
      exact fun url hurl => .inl hurl
  | cons hint hints ih =>
      intro url hurl
      rcases yields_followAny_cons.mp h with ⟨found, rfl, hfollow⟩ | ⟨u, hfollow, hrest⟩
      · rcases visited_of_follow hclimb hfollow url hurl with hbefore | hreaches
        · exact .inl hbefore
        · exact .inr ⟨hint, List.mem_cons_self, hreaches⟩
      · rcases ih hrest url hurl with hbefore | ⟨hint', hmem, hreaches⟩
        · rcases visited_of_follow hclimb hfollow url hbefore with hbefore | hreaches
          · exact .inl hbefore
          · exact .inr ⟨hint, List.mem_cons_self, hreaches⟩
        · exact .inr ⟨hint', List.mem_cons_of_mem _ hmem, hreaches⟩

/-- A search requests only configurations reached along the hints of its entity. -/
theorem visited_of_search {levels : Nat}
    (h : Yields (search (World.fixed pages accepts).federation g levels c) s o t) :
    ∀ url ∈ t.visited,
      url ∈ s.visited ∨ ∃ hint ∈ c.entity.authorityHints, Reaches pages accepts hint url := by
  induction levels generalizing c s o t with
  | zero =>
      obtain ⟨-, rfl⟩ := yields_pure.mp h
      exact fun url hurl => .inl hurl
  | succ levels ih =>
      intro url hurl
      rcases visited_of_followAny ih h url hurl with hbefore | ⟨hint, hmem, hreaches⟩
      · exact .inl hbefore
      · exact .inr ⟨hint, Goal.mem_ordered.mp hmem, hreaches⟩

end Visited

section Complete

variable {pages : String → String} {accepts : String → Jwk → Bool} {g : Goal} {levels : Nat}
  {c : Climber} {s u : Moment} {hint : String} {hints : List String}

/-- What a search may request from an entity was not requested before. -/
def Untouched (pages : String → String) (accepts : String → Jwk → Bool) (c : Climber)
    (s : Moment) : Prop :=
  (∃ url v, (World.fixed pages accepts).SelfVerified (pages url) v ∧ c.entity = v.configuration) ∧
    ∀ hint ∈ c.entity.authorityHints, ∀ url, Reaches pages accepts hint url → url ∉ s.visited

/-- In a forest, a search that turns to a hint has requested nothing that the hint reaches. -/
theorem not_mem_of_turnsTo (forest : Forest pages accepts)
    (huntouched : Untouched pages accepts c s)
    (turns : TurnsTo (World.fixed pages accepts) g levels c s hint u) {url : String}
    (hreaches : Reaches pages accepts hint url) : url ∉ u.visited := by
  obtain ⟨⟨place, v, hv, hentity⟩, hfresh⟩ := huntouched
  obtain ⟨first, later, hordered, hfirst, hpassed⟩ := turns
  have hmem : ∀ hint' ∈ first ++ hint :: later, hint' ∈ c.entity.authorityHints := by
    intro hint' hmem
    rw [← hordered] at hmem
    exact Goal.mem_ordered.mp hmem
  intro hurl
  rcases visited_of_followAny visited_of_search hpassed url hurl with
    hbefore | ⟨hint', htried, hreaches'⟩
  · exact hfresh hint (hmem hint (by simp)) url hreaches hbefore
  · have hsame : hint' = hint := by
      apply forest.apart hv _ _ hreaches' hreaches
      · exact hentity ▸ hmem hint' (List.mem_append_left _ htried)
      · exact hentity ▸ hmem hint (by simp)
    exact hfirst (hsame ▸ htried)

/-- In a forest, a hop leads from an untouched part to an untouched part. -/
theorem Untouched.above (forest : Forest pages accepts) (huntouched : Untouched pages accepts c s)
    (turns : TurnsTo (World.fixed pages accepts) g levels c s hint u) {h : Hop}
    (taken : h.Taken (World.fixed pages accepts) c hint u) :
    Untouched pages accepts (h.above c) (h.after u) := by
  have hv : (World.fixed pages accepts).SelfVerified (pages h.configurationUrl) h.authority := by
    rw [show pages h.configurationUrl = h.configurationText from Except.ok.inj taken.configured]
    exact taken.verified
  refine ⟨⟨_, _, hv, rfl⟩, ?_⟩
  intro hint' hmem url hreaches hurl
  rcases List.mem_cons.mp hurl with rfl | hurl
  · exact forest.upward taken.located hv hmem hreaches
  · exact not_mem_of_turnsTo forest huntouched turns (.above taken.located hv hmem hreaches) hurl

/-- In a forest no route is blocked. -/
theorem not_blocked_of_forest (forest : Forest pages accepts)
    (huntouched : Untouched pages accepts c s) :
    ¬ Blocked (World.fixed pages accepts) g levels c s hints := by
  intro hblocked
  induction hblocked with
  | seen turns hlocated hseen =>
      exact not_mem_of_turnsTo forest huntouched turns (.here hlocated) hseen
  | later turns taken _ ih => exact ih (huntouched.above forest turns taken)

/-- In a forest nothing is found for an entity exactly when there is no route from its configuration
to an anchor that the levels allow. -/
theorem findChain_none_iff_of_forest (forest : Forest pages accepts) {id : String}
    {anchors : List String} :
    ((World.fixed pages accepts).findChain id anchors levels).1 = .ok none ↔
      (∃ url, Location.configuration id = .ok url) ∧
        ∀ url v keyId hints, SetsOut (World.fixed pages accepts) id url (pages url) v keyId →
          Route pages accepts (.ofAnchors anchors) v.configuration keyId hints →
          levels < hints.length := by
  rw [findChain_none_iff_search]
  refine and_congr_right fun _ => ?_
  have huntouched : ∀ {url v keyId},
      SetsOut (World.fixed pages accepts) id url (pages url) v keyId →
        Untouched pages accepts (.foot v keyId (pages url)) (.first url (pages url)) := by
    intro url v keyId sets
    refine ⟨⟨url, v, sets.verified, rfl⟩, ?_⟩
    intro hint hmem url' hreaches hurl
    obtain rfl := List.mem_singleton.mp hurl
    exact forest.upward sets.located sets.verified hmem hreaches
  constructor
  · intro hnone url v keyId hints sets route
    by_contra hlength
    exact not_blocked_of_forest forest (huntouched sets)
      (search_none_iff.mp (hnone url v keyId sets) hints route (by omega))
  · intro hnone url v keyId sets
    refine search_none_iff.mpr fun hints route hlength => ?_
    have := hnone url v keyId hints sets route
    omega

end Complete

end Discovery
end EntityTrust
