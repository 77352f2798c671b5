import EntityTrust.Proofs.Discovery.Pairing
import EntityTrust.Proofs.Discovery.Soundness

/-!
# Completeness of the search

In a world of fixed pages, the searches that find nothing although there is a route to an anchor.

**Routes.**  `Route` says that a list of hints leads from an entity to an anchor: each hint is among
those of the entity below, the configuration behind it verifies under its own keys and carries the
hinted identifier, and the statement it serves attests the key of the entity below.

**Blocked routes.**  A configuration counts as requested for the whole of a search, also when the
branch that requested it led to nothing.  `Blocked` says that the search, climbing along a route,
comes to a hint whose configuration was requested before.

**Results.**
* `total_search`: in a world of fixed pages every search comes to an end with an answer.
* `blocked_of_search_none`: a search that finds nothing was blocked on every route.
* `route_of_search_some`: a search that finds a chain went along a route that is not blocked.
* `search_none_iff`: a search finds nothing exactly when it is blocked on every route.
* `findChain_none_iff`: nothing is found exactly when every route is blocked.
-/

namespace EntityTrust
namespace Discovery

/-- Steps that come to an end with an answer from every moment on. -/
def Total {α : Type} (x : Steps α) : Prop :=
  ∀ s, ∃ a t, Yields x s a t

section Total

variable {α β : Type} {pages : String → String} {accepts : String → Jwk → Bool}

theorem total_pure (a : α) : Total (pure a : Steps α) :=
  fun s => ⟨a, s, yields_pure.mpr ⟨rfl, rfl⟩⟩

theorem Total.bind {x : Steps α} {f : α → Steps β} (hx : Total x) (hf : ∀ a, Total (f a)) :
    Total (x >>= f) := by
  intro s
  obtain ⟨a, u, hxs⟩ := hx s
  obtain ⟨b, t, hfu⟩ := hf a u
  exact ⟨b, t, yields_bind.mpr ⟨a, u, hxs, hfu⟩⟩

theorem total_request (url : String) :
    Total (request (World.fixed pages accepts).federation url) :=
  fun s => ⟨pages url, s.asked url (pages url), World.yields_request.mpr ⟨rfl, rfl⟩⟩

theorem total_visit (url : String) : Total (visit (m := StateM Past) url) := by
  intro s
  by_cases h : url ∈ s.visited
  · exact ⟨false, s, World.yields_visit.mpr (.inl ⟨h, rfl, rfl⟩)⟩
  · exact ⟨true, s.marked url, World.yields_visit.mpr (.inr ⟨h, rfl, rfl⟩)⟩

theorem total_ask {w : World} (token : Token) (keys : KeySet) :
    Total (ask w.federation token keys) :=
  fun s => ⟨_, s, World.yields_ask.mpr ⟨rfl, rfl⟩⟩

/-- Where every URL is answered, every single step comes to an end with an answer. -/
theorem pairing_total :
    Pairing (World.fixed pages accepts).federation (World.fixed pages accepts).federation
      (fun _ x _ => Total x) where
  pure := total_pure
  bind := Total.bind
  request := total_request
  ask := total_ask
  visit := total_visit

/-- Where every URL is answered, every search comes to an end with an answer. -/
theorem total_search {g : Goal} (levels : Nat) (c : Climber) :
    Total (search (World.fixed pages accepts).federation g levels c) :=
  pairing_total.search levels c

end Total

/-- A hop from an entity whose last statement was signed with a key, along one of its hints. -/
structure Hop.Stands (pages : String → String) (accepts : String → Jwk → Bool)
    (entity : EntityConfiguration) (keyId hint : String) (h : Hop) : Prop where
  hinted : hint ∈ entity.authorityHints
  located : Location.configuration hint = .ok h.configurationUrl
  configured : pages h.configurationUrl = h.configurationText
  verified : (World.fixed pages accepts).SelfVerified h.configurationText h.authority
  named : Location.canonical h.authority.configuration.subject = Location.canonical hint
  served : statementUrl h.authority.configuration entity.subject = some h.fetchUrl
  stated : pages h.fetchUrl = h.statementText
  attested : ∃ t st, (World.fixed pages accepts).Attests h.statementText h.authority.configuration
    entity.subject keyId h.signer t st

/-- Hints that lead from an entity to an anchor. -/
inductive Route (pages : String → String) (accepts : String → Jwk → Bool) (g : Goal) :
    EntityConfiguration → String → List String → Prop
  | last {entity : EntityConfiguration} {keyId hint : String} {h : Hop} :
      h.Stands pages accepts entity keyId hint →
      g.isAnchor hint = true →
      Route pages accepts g entity keyId [hint]
  | onward {entity : EntityConfiguration} {keyId hint : String} {h : Hop} {hints : List String} :
      h.Stands pages accepts entity keyId hint →
      Route pages accepts g h.authority.configuration h.signer hints →
      Route pages accepts g entity keyId (hint :: hints)

/-- The search turns to a hint when those it tries before have led to nothing. -/
def TurnsTo (w : World) (g : Goal) (levels : Nat) (c : Climber) (s : Moment) (hint : String)
    (u : Moment) : Prop :=
  ∃ first later, g.ordered c.entity.authorityHints = first ++ hint :: later ∧ hint ∉ first ∧
    Yields (followAny w.federation g (search w.federation g levels) c first) s none u

/-- The search, climbing along hints, comes to one whose configuration was requested before. -/
inductive Blocked (w : World) (g : Goal) : Nat → Climber → Moment → List String → Prop
  | seen {levels : Nat} {c : Climber} {s u : Moment} {hint url : String} {hints : List String} :
      TurnsTo w g levels c s hint u →
      Location.configuration hint = .ok url →
      url ∈ u.visited →
      Blocked w g (levels + 1) c s (hint :: hints)
  | later {levels : Nat} {c : Climber} {s u : Moment} {hint : String} {h : Hop}
      {hints : List String} :
      TurnsTo w g levels c s hint u →
      h.Taken w c hint u →
      Blocked w g levels (h.above c) (h.after u) hints →
      Blocked w g (levels + 1) c s (hint :: hints)

section Routes

variable {pages : String → String} {accepts : String → Jwk → Bool} {g : Goal} {levels : Nat}
  {c : Climber} {s t u : Moment} {hint : String} {hints : List String}

/-- In a world of fixed pages, a hop is taken when its configuration was not requested before. -/
theorem Hop.taken_iff {h : Hop} (hmem : hint ∈ c.entity.authorityHints) :
    h.Taken (World.fixed pages accepts) c hint s ↔
      h.Stands pages accepts c.entity c.keyId hint ∧ h.configurationUrl ∉ s.visited := by
  constructor
  · intro taken
    exact ⟨⟨hmem, taken.located, Except.ok.inj taken.configured, taken.verified, taken.named,
      taken.served, Except.ok.inj taken.stated, taken.attested⟩, taken.fresh⟩
  · rintro ⟨stands, hfresh⟩
    exact ⟨stands.located, hfresh, congrArg Except.ok stands.configured, stands.verified,
      stands.named, stands.served, congrArg Except.ok stands.stated, stands.attested⟩

theorem Hop.Stands.unique {entity : EntityConfiguration} {keyId : String} {h h' : Hop}
    (stands : h.Stands pages accepts entity keyId hint)
    (stands' : h'.Stands pages accepts entity keyId hint) : h = h' := by
  have taken {hop : Hop} (hop_stands : hop.Stands pages accepts entity keyId hint) :
      hop.Taken (World.fixed pages accepts) ⟨entity, keyId, []⟩ hint ⟨[], []⟩ :=
    (Hop.taken_iff hop_stands.hinted).mpr ⟨hop_stands, List.not_mem_nil⟩
  exact (taken stands).unique (taken stands')

/-- A list has one first place of an element. -/
theorem first_unique {first first' later later' : List String} (hfirst : hint ∉ first)
    (hfirst' : hint ∉ first') (h : first ++ hint :: later = first' ++ hint :: later') :
    first = first' := by
  induction first generalizing first' with
  | nil =>
      cases first' with
      | nil => rfl
      | cons other first' =>
          cases h
          exact absurd List.mem_cons_self hfirst'
  | cons other first ih =>
      cases first' with
      | nil =>
          cases h
          exact absurd List.mem_cons_self hfirst
      | cons other' first' =>
          obtain ⟨rfl, hrest⟩ := List.cons.inj h
          rw [ih (List.not_mem_of_not_mem_cons hfirst) (List.not_mem_of_not_mem_cons hfirst') hrest]

theorem TurnsTo.unique {w : World} {u' : Moment} (h : TurnsTo w g levels c s hint u)
    (h' : TurnsTo w g levels c s hint u') : u = u' := by
  obtain ⟨first, later, hordered, hfirst, hyields⟩ := h
  obtain ⟨first', later', hordered', hfirst', hyields'⟩ := h'
  obtain rfl := first_unique hfirst hfirst' (hordered.symm.trans hordered')
  exact (hyields.unique hyields').2

/-- A search that finds nothing turns to each of the hints, and follows it in vain. -/
theorem turnsTo_of_search_none {w : World}
    (h : Yields (search w.federation g (levels + 1) c) s none t)
    (hmem : hint ∈ c.entity.authorityHints) :
    ∃ u u', TurnsTo w g levels c s hint u ∧
      Yields (follow w.federation g (search w.federation g levels) c hint) u none u' := by
  obtain ⟨first, later, hordered, hfirst⟩ :=
    List.eq_append_cons_of_mem ((Goal.mem_ordered (g := g)).mpr hmem)
  rw [search, hordered] at h
  obtain ⟨u, hpassed, hrest⟩ := yields_followAny_none_of_append h
  rcases yields_followAny_cons.mp hrest with ⟨_, hnone, -⟩ | ⟨u', hfollow, -⟩
  · cases hnone
  · exact ⟨u, u', ⟨first, later, hordered, hfirst, hpassed⟩, hfollow⟩

/-- A search that finds nothing was blocked on every route that its levels allow. -/
theorem blocked_of_search_none {entity : EntityConfiguration} {keyId : String}
    (route : Route pages accepts g entity keyId hints) :
    ∀ {levels : Nat} {c : Climber} {s t : Moment}, c.entity = entity → c.keyId = keyId →
      hints.length ≤ levels →
      Yields (search (World.fixed pages accepts).federation g levels c) s none t →
      Blocked (World.fixed pages accepts) g levels c s hints := by
  induction route with
  | @last entity keyId hint h stands hanchor =>
      rintro (_ | levels) c s t rfl rfl hlength hnone
      · simp at hlength
      · obtain ⟨u, u', turns, hfollow⟩ := turnsTo_of_search_none hnone stands.hinted
        by_cases hseen : h.configurationUrl ∈ u.visited
        · exact .seen turns stands.located hseen
        · rw [yields_follow_of_taken ((Hop.taken_iff stands.hinted).mpr ⟨stands, hseen⟩),
            if_pos hanchor] at hfollow
          cases hfollow.1
  | @onward entity keyId hint h hints stands route ih =>
      rintro (_ | levels) c s t rfl rfl hlength hnone
      · simp at hlength
      · obtain ⟨u, u', turns, hfollow⟩ := turnsTo_of_search_none hnone stands.hinted
        by_cases hseen : h.configurationUrl ∈ u.visited
        · exact .seen turns stands.located hseen
        · have taken := (Hop.taken_iff stands.hinted).mpr ⟨stands, hseen⟩
          rw [yields_follow_of_taken taken] at hfollow
          split at hfollow
          · cases hfollow.1
          · exact .later turns taken
              (ih rfl rfl (Nat.le_of_succ_le_succ hlength) hfollow)

/-- At the hint that a search turns to and follows to a chain, the route is not blocked. -/
theorem not_blocked_cons {w : World} {h : Hop} (turns : TurnsTo w g levels c s hint u)
    (taken : h.Taken w c hint u) (hrest : ¬ Blocked w g levels (h.above c) (h.after u) hints) :
    ¬ Blocked w g (levels + 1) c s (hint :: hints) := by
  intro hblocked
  cases hblocked with
  | @seen _ _ _ u' _ url _ turns' hlocated hseen =>
      obtain rfl := turns.unique turns'
      obtain rfl : url = h.configurationUrl :=
        Except.ok.inj (hlocated.symm.trans taken.located)
      exact taken.fresh hseen
  | later turns' taken' hblocked =>
      obtain rfl := turns.unique turns'
      obtain rfl := taken.unique taken'
      exact hrest hblocked

/-- A search that finds a chain went along a route that is not blocked. -/
theorem route_of_search_some {found : List String}
    (h : Yields (search (World.fixed pages accepts).federation g levels c) s (some found) t) :
    ∃ hints, Route pages accepts g c.entity c.keyId hints ∧ hints.length ≤ levels ∧
      ¬ Blocked (World.fixed pages accepts) g levels c s hints := by
  induction levels generalizing c s with
  | zero =>
      obtain ⟨hnone, -⟩ := yields_pure.mp h
      cases hnone
  | succ levels ih =>
      obtain ⟨first, hint, later, u, hordered, hpassed, hfollow⟩ := yields_followAny_some.mp h
      obtain ⟨hop, taken, hend⟩ := yields_follow_some.mp hfollow
      have hmem : hint ∈ c.entity.authorityHints := by
        rw [← Goal.mem_ordered (g := g), hordered]
        simp
      have stands := ((Hop.taken_iff hmem).mp taken).1
      -- a hint tried before would have left its configuration among the requested ones
      have hfirst : hint ∉ first := by
        intro hbefore
        exact taken.fresh
          ((before_of_followAny before_of_search hpassed).2 rfl hint hbefore _ taken.located)
      have turns : TurnsTo (World.fixed pages accepts) g levels c s hint u :=
        ⟨first, later, hordered, hfirst, hpassed⟩
      rcases hend with ⟨hanchor, -, -⟩ | ⟨-, hclimb⟩
      · refine ⟨[hint], .last stands hanchor, by simp, not_blocked_cons turns taken ?_⟩
        intro hblocked
        cases hblocked
      · obtain ⟨hints, route, hlength, hopen⟩ := ih hclimb
        exact ⟨hint :: hints, .onward stands route, Nat.succ_le_succ hlength,
          not_blocked_cons turns taken hopen⟩

/-- A search finds nothing exactly when it is blocked on every route that its levels allow. -/
theorem search_none_iff :
    (∃ t, Yields (search (World.fixed pages accepts).federation g levels c) s none t) ↔
      ∀ hints, Route pages accepts g c.entity c.keyId hints → hints.length ≤ levels →
        Blocked (World.fixed pages accepts) g levels c s hints := by
  constructor
  · rintro ⟨t, hnone⟩ hints route hlength
    exact blocked_of_search_none route rfl rfl hlength hnone
  · intro hblocked
    have htotal : Total (search (World.fixed pages accepts).federation g levels c) :=
      total_search levels c
    obtain ⟨o, t, hsearch⟩ := htotal s
    cases o with
    | none => exact ⟨t, hsearch⟩
    | some found =>
        obtain ⟨hints, route, hlength, hopen⟩ := route_of_search_some hsearch
        exact absurd (hblocked hints route hlength) hopen

/-- Nothing is found for an entity exactly when its search can begin, and finds nothing from a
self-verified configuration of the entity. -/
theorem findChain_none_iff_search {id : String} {anchors : List String} :
    ((World.fixed pages accepts).findChain id anchors levels).1 = .ok none ↔
      (∃ url, Location.configuration id = .ok url) ∧
        ∀ url v keyId, SetsOut (World.fixed pages accepts) id url (pages url) v keyId →
          ∃ t, Yields (search (World.fixed pages accepts).federation (.ofAnchors anchors) levels
            (.foot v keyId (pages url))) (.first url (pages url)) none t := by
  rw [fst_findChain_eq_ok]
  constructor
  · rintro ⟨past, hnone⟩
    obtain ⟨url, raw, found, t, hlocated, hraw, hfrom, hfound, -⟩ := findChain_eq_ok.mp hnone
    obtain rfl : found = none := by simpa using hfound.symm
    refine ⟨⟨url, hlocated⟩, ?_⟩
    intro url' v keyId sets
    obtain rfl : url = url' := Except.ok.inj (hlocated.symm.trans sets.located)
    obtain rfl : pages url = raw := Except.ok.inj hraw
    rcases yields_searchFrom.mp hfrom with ⟨v', keyId', hv, hkey, hsearch⟩ | ⟨hno, -, -⟩
    · obtain ⟨-, -, rfl, rfl⟩ := sets.unique ⟨sets.located, sets.configured, hv, hkey⟩
      exact ⟨t, hsearch⟩
    · exact absurd sets.keyId (hno v keyId sets.verified)
  · rintro ⟨⟨url, hlocated⟩, hnone⟩
    have hfrom : ∃ t, Yields (searchFrom (World.fixed pages accepts).federation
        (.ofAnchors anchors) levels (pages url)) (.first url (pages url)) none t := by
      by_cases hsets : ∃ v keyId, SetsOut (World.fixed pages accepts) id url (pages url) v keyId
      · obtain ⟨v, keyId, sets⟩ := hsets
        obtain ⟨t, hsearch⟩ := hnone url v keyId sets
        exact ⟨t, yields_searchFrom.mpr (.inl ⟨v, keyId, sets.verified, sets.keyId, hsearch⟩)⟩
      · refine ⟨.first url (pages url), yields_searchFrom.mpr (.inr ⟨?_, rfl, rfl⟩)⟩
        intro v keyId hv hkey
        exact hsets ⟨v, keyId, hlocated, rfl, hv, hkey⟩
    obtain ⟨t, hfrom⟩ := hfrom
    exact ⟨t.past, findChain_eq_ok.mpr ⟨url, pages url, none, t, hlocated, rfl, hfrom, rfl, rfl⟩⟩

/-- Nothing is found for an entity exactly when the search is blocked on every route from its
configuration to an anchor that the levels allow. -/
theorem findChain_none_iff {id : String} {anchors : List String} :
    ((World.fixed pages accepts).findChain id anchors levels).1 = .ok none ↔
      (∃ url, Location.configuration id = .ok url) ∧
        ∀ url v keyId hints, SetsOut (World.fixed pages accepts) id url (pages url) v keyId →
          Route pages accepts (.ofAnchors anchors) v.configuration keyId hints →
          hints.length ≤ levels →
          Blocked (World.fixed pages accepts) (.ofAnchors anchors) levels
            (.foot v keyId (pages url)) (.first url (pages url)) hints := by
  rw [findChain_none_iff_search]
  refine and_congr_right fun _ => ?_
  constructor
  · intro hnone url v keyId hints sets
    exact search_none_iff.mp (hnone url v keyId sets) hints
  · intro hblocked url v keyId sets
    exact search_none_iff.mpr fun hints => hblocked url v keyId hints sets

end Routes

namespace Sample

def betweenPayload : String :=
  "eyJhdXRob3JpdHlfaGludHMiOlsidDoiXSwiZXhwIjo5LCJpYXQiOjEsImlzcyI6ImE6IiwiandrcyI6eyJrZXlzIjp" ++
    "beyJrIjoiIiwia2lkIjoiayIsImt0eSI6Im9jdCJ9XX0sIm1ldGFkYXRhIjp7ImZlZGVyYXRpb25fZW50aXR5Ijp7Im" ++
    "ZlZGVyYXRpb25fZmV0Y2hfZW5kcG9pbnQiOiJhOmYifX0sInN1YiI6ImE6In0"

/-- The authority `a:`, with the hint `t:`. -/
def between : Verified :=
  ⟨⟨token betweenPayload, header, claims "a:" "a:" ""
    [("authority_hints", .array [.string "t:"])] (fetchingClaim "a:f")⟩,
    configuration "a:" ["t:"] (fetching "a:f")⟩

def lowerPayload : String :=
  "eyJleHAiOjksImlhdCI6MSwiaXNzIjoiYToiLCJqd2tzIjp7ImtleXMiOlt7ImsiOiIiLCJraWQiOiJrIiwia3R5Ijo" ++
    "ib2N0In1dfSwic3ViIjoiczoifQ"

/-- The statement of `a:` about `s:`. -/
def lower : Token :=
  ⟨token lowerPayload, header, claims "a:" "s:" "" [] []⟩

def upperPayload : String :=
  "eyJleHAiOjksImlhdCI6MSwiaXNzIjoidDoiLCJqd2tzIjp7ImtleXMiOlt7ImsiOiIiLCJraWQiOiJrIiwia3R5Ijo" ++
    "ib2N0In1dfSwic3ViIjoiYToifQ"

/-- The statement of `t:` about `a:`. -/
def upper : Token :=
  ⟨token upperPayload, header, claims "t:" "a:" "" [] []⟩

theorem detour_decoded : Token.decode (token betweenPayload) = .ok between.token ∧
    Token.decode (token lowerPayload) = .ok lower ∧
    Token.decode (token upperPayload) = .ok upper := by
  refine ⟨decode_token ?_ ?_, decode_token ?_ ?_, decode_token ?_ ?_⟩
  all_goals decide +kernel

theorem detour_served :
    statementUrl between.configuration "s:" = some "a:f?sub=s%3A" ∧
      statementUrl anchor.configuration "a:" = some "t:f?sub=a%3A" ∧
      statementUrl anchor.configuration "s:" = some "t:f?sub=s%3A" := by
  decide +kernel

/-- Pages of a federation in which `a:` speaks about `s:`, but `t:` only ever about `a:`. -/
def detour (url : String) : String :=
  ([("s:/.well-known/openid-federation", token leafPayload),
    ("a:/.well-known/openid-federation", token betweenPayload),
    ("t:/.well-known/openid-federation", token anchorPayload),
    ("a:f?sub=s%3A", token lowerPayload),
    ("t:f?sub=a%3A", token upperPayload),
    ("t:f?sub=s%3A", token upperPayload)].lookup url).getD ""

def firstHop : Hop :=
  ⟨"a:/.well-known/openid-federation", token betweenPayload, between, "a:f?sub=s%3A",
    token lowerPayload, "k"⟩

def secondHop : Hop :=
  ⟨"t:/.well-known/openid-federation", token anchorPayload, anchor, "t:f?sub=a%3A",
    token upperPayload, "k"⟩

theorem firstHop_stands : firstHop.Stands detour signs leaf.configuration "k" "a:" := by
  refine ⟨by decide, rfl, rfl, ⟨detour_decoded.1, rfl, rfl⟩, rfl, detour_served.1, rfl, lower,
    statement "a:" "s:" "", ?_⟩
  exact ⟨detour_decoded.2.1, rfl, rfl, rfl, rfl, lists_key _ _ _, rfl⟩

theorem secondHop_stands : secondHop.Stands detour signs between.configuration "k" "t:" := by
  refine ⟨by decide, rfl, rfl, anchor_verified, rfl, detour_served.2.1, rfl, upper,
    statement "t:" "a:" "", ?_⟩
  exact ⟨detour_decoded.2.2, rfl, rfl, rfl, rfl, lists_key _ _ _, rfl⟩

/-- There is a route from `s:` over `a:` to `t:`. -/
theorem detour_route :
    Route detour signs (.ofAnchors ["t:"]) leaf.configuration "k" ["a:", "t:"] :=
  .onward firstHop_stands (.last secondHop_stands rfl)

theorem setsOut_detour : SetsOut (World.fixed detour signs) "s:" "s:/.well-known/openid-federation"
    (token leafPayload) leaf "k" :=
  ⟨rfl, rfl, leaf_verified, rfl⟩

/-- The anchor says nothing about `s:`. -/
theorem not_stands {h : Hop} : ¬ h.Stands detour signs leaf.configuration "k" "t:" := by
  intro stands
  have hurl : secondHop.configurationUrl = h.configurationUrl :=
    Except.ok.inj (secondHop_stands.located.symm.trans stands.located)
  have htext : secondHop.configurationText = h.configurationText := by
    rw [← stands.configured, ← hurl, secondHop_stands.configured]
  have hauthority : anchor = h.authority :=
    secondHop_stands.verified.unique (htext ▸ stands.verified)
  have hfetch : "t:f?sub=s%3A" = h.fetchUrl := by
    have hserved := stands.served
    rw [← hauthority] at hserved
    exact Option.some.inj (detour_served.2.2.symm.trans hserved)
  have hstatement : h.statementText = token upperPayload := by
    rw [← stands.stated, ← hfetch]
    rfl
  obtain ⟨t, st, hattests⟩ := stands.attested
  have hdecoded := hattests.decoded
  rw [hstatement, detour_decoded.2.2] at hdecoded
  cases hdecoded
  obtain rfl : statement "t:" "a:" "" = st :=
    Except.ok.inj hattests.read
  have hsubject : "a:" = "s:" := hattests.subject
  revert hsubject
  decide

/-- From `a:`, the search does not come to `t:` a second time. -/
theorem not_climbs {u t : Moment} {chain found : List String}
    (hseen : secondHop.configurationUrl ∈ u.visited) :
    ¬ Yields (search (World.fixed detour signs).federation (.ofAnchors ["t:"]) 1
      ⟨between.configuration, "k", chain⟩) u (some found) t := by
  intro h
  obtain ⟨first, hint, later, u', hordered, hpassed, hfollow⟩ := yields_followAny_some.mp h
  have hhint : hint = "t:" := by
    have hmem : hint ∈ between.configuration.authorityHints := by
      rw [← Goal.mem_ordered (g := .ofAnchors ["t:"]), hordered]
      simp
    simpa [between, configuration] using hmem
  subst hhint
  obtain ⟨hop, taken, -⟩ := yields_follow_some.mp hfollow
  have hurl : secondHop.configurationUrl = hop.configurationUrl :=
    Except.ok.inj (secondHop_stands.located.symm.trans taken.located)
  exact taken.fresh (hurl ▸ (before_of_followAny before_of_search hpassed).1.visited hseen)

/-- From `s:`, the search finds no chain. -/
theorem not_found {s t : Moment} {found : List String} :
    ¬ Yields (search (World.fixed detour signs).federation (.ofAnchors ["t:"]) 2
      (.foot leaf "k" (token leafPayload))) s (some found) t := by
  intro h
  obtain ⟨first, hint, later, u, hordered, hpassed, hfollow⟩ := yields_followAny_some.mp h
  have hhints : ["t:", "a:"] = first ++ hint :: later := by
    rw [← hordered]
    rfl
  obtain ⟨hop, taken, hend⟩ := yields_follow_some.mp hfollow
  rcases first with _ | ⟨tried, first⟩
  · -- the anchor is tried first
    obtain ⟨rfl, -⟩ := List.cons.inj hhints
    exact not_stands ((Hop.taken_iff (by decide)).mp taken).1
  · -- the other hint is tried when the anchor counts as requested
    obtain ⟨rfl, hrest⟩ := List.cons.inj hhints
    rcases first with _ | ⟨tried, first⟩
    · obtain ⟨rfl, -⟩ := List.cons.inj hrest
      obtain rfl := ((Hop.taken_iff (by decide)).mp taken).1.unique firstHop_stands
      rcases hend with ⟨hanchor, -, -⟩ | ⟨-, hclimb⟩
      · cases hanchor
      · refine not_climbs ((firstHop.before_after u).visited ?_) hclimb
        exact (before_of_followAny before_of_search hpassed).2 rfl "t:" (by simp) _
          secondHop_stands.located
    · obtain ⟨-, hnil⟩ := List.cons.inj hrest
      simp at hnil

theorem findChain_detour : ((World.fixed detour signs).findChain "s:" ["t:"] 2).1 = .ok none := by
  rw [findChain_none_iff_search]
  refine ⟨⟨_, setsOut_detour.located⟩, ?_⟩
  intro url v keyId sets
  obtain ⟨rfl, -, rfl, rfl⟩ := sets.unique setsOut_detour
  have htotal : Total (search (World.fixed detour signs).federation (.ofAnchors ["t:"]) 2
      (.foot leaf "k" (token leafPayload))) := total_search 2 _
  obtain ⟨o, t, hsearch⟩ := htotal (.first "s:/.well-known/openid-federation" (token leafPayload))
  cases o with
  | none => exact ⟨t, hsearch⟩
  | some found => exact absurd hsearch not_found

end Sample

/-- Nothing is found for `s:` although there is a route of two authorities. -/
theorem route_not_found :
    ((World.fixed Sample.detour Sample.signs).findChain "s:" ["t:"] 2).1 = .ok none ∧
      ∃ url v keyId hints,
        SetsOut (World.fixed Sample.detour Sample.signs) "s:" url (Sample.detour url) v keyId ∧
          Route Sample.detour Sample.signs (.ofAnchors ["t:"]) v.configuration keyId hints ∧
          hints.length ≤ 2 :=
  ⟨Sample.findChain_detour, "s:/.well-known/openid-federation", Sample.leaf, "k", ["a:", "t:"],
    Sample.setsOut_detour, Sample.detour_route, Nat.le_refl 2⟩

end Discovery
end EntityTrust
