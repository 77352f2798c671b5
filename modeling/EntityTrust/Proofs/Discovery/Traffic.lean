import EntityTrust.Proofs.Discovery.Attempt

/-!
# Traffic of a search

A search of a hostile federation, whose hints are many and lead in circles and whose answers change
from one request to the next.

**Invariant.**  `Fits` says what may happen next in a search when its journal so far is known.  An
entity is climbed from while levels are left and with one configuration for each entity below it on
record; configurations are requested for its hints in order, each URL once in the whole search; a
statement is requested right after the configuration of the authority that serves it.  `Kept` says
that a journal is made of events that fit.

**Results.**
* `tracks_search`: every step of a search keeps its journal.
* `kept_journal`: the journal of a search is kept from its first event on.
* `Kept.nodup`, `Kept.length_exchanges`: no configuration is requested twice in a kept journal, and
  the requests are bounded by the configurations among them.
* `traffic_linear`: every search, in every federation and from every state of it.
-/

namespace EntityTrust
namespace Discovery

variable {σ : Type}

/-- The configuration URL of a hint was requested, if it has one. -/
def Seen (hint : String) (j : Journal σ) : Prop :=
  ∀ url, Location.configuration hint = .ok url → url ∈ Journal.configurations j

/-- What may happen next in a search from the entity whose configuration is at a URL. -/
def Fits (g : Goal) (url : String) (levels : Nat) (j : Journal σ) : Event σ → Prop
  | .outset _ x => j = [] ∧ x.url = url
  | .climb left c => ∃ depth, c.chain.length = depth + 1 ∧ left + depth = levels ∧
      depth < (Journal.configurations j).length
  | .authority c hint _ x => (∃ left, .climb (left + 1) c ∈ j) ∧
      Location.configuration hint = .ok x.url ∧ x.url ∉ Journal.configurations j ∧
        ∃ before after, g.ordered c.entity.authorityHints = before ++ hint :: after ∧
          ∀ other ∈ before, Seen other j
  | .statement c hint _ _ => ∃ earlier s x, j = earlier ++ [.authority c hint s x]

/-- All events of a journal fit where they stand. -/
def Kept (g : Goal) (url : String) (levels : Nat) (j : Journal σ) : Prop :=
  ∀ earlier e, earlier ++ [e] <+: j → Fits g url levels earlier e

section Kept

variable {g : Goal} {url : String} {levels : Nat} {j k : Journal σ} {e : Event σ}

theorem Seen.mono {hint : String} (h : Seen hint j) (hjk : j <+: k) : Seen hint k := by
  obtain ⟨more, rfl⟩ := hjk
  intro url hurl
  rw [Journal.configurations_append]
  exact List.mem_append_left _ (h url hurl)

theorem kept_nil : Kept g url levels ([] : Journal σ) := by
  intro earlier e h
  simp at h

theorem Kept.concat (h : Kept g url levels j) (he : Fits g url levels j e) :
    Kept g url levels (j ++ [e]) := by
  intro earlier e' hearlier
  rcases List.prefix_concat_iff.mp hearlier with heq | hearlier
  · obtain ⟨rfl, he'⟩ := List.append_inj' heq rfl
    cases he'
    exact he
  · exact h earlier e' hearlier

theorem Kept.of_concat (h : Kept g url levels (j ++ [e])) :
    Kept g url levels j ∧ Fits g url levels j e :=
  ⟨fun earlier e' hearlier => h earlier e' (hearlier.trans (List.prefix_append _ _)),
    h j e (List.prefix_refl _)⟩

/-- An event of a kept journal fits after those before it. -/
theorem Kept.fits {later : Journal σ} (h : Kept g url levels (j ++ e :: later)) :
    Fits g url levels j e :=
  h j e ⟨later, by simp⟩

/-- How far a climb has come, and that so many configurations were requested. -/
theorem Kept.depth (h : Kept g url levels j) {left : Nat} {c : Climber}
    (hmem : .climb left c ∈ j) : ∃ depth, c.chain.length = depth + 1 ∧ left + depth = levels ∧
      depth < (Journal.configurations j).length := by
  obtain ⟨earlier, later, rfl⟩ := List.append_of_mem hmem
  obtain ⟨depth, hchain, hlevels, hdepth⟩ := h.fits
  refine ⟨depth, hchain, hlevels, ?_⟩
  rw [Journal.configurations_append, List.length_append]
  omega

/-- No configuration is requested twice. -/
theorem Kept.nodup (h : Kept g url levels j) : (Journal.configurations j).Nodup := by
  induction j using List.reverseRecOn with
  | nil => exact List.nodup_nil
  | append_singleton j e ih =>
      obtain ⟨hj, he⟩ := h.of_concat
      rw [Journal.configurations_append]
      cases e with
      | outset s x =>
          obtain ⟨rfl, -⟩ := he
          simp [Event.configuration]
      | climb left c => simpa [Event.configuration] using ih hj
      | authority c hint s x =>
          obtain ⟨-, -, hfresh, -⟩ := he
          have hnew : ∀ url ∈ Journal.configurations j, url ≠ x.url :=
            fun url hurl heq => hfresh (heq ▸ hurl)
          simpa [Event.configuration, List.nodup_append] using ⟨ih hj, hnew⟩
      | statement c hint s x => simpa [Event.configuration] using ih hj

/-- Each configuration is followed by one statement at most, the first one by none; the last one is
followed by none yet. -/
theorem Kept.length_exchanges (h : Kept g url levels j) :
    (Journal.exchanges j).length ≤ 2 * (Journal.configurations j).length - 1 ∧
      ∀ c hint s x, j.getLast? = some (.authority c hint s x) →
        (Journal.exchanges j).length + 1 ≤ 2 * (Journal.configurations j).length - 1 := by
  -- the second half carries the induction over a statement, which comes after its configuration
  induction j using List.reverseRecOn with
  | nil => simp
  | append_singleton j e ih =>
      obtain ⟨hj, he⟩ := h.of_concat
      obtain ⟨hlength, hauthority⟩ := ih hj
      simp only [Journal.exchanges_append, Journal.configurations_append, List.length_append,
        List.getLast?_concat, Option.some.injEq]
      cases e with
      | outset s x =>
          obtain ⟨rfl, -⟩ := he
          simp [Event.configuration, Event.exchange]
      | climb left c => simpa [Event.configuration, Event.exchange] using hlength
      | authority c hint s x =>
          obtain ⟨⟨left, hbegun⟩, -⟩ := he
          obtain ⟨depth, -, -, hdepth⟩ := hj.depth hbegun
          simp only [Journal.exchanges_cons, Journal.configurations_cons, Event.exchange,
            Event.configuration, Option.toList_some, List.length_append, List.length_singleton,
            Journal.exchanges_nil, Journal.configurations_nil, List.length_nil]
          exact ⟨by omega, fun _ _ _ _ _ => by omega⟩
      | statement c hint s x =>
          obtain ⟨earlier, t, y, rfl⟩ := he
          simpa [Event.configuration, Event.exchange] using
            hauthority c hint t y List.getLast?_concat

end Kept

/-- From a kept journal on, steps come to a kept journal that goes on from it, and the URLs that
count as requested are those in the journal. -/
structure Tracks {α : Type} (g : Goal) (url : String) (levels : Nat) (j : Journal σ)
    (r : Except FetchError (α × List String) × σ × Journal σ) : Prop where
  grows : j <+: r.2.2
  kept : Kept g url levels r.2.2
  visited : ∀ a visited, r.1 = .ok (a, visited) → visited = (Journal.configurations r.2.2).reverse

section Tracks

variable {g : Goal} {url : String} {levels left : Nat} {c : Climber} {hint : String}
  {f : Federation (StateM σ)} {s : σ} {j : Journal σ}
  {climb : Climber → Search (StateM (σ × Journal σ)) (Option (List String))}

theorem tracks_pure {α : Type} (a : α) (s : σ) (h : Kept g url levels j) :
    Tracks g url levels j
      (Outcome.runFrom ((pure a : Search (StateM (σ × Journal σ)) α).run
        (Journal.configurations j).reverse) (s, j)) :=
  ⟨List.prefix_refl _, h, fun _ _ heq => by cases heq; rfl⟩

/-- The events of an attempt that was not skipped. -/
theorem kept_attempt {before after : List String} {x : Exchange} {rest : Journal σ}
    (hkept : Kept g url levels j) (hbegun : .climb (left + 1) c ∈ j)
    (hordered : g.ordered c.entity.authorityHints = before ++ hint :: after)
    (hseen : ∀ other ∈ before, Seen other j) (hlocated : Location.configuration hint = .ok x.url)
    (hfresh : x.url ∉ Journal.configurations j)
    (hrest : rest = [] ∨ ∃ u y, rest = [.statement c hint u y]) :
    Kept g url levels (j ++ .authority c hint s x :: rest) ∧
      Journal.configurations (j ++ .authority c hint s x :: rest) =
        Journal.configurations j ++ [x.url] := by
  have hasked : Kept g url levels (j ++ [.authority c hint s x]) :=
    hkept.concat ⟨⟨left, hbegun⟩, hlocated, hfresh, before, after, hordered, hseen⟩
  rw [List.append_cons]
  rcases hrest with rfl | ⟨u, y, rfl⟩
  · exact ⟨by simpa using hasked, by simp [Event.configuration]⟩
  · exact ⟨hasked.concat ⟨j, s, x, rfl⟩, by simp [Event.configuration]⟩

/-- An attempt at a hint of an entity that is climbed from. -/
theorem tracks_attempt {before after : List String}
    {r : Except FetchError (Option (List String) × List String) × σ × Journal σ}
    (hclimb : ∀ c s j, Kept g url levels j → Fits g url levels j (.climb left c) →
      Tracks g url levels j
        (Outcome.runFrom ((climb c).run (Journal.configurations j).reverse) (s, j)))
    (hkept : Kept g url levels j) (hbegun : .climb (left + 1) c ∈ j)
    (hordered : g.ordered c.entity.authorityHints = before ++ hint :: after)
    (hseen : ∀ other ∈ before, Seen other j)
    (h : Attempt f g climb c hint (Journal.configurations j).reverse s j r) :
    Tracks g url levels j r ∧ ∀ o visited, r.1 = .ok (o, visited) → Seen hint r.2.2 := by
  cases h with
  | skipped seen =>
      exact ⟨⟨List.prefix_refl _, hkept, fun _ _ heq => by cases heq; rfl⟩,
        fun _ _ _ url hurl => by simpa using seen url hurl⟩
  | @stopped x rest t r located fresh blocked rest_eq outcome =>
      obtain ⟨hkept', hurls⟩ := kept_attempt (s := s) hkept hbegun hordered hseen located
        (by simpa using fresh) rest_eq
      refine ⟨⟨List.prefix_append _ _, hkept', ?_⟩, ?_⟩
      · rintro o visited rfl
        rcases outcome with heq | ⟨e, heq, -⟩
        · cases heq
          simp [hurls]
        · cases heq
      · intro o visited _ url' hurl
        cases located.symm.trans hurl
        simp [hurls]
  | @passed h u t fresh passes =>
      obtain ⟨hkept', hurls⟩ := kept_attempt (s := s)
        (x := ⟨h.configurationUrl, .ok h.configurationText⟩) hkept hbegun hordered hseen
        passes.arrives.located (by simpa using fresh)
        (.inr ⟨u, ⟨h.fetchUrl, .ok h.statementText⟩, rfl⟩)
      have hvisited : h.configurationUrl :: (Journal.configurations j).reverse =
          (Journal.configurations (j ++ h.events c hint s u)).reverse := by
        rw [Hop.events, hurls, List.reverse_append]
        rfl
      have hhint : Seen hint (j ++ h.events c hint s u) := by
        intro url' hurl
        cases passes.arrives.located.symm.trans hurl
        rw [Hop.events, hurls]
        exact List.mem_append_right _ (List.mem_singleton_self _)
      by_cases hanchor : g.isAnchor hint = true
      · simp only [hanchor, if_true]
        exact ⟨⟨List.prefix_append _ _, hkept', fun _ _ heq => by cases heq; exact hvisited⟩,
          fun _ _ _ => hhint⟩
      · simp only [hanchor, Bool.false_eq_true, if_false]
        obtain ⟨depth, hchain, hlevels, hdepth⟩ := hkept.depth hbegun
        have htracks := hclimb (h.above c) t _ hkept' ⟨depth + 1, by simp [Hop.above, hchain],
          by omega, by rw [hurls, List.length_append]; simpa using hdepth⟩
        rw [hvisited]
        exact ⟨⟨(List.prefix_append _ _).trans htracks.grows, htracks.kept, htracks.visited⟩,
          fun _ _ _ => hhint.mono htracks.grows⟩

/-- Hints that are followed in their order, after others that were. -/
theorem tracks_followAny {before hints : List String}
    (hclimb : ∀ c s j, Kept g url levels j → Fits g url levels j (.climb left c) →
      Tracks g url levels j
        (Outcome.runFrom ((climb c).run (Journal.configurations j).reverse) (s, j)))
    (hkept : Kept g url levels j) (hbegun : .climb (left + 1) c ∈ j)
    (hordered : g.ordered c.entity.authorityHints = before ++ hints)
    (hseen : ∀ other ∈ before, Seen other j) :
    Tracks g url levels j
      (Outcome.runFrom ((Journal.followAny f g climb c hints).run
        (Journal.configurations j).reverse) (s, j)) := by
  induction hints generalizing before s j with
  | nil => exact tracks_pure _ s hkept
  | cons hint hints ih =>
      obtain ⟨htracks, hhint⟩ := tracks_attempt hclimb hkept hbegun hordered hseen
        (attempt_follow (f := f) c hint _ s j)
      simp only [Journal.followAny, StateT.run_bind, Outcome.runFrom_bind]
      rcases hr : Outcome.runFrom ((Journal.follow f g climb c hint).run
        (Journal.configurations j).reverse) (s, j) with ⟨e | ⟨o, visited⟩, t, k⟩
      · rw [hr] at htracks
        exact ⟨htracks.grows, htracks.kept, fun _ _ heq => by cases heq⟩
      · rw [hr] at htracks hhint
        obtain rfl : visited = (Journal.configurations k).reverse := htracks.visited o visited rfl
        cases o with
        | some found =>
            exact ⟨htracks.grows, htracks.kept, fun _ _ heq => by cases heq; rfl⟩
        | none =>
            -- whatever the attempt led to, the URL of its hint now counts as requested
            have hordered' : g.ordered c.entity.authorityHints = (before ++ [hint]) ++ hints := by
              simpa using hordered
            have hseen' : ∀ other ∈ before ++ [hint], Seen other k := by
              intro other hother
              rcases List.mem_append.mp hother with hother | hother
              · exact (hseen other hother).mono htracks.grows
              · obtain rfl := List.mem_singleton.mp hother
                exact hhint none _ rfl
            have hrest := ih (s := t) htracks.kept (htracks.grows.subset hbegun) hordered' hseen'
            exact ⟨htracks.grows.trans hrest.grows, hrest.kept, hrest.visited⟩

theorem runFrom_note_bind {α : Type} (e : Event σ) (x : Search (StateM (σ × Journal σ)) α)
    (visited : List String) (s : σ) (j : Journal σ) :
    Outcome.runFrom ((Journal.note e >>= fun _ => x).run visited) (s, j) =
      Outcome.runFrom (x.run visited) (s, j ++ [e]) :=
  rfl

theorem configurations_begun (left : Nat) (c : Climber) (j : Journal σ) :
    Journal.configurations (j ++ [.climb left c]) = Journal.configurations j := by
  simp [Event.configuration]

/-- A climb that may begin. -/
theorem tracks_search (hkept : Kept g url levels j) (hfits : Fits g url levels j (.climb left c)) :
    Tracks g url levels j
      (Outcome.runFrom ((Journal.search f g left c).run (Journal.configurations j).reverse)
        (s, j)) := by
  induction left generalizing c s j with
  | zero =>
      have htracks := tracks_pure (α := Option (List String)) none s (hkept.concat hfits)
      rw [configurations_begun] at htracks
      exact ⟨(List.prefix_append _ _).trans htracks.grows, htracks.kept, htracks.visited⟩
  | succ left ih =>
      have hordered : g.ordered c.entity.authorityHints =
          [] ++ g.ordered c.entity.authorityHints := rfl
      have htracks := tracks_followAny (f := f) (s := s) (fun _ _ _ => ih) (hkept.concat hfits)
        (List.mem_append_right _ (List.mem_singleton_self _)) hordered (by simp)
      rw [configurations_begun] at htracks
      exact ⟨(List.prefix_append _ _).trans htracks.grows, htracks.kept, htracks.visited⟩

/-- A search from its first request on. -/
theorem tracks_begin (f : Federation (StateM σ)) (g : Goal) (url : String) (levels : Nat) (s : σ) :
    ∃ answer, Tracks g url levels [.outset s ⟨url, answer⟩] (Journal.begin f g levels url s) := by
  have hkept : ∀ answer, Kept g url levels [.outset s ⟨url, answer⟩] :=
    fun answer => kept_nil.concat ⟨rfl, rfl⟩
  have hdeparture := departure_begin (f := f) g levels url s
  generalize Journal.begin f g levels url s = r at hdeparture ⊢
  rcases hdeparture with blocked | blocked | departs
  · exact ⟨_, List.prefix_refl _, hkept _, fun _ _ heq => by cases heq⟩
  · exact ⟨_, tracks_pure none _ (hkept _)⟩
  · exact ⟨_, tracks_search (hkept _) ⟨0, rfl, rfl, by simp [Event.configuration]⟩⟩

end Tracks

/-- What a search requests, and how deep it climbs. -/
structure Linear (f : Federation (StateM σ)) (id : String) (anchors : List String) (levels : Nat)
    (s : σ) : Prop where
  /-- The search ends, with its outcome, and the requests in its journal are the ones it made. -/
  ended : ∃ t, (findChain f.recorded id anchors levels).run (s, []) =
    (searched f id anchors levels s, t, Journal.exchanges (journal f id anchors levels s))
  /-- The first configuration is the one of the entity. -/
  first : ∀ url, Location.configuration id = .ok url →
    (Journal.configurations (journal f id anchors levels s)).head? = some url
  /-- What is requested for a hint is the configuration of the authority that it names. -/
  located : ∀ c hint t x, .authority c hint t x ∈ journal f id anchors levels s →
    Location.configuration hint = .ok x.url
  /-- No configuration is requested twice. -/
  distinct : (Journal.configurations (journal f id anchors levels s)).Nodup
  /-- A statement is requested right after the configuration of its authority, so that there is one
  between two configurations at most. -/
  paired : ∀ earlier c hint u y later,
    journal f id anchors levels s = earlier ++ .statement c hint u y :: later →
      ∃ before t x, earlier = before ++ [.authority c hint t x]
  /-- The number of requests is linear in the number of configurations. -/
  total : (requests f id anchors levels s).length ≤
    2 * (Journal.configurations (journal f id anchors levels s)).length - 1
  /-- A climb has come as deep as levels are gone and statements were collected, and a climb that
  goes on ends no deeper than the levels that were given. -/
  depth : ∀ left c, .climb left c ∈ journal f id anchors levels s →
    ∃ depth, c.chain.length = depth + 1 ∧ left + depth = levels ∧
      depth ≤ min levels (Journal.configurations (journal f id anchors levels s)).length ∧
        (0 < left → depth + 1 ≤ levels)

section Journals

variable {f : Federation (StateM σ)} {id : String} {anchors : List String} {levels : Nat} {s : σ}

/-- The journal of a search is kept. -/
theorem kept_journal {url : String} (hlocated : Location.configuration id = .ok url) :
    Kept (.ofAnchors anchors) url levels (journal f id anchors levels s) ∧
      ∃ answer later, journal f id anchors levels s = .outset s ⟨url, answer⟩ :: later := by
  rw [journal_of_ok f anchors levels s hlocated]
  obtain ⟨answer, ⟨later, hgrows⟩, hkept, -⟩ := tracks_begin f (.ofAnchors anchors) url levels s
  exact ⟨hkept, answer, later, hgrows.symm⟩

/-- An event in the journal of a search fits after those before it. -/
theorem fits_journal {url : String} {earlier later : Journal σ} {e : Event σ}
    (hlocated : Location.configuration id = .ok url)
    (h : journal f id anchors levels s = earlier ++ e :: later) :
    Fits (.ofAnchors anchors) url levels earlier e := by
  have hkept : Kept (.ofAnchors anchors) url levels (journal f id anchors levels s) :=
    (kept_journal hlocated).1
  rw [h] at hkept
  exact hkept.fits

theorem run_recorded (f : Federation (StateM σ)) (id : String) (anchors : List String)
    (levels : Nat) (s : σ) :
    ∃ t, (findChain f.recorded id anchors levels).run (s, []) =
      (searched f id anchors levels s, t, Journal.exchanges (journal f id anchors levels s)) := by
  rw [exchanges_journal, ← fst_run_recorded, requests]
  rcases (findChain f.recorded id anchors levels).run (s, []) with ⟨outcome, t, past⟩
  exact ⟨t, rfl⟩

/-- An entity without a configuration URL. -/
theorem linear_of_unlocated {cause : StatementError}
    (hlocated : Location.configuration id = .error cause) : Linear f id anchors levels s := by
  have hnil : journal f id anchors levels s = [] := journal_of_error f anchors levels s hlocated
  refine ⟨run_recorded f id anchors levels s, ?_, ?_, ?_, ?_, ?_, ?_⟩
  · intro url hurl
    cases hlocated.symm.trans hurl
  · simp [hnil]
  · simp [hnil]
  · simp [hnil]
  · simp [← exchanges_journal, hnil]
  · simp [hnil]

theorem linear_of_located {url : String} (hlocated : Location.configuration id = .ok url) :
    Linear f id anchors levels s := by
  have hkept : Kept (.ofAnchors anchors) url levels (journal f id anchors levels s) :=
    (kept_journal hlocated).1
  obtain ⟨answer, later, houtset⟩ : ∃ answer later,
      journal f id anchors levels s = .outset s ⟨url, answer⟩ :: later := (kept_journal hlocated).2
  refine ⟨run_recorded f id anchors levels s, ?_, ?_, hkept.nodup, ?_, ?_, ?_⟩
  · intro url' hurl
    cases hlocated.symm.trans hurl
    simp [houtset, Event.configuration]
  · intro c hint t x hmem
    obtain ⟨earlier, later, hjournal⟩ := List.append_of_mem hmem
    have hfits : Fits (.ofAnchors anchors) url levels earlier (.authority c hint t x) :=
      fits_journal hlocated hjournal
    exact hfits.2.1
  · intro earlier c hint u y later hjournal
    exact fits_journal hlocated hjournal
  · rw [← exchanges_journal]
    exact hkept.length_exchanges.1
  · intro left c hmem
    obtain ⟨depth, hchain, hlevels, hdepth⟩ := hkept.depth hmem
    exact ⟨depth, hchain, hlevels, le_min (by omega) hdepth.le, by omega⟩

end Journals

/-- The traffic of a search is linear in the number of configurations it asks for, in every
federation, from every state of it and for any number of levels. -/
theorem traffic_linear (f : Federation (StateM σ)) (id : String) (anchors : List String)
    (levels : Nat) (s : σ) : Linear f id anchors levels s := by
  cases hlocated : Location.configuration id with
  | error cause => exact linear_of_unlocated hlocated
  | ok url => exact linear_of_located hlocated

end Discovery
end EntityTrust
