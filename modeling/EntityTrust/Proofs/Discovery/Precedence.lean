import EntityTrust.Proofs.Discovery.Soundness
import EntityTrust.Proofs.Discovery.Traffic

/-!
# Precedence of anchors

Hints that name an anchor are followed before the others, at every level of a search and whatever
was requested before.

**Order.**  `Goal.split_ordered` is about the order in which hints are followed: those that name an
anchor first, and apart from that as they are published.

**A hint to an anchor.**  A hint is `Promising` when it has a configuration URL of its own and the
hop along it passes all checks whenever the search asks for that URL.  The URL of the entity that
the search is for counts as requested from the start, so that an entity that is an anchor is never
its own authority: that is why its URL is excluded (`own_anchor_not_found`).

**Results.**
* `anchors_followAny`: what following hints to anchors comes to.
* `precedence`: the order of requests at every level, and the chain that is found when a hint of the
  entity is promising.
-/

namespace EntityTrust

namespace Location

/-- Identifiers with one configuration URL are the same up to slashes at their end. -/
theorem canonical_eq_of_configuration {id id' url : String} (h : configuration id = .ok url)
    (h' : configuration id' = .ok url) : canonical id = canonical id' := by
  obtain ⟨hurl, -⟩ := configuration_eq_ok.mp h
  obtain ⟨hurl', -⟩ := configuration_eq_ok.mp h'
  exact (String.append_left_inj wellKnownPath).mp (hurl.symm.trans hurl')

end Location

namespace Discovery

variable {σ : Type}

/-- Hints in a list, split at one of those that satisfy a condition. -/
theorem split_filter {p : String → Bool} {hints before after : List String} {hint : String}
    (h : hints.filter p = before ++ hint :: after) :
    p hint = true ∧ ∃ first last, hints = first ++ hint :: last ∧
      ∀ other ∈ first, p other = true → other ∈ before := by
  obtain ⟨l, l', rfl, rfl, hrest⟩ := List.filter_eq_append_iff.mp h
  obtain ⟨skipped, last, rfl, hskipped, hp, -⟩ := List.filter_eq_cons_iff.mp hrest
  refine ⟨hp, l ++ skipped, last, by simp, ?_⟩
  intro other hother hpother
  rcases List.mem_append.mp hother with hother | hother
  · exact List.mem_filter.mpr ⟨hother, hpother⟩
  · exact absurd hpother (hskipped other hother)

/-- Where a hint stands in the order in which hints are followed. -/
theorem Goal.split_ordered {g : Goal} {hints before after : List String} {hint : String}
    (h : g.ordered hints = before ++ hint :: after) :
    (g.isAnchor hint = false → ∀ other ∈ hints, g.isAnchor other = true → other ∈ before) ∧
      ∃ first last, hints = first ++ hint :: last ∧
        ∀ other ∈ first, g.isAnchor other = g.isAnchor hint → other ∈ before := by
  have hothers : ∀ {as after}, hints.filter (fun h => !g.isAnchor h) = as ++ hint :: after →
      g.isAnchor hint = false ∧ ∃ first last, hints = first ++ hint :: last ∧
        ∀ other ∈ first, g.isAnchor other = g.isAnchor hint → other ∈ as := by
    intro as after has
    obtain ⟨hp, first, last, hhints, hfirst⟩ := split_filter has
    have hhint : g.isAnchor hint = false := by simpa using hp
    exact ⟨hhint, first, last, hhints, fun other hother heq =>
      hfirst other hother (by simp [heq, hhint])⟩
  rcases List.append_eq_append_iff.mp h with ⟨as, rfl, has⟩ | ⟨bs, hbs, hrest⟩
  · obtain ⟨hhint, first, last, hhints, hfirst⟩ := hothers has
    refine ⟨fun _ other hother hanchor => ?_, first, last, hhints, fun other hother heq => ?_⟩
    · exact List.mem_append_left _ (List.mem_filter.mpr ⟨hother, hanchor⟩)
    · exact List.mem_append_right _ (hfirst other hother heq)
  · cases bs with
    | nil =>
        obtain ⟨hhint, first, last, hhints, hfirst⟩ := hothers
          (show hints.filter (fun h => !g.isAnchor h) = [] ++ hint :: after from hrest.symm)
        rw [List.append_nil] at hbs
        refine ⟨fun _ other hother hanchor => ?_, first, last, hhints, fun other hother heq => ?_⟩
        · exact hbs ▸ List.mem_filter.mpr ⟨hother, hanchor⟩
        · exact absurd (hfirst other hother heq) (List.not_mem_nil)
    | cons b bs =>
        obtain ⟨rfl, -⟩ := List.cons.inj hrest
        obtain ⟨hhint, first, last, hhints, hfirst⟩ := split_filter hbs
        refine ⟨fun hno => ?_, first, last, hhints, fun other hother heq => ?_⟩
        · exact absurd (hhint.symm.trans hno) (by simp)
        · exact hfirst other hother (heq.trans hhint)

/-- A hint with a configuration URL other than the given one; whenever that URL is requested for the
hints of the entity, the hop along the hint passes all checks. -/
def Promising (f : Federation (StateM σ)) (c : Climber) (own : String) (j : Journal σ)
    (hint : String) : Prop :=
  ∃ url, Location.configuration hint = .ok url ∧ url ≠ own ∧
    ∀ hint' s x, .authority c hint' s x ∈ j → x.url = url → Passable f c hint s

/-- Hops along hints with one configuration URL pass alike. -/
theorem Passable.congr {f : Federation (StateM σ)} {c : Climber} {hint hint' url : String} {s : σ}
    (h : Passable f c hint s) (hlocated : Location.configuration hint = .ok url)
    (hlocated' : Location.configuration hint' = .ok url) : Passable f c hint' s := by
  obtain ⟨hop, u, t, hp⟩ := h
  have hcanonical := Location.canonical_eq_of_configuration hlocated hlocated'
  have hurl : url = hop.configurationUrl :=
    Except.ok.inj (hlocated.symm.trans hp.arrives.located)
  exact ⟨hop, u, t, ⟨hp.arrives.toServed, hurl ▸ hlocated', hp.arrives.named.trans hcanonical⟩,
    hp.attested⟩

section Anchors

variable {f : Federation (StateM σ)} {g : Goal} {c : Climber}
  {visited visited' visited'' hints hints' : List String} {more more' : Journal σ}

/-- Attempts at hints to anchors that led to nothing, with what was requested in them and the URLs
that count as requested before and after them. -/
structure Barren (f : Federation (StateM σ)) (g : Goal) (c : Climber) (visited : List String)
    (hints : List String) (more : Journal σ) (visited' : List String) : Prop where
  anchors : ∀ c' hint s x, .authority c' hint s x ∈ more → c' = c ∧ g.isAnchor hint = true ∧
    Location.configuration hint = .ok x.url ∧ x.url ∈ visited' ∧ ¬ Passable f c hint s
  requested : ∀ url ∈ visited', url ∈ visited ∨
    ∃ hint s x, .authority c hint s x ∈ more ∧ x.url = url
  seen : ∀ hint ∈ hints, ∀ url, Location.configuration hint = .ok url → url ∈ visited'
  grows : visited ⊆ visited'

theorem barren_nil : Barren f g c visited [] ([] : Journal σ) visited :=
  ⟨by simp, fun _ h => .inl h, by simp, fun _ h => h⟩

theorem barren_skipped {hint : String}
    (seen : ∀ url, Location.configuration hint = .ok url → url ∈ visited) :
    Barren f g c visited [hint] ([] : Journal σ) visited :=
  ⟨by simp, fun _ h => .inl h, by simpa using seen, fun _ h => h⟩

theorem barren_stopped {hint : String} {s : σ} {x : Exchange} {rest : Journal σ}
    (hanchor : g.isAnchor hint = true) (located : Location.configuration hint = .ok x.url)
    (blocked : ¬ Passable f c hint s)
    (rest_eq : rest = [] ∨ ∃ u y, rest = [.statement c hint u y]) :
    Barren f g c visited [hint] (.authority c hint s x :: rest) (x.url :: visited) := by
  have hrest : ∀ c' hint' s' x', .authority c' hint' s' x' ∉ rest := by
    rcases rest_eq with rfl | ⟨u, y, rfl⟩ <;> simp
  refine ⟨?_, ?_, ?_, fun _ h => List.mem_cons_of_mem _ h⟩
  · intro c' hint' s' x' hmem
    rcases List.mem_cons.mp hmem with heq | hmem
    · cases heq
      exact ⟨rfl, hanchor, located, List.mem_cons_self, blocked⟩
    · exact absurd hmem (hrest c' hint' s' x')
  · intro url hurl
    rcases List.mem_cons.mp hurl with rfl | hurl
    · exact .inr ⟨hint, s, x, List.mem_cons_self, rfl⟩
    · exact .inl hurl
  · intro hint' hmem url hurl
    obtain rfl := List.mem_singleton.mp hmem
    cases located.symm.trans hurl
    exact List.mem_cons_self

theorem Barren.append (h : Barren f g c visited hints more visited')
    (h' : Barren f g c visited' hints' more' visited'') :
    Barren f g c visited (hints ++ hints') (more ++ more') visited'' := by
  refine ⟨?_, ?_, ?_, fun _ hurl => h'.grows (h.grows hurl)⟩
  · intro c' hint s x hmem
    rcases List.mem_append.mp hmem with hmem | hmem
    · obtain ⟨hc, hanchor, hlocated, hseen, hblocked⟩ := h.anchors c' hint s x hmem
      exact ⟨hc, hanchor, hlocated, h'.grows hseen, hblocked⟩
    · exact h'.anchors c' hint s x hmem
  · intro url hurl
    rcases h'.requested url hurl with hurl | ⟨hint, s, x, hmem, hx⟩
    · rcases h.requested url hurl with hurl | ⟨hint, s, x, hmem, hx⟩
      · exact .inl hurl
      · exact .inr ⟨hint, s, x, List.mem_append_left _ hmem, hx⟩
    · exact .inr ⟨hint, s, x, List.mem_append_right _ hmem, hx⟩
  · intro hint hmem url hurl
    rcases List.mem_append.mp hmem with hmem | hmem
    · exact h'.grows (h.seen hint hmem url hurl)
    · exact h'.seen hint hmem url hurl

/-- None of the hints that led to nothing is promising. -/
theorem Barren.not_promising {own : String} {j : Journal σ}
    (h : Barren f g c [own] hints more visited') (hmore : more ⊆ j) {hint : String}
    (hmem : hint ∈ hints) : ¬ Promising f c own j hint := by
  rintro ⟨url, hlocated, hown, hpasses⟩
  rcases h.requested url (h.seen hint hmem url hlocated) with hseen | ⟨hint', s, x, hx, hurl⟩
  · exact hown (List.mem_singleton.mp hseen)
  · obtain ⟨-, -, hlocated', -, hblocked⟩ := h.anchors c hint' s x hx
    exact hblocked ((hpasses hint' s x (hmore hx) hurl).congr hlocated (hurl ▸ hlocated'))

/-- What following hints to anchors, and others after them, comes to. -/
inductive Anchored (f : Federation (StateM σ)) (g : Goal)
    (climb : Climber → Search (StateM (σ × Journal σ)) (Option (List String))) (c : Climber)
    (visited hints rest : List String) (j : Journal σ) :
    Except FetchError (Option (List String) × List String) × σ × Journal σ → Prop
  | failed {e : FetchError} {t : σ} {k : Journal σ}
      (unanswered : ∃ y ∈ Journal.exchanges k, y.answer = .error e) :
      Anchored f g climb c visited hints rest j (.error e, t, k)
  | exhausted {more : Journal σ} {visited' : List String} {t : σ}
      (barren : Barren f g c visited hints more visited') :
      Anchored f g climb c visited hints rest j
        (Outcome.runFrom ((Journal.followAny f g climb c rest).run visited') (t, j ++ more))
  | found {before after : List String} {hint : String} {h : Hop} {more : Journal σ}
      {visited' : List String} {s u t : σ} (split : hints = before ++ hint :: after)
      (barren : Barren f g c visited before more visited')
      (fresh : h.configurationUrl ∉ visited') (passes : h.Passes f c hint s u t) :
      Anchored f g climb c visited hints rest j
        (.ok (some (c.chain ++ [h.statementText, h.configurationText]),
          h.configurationUrl :: visited'), t, j ++ more ++ h.events c hint s u)

/-- What goes on after attempts that led to nothing. -/
theorem Anchored.of_barren {f : Federation (StateM σ)} {g : Goal}
    {climb : Climber → Search (StateM (σ × Journal σ)) (Option (List String))} {c : Climber}
    {rest : List String} {j : Journal σ}
    {r : Except FetchError (Option (List String) × List String) × σ × Journal σ}
    (hbarren : Barren f g c visited hints more visited')
    (h : Anchored f g climb c visited' hints' rest (j ++ more) r) :
    Anchored f g climb c visited (hints ++ hints') rest j r := by
  cases h with
  | failed unanswered => exact .failed unanswered
  | exhausted barren =>
      rw [List.append_assoc]
      exact .exhausted (hbarren.append barren)
  | found split barren fresh passes =>
      rw [List.append_assoc j]
      exact .found (by rw [split, List.append_assoc]) (hbarren.append barren) fresh passes

/-- Hints to anchors are followed one after the other, up to the first whose hop passes. -/
theorem anchors_followAny {climb : Climber → Search (StateM (σ × Journal σ)) (Option (List String))}
    {rest : List String} (hanchors : ∀ hint ∈ hints, g.isAnchor hint = true) (s : σ)
    (j : Journal σ) :
    Anchored f g climb c visited hints rest j
      (Outcome.runFrom ((Journal.followAny f g climb c (hints ++ rest)).run visited) (s, j)) := by
  induction hints generalizing visited s j with
  | nil =>
      have hrun : Anchored f g climb c visited [] rest j
          (Outcome.runFrom ((Journal.followAny f g climb c rest).run visited) (s, j ++ [])) :=
        .exhausted barren_nil
      rw [List.append_nil] at hrun
      exact hrun
  | cons hint hints ih =>
      obtain ⟨hanchor, hothers⟩ := List.forall_mem_cons.mp hanchors
      simp only [List.cons_append, Journal.followAny, StateT.run_bind, Outcome.runFrom_bind]
      have hattempt : Attempt f g climb c hint visited s j _ := attempt_follow c hint visited s j
      generalize Outcome.runFrom ((Journal.follow f g climb c hint).run visited) (s, j) = r
        at hattempt ⊢
      cases hattempt with
      | skipped seen =>
          refine .of_barren (barren_skipped seen) ?_
          rw [List.append_nil]
          exact ih hothers s j
      | @stopped x rest' t r located fresh blocked rest_eq outcome =>
          rcases outcome with rfl | ⟨e, rfl, y, hy, herror⟩
          · exact .of_barren (barren_stopped hanchor located blocked rest_eq) (ih hothers t _)
          · refine .failed ⟨y, ?_, herror⟩
            rw [Journal.exchanges_append]
            exact List.mem_append_right _ hy
      | @passed h u t fresh passes =>
          simp only [hanchor, if_true]
          have hfound : Anchored f g climb c visited (hint :: hints) rest j
              (.ok (some (c.chain ++ [h.statementText, h.configurationText]),
                h.configurationUrl :: visited), t, j ++ [] ++ h.events c hint s u) :=
            .found (List.nil_append _).symm barren_nil fresh passes
          rw [List.append_nil] at hfound
          exact hfound

end Anchors

/-- A chain over a hop to an anchor, along the first promising hint of an entity. -/
structure Direct (f : Federation (StateM σ)) (id : String) (anchors : List String) (levels : Nat)
    (s : σ) (own : String) (c : Climber) (hint : String) (h : Hop) : Prop where
  /-- Of the hints that name an anchor, none before this one is promising. -/
  first : ∃ before after,
    c.entity.authorityHints.filter (Goal.ofAnchors anchors).isAnchor = before ++ hint :: after ∧
      ∀ other ∈ before, ¬ Promising f c own (journal f id anchors levels s) other
  promising : Promising f c own (journal f id anchors levels s) hint
  /-- The hop was made and passed all checks. -/
  passes : ∃ t u t', h.Passes f c hint t u t' ∧
    .authority c hint t ⟨h.configurationUrl, .ok h.configurationText⟩ ∈
      journal f id anchors levels s
  found : searched f id anchors levels s =
    .ok (some ⟨c.chain ++ [h.statementText, h.configurationText]⟩)
  /-- Nothing was requested from an authority that is no anchor. -/
  contacted : ∀ c' hint' t x, .authority c' hint' t x ∈ journal f id anchors levels s ∨
    .statement c' hint' t x ∈ journal f id anchors levels s →
      (Goal.ofAnchors anchors).isAnchor hint' = true

/-- In which order a search follows hints. -/
structure Precedence (f : Federation (StateM σ)) (id : String) (anchors : List String)
    (levels : Nat) (s : σ) : Prop where
  /-- When a hint that names no anchor is followed for an entity, the configurations of all anchors
  among its hints were requested. -/
  anchors_first : ∀ earlier c hint t x later,
    journal f id anchors levels s = earlier ++ .authority c hint t x :: later →
      (Goal.ofAnchors anchors).isAnchor hint = false → ∀ other ∈ c.entity.authorityHints,
        (Goal.ofAnchors anchors).isAnchor other = true → Seen other earlier
  /-- Hints to anchors are followed as they are published, and so are the others. -/
  published : ∀ earlier c hint t x later,
    journal f id anchors levels s = earlier ++ .authority c hint t x :: later →
      ∃ first last, c.entity.authorityHints = first ++ hint :: last ∧ ∀ other ∈ first,
        (Goal.ofAnchors anchors).isAnchor other = (Goal.ofAnchors anchors).isAnchor hint →
          Seen other earlier
  /-- If no request fails and a hint of the entity to an anchor is promising, then the chain over
  the first such hint is found and nothing but anchors is asked. -/
  direct : ∀ url raw v keyId t, Location.configuration id = .ok url →
    Departs f url s raw v keyId t → 1 ≤ levels → Answered (requests f id anchors levels s) →
      (∃ hint ∈ v.configuration.authorityHints,
        (Goal.ofAnchors anchors).isAnchor hint = true ∧
          Promising f (.foot v keyId raw) url (journal f id anchors levels s) hint) →
        ∃ hint h, Direct f id anchors levels s url (.foot v keyId raw) hint h

section Precedence

variable {f : Federation (StateM σ)} {id url : String} {anchors : List String} {levels : Nat}
  {s : σ}

/-- A journal goes on from what is in it. -/
theorem grows_followAny {g : Goal}
    {climb : Climber → Search (StateM (σ × Journal σ)) (Option (List String))}
    {climb' : Climber → Search (StateM (σ × Past)) (Option (List String))}
    (hclimb : ∀ c, Erases _ (climb c) (climb' c)) (c : Climber) (hints visited : List String)
    (j : Journal σ) :
    j <+: (Outcome.runFrom ((Journal.followAny f g climb c hints).run visited) (s, j)).2.2 := by
  obtain ⟨r, t, more, hrun, -⟩ :=
    (Journal.erases_followAny f hclimb hints : Erases _ (Journal.followAny f g climb c hints) _)
      visited s j
  rw [hrun]
  exact List.prefix_append _ _

/-- A statement is requested from an authority whose configuration was. -/
theorem authority_of_statement {c : Climber} {hint : String} {t : σ} {x : Exchange}
    (hlocated : Location.configuration id = .ok url)
    (h : .statement c hint t x ∈ journal f id anchors levels s) :
    ∃ u y, .authority c hint u y ∈ journal f id anchors levels s := by
  obtain ⟨earlier, later, hjournal⟩ := List.append_of_mem h
  have hfits : Fits (.ofAnchors anchors) url levels earlier (.statement c hint t x) :=
    fits_journal hlocated hjournal
  obtain ⟨before, u, y, rfl⟩ := hfits
  exact ⟨u, y, by simp [hjournal]⟩

/-- The configuration of an authority is requested when the hints that come before it were seen. -/
theorem ordered_of_authority {earlier later : Journal σ} {c : Climber} {hint : String} {t : σ}
    {x : Exchange} (h : journal f id anchors levels s = earlier ++ .authority c hint t x :: later) :
    ∃ before after, (Goal.ofAnchors anchors).ordered c.entity.authorityHints =
      before ++ hint :: after ∧ ∀ other ∈ before, Seen other earlier := by
  cases hlocated : Location.configuration id with
  | error cause =>
      rw [journal_of_error f anchors levels s hlocated] at h
      simp at h
  | ok url =>
      have hfits : Fits (.ofAnchors anchors) url levels earlier (.authority c hint t x) :=
        fits_journal hlocated h
      obtain ⟨-, -, -, hordered⟩ := hfits
      exact hordered

/-- What was requested in a search that ended with a hop to an anchor. -/
theorem direct_of_passes {c : Climber} {before after : List String} {hint : String} {h : Hop}
    {left : Nat} {answer : Except FetchError String} {more : Journal σ} {visited : List String}
    {t u t' : σ} (hlocated : Location.configuration id = .ok url)
    (split : c.entity.authorityHints.filter (Goal.ofAnchors anchors).isAnchor =
      before ++ hint :: after)
    (barren : Barren f (.ofAnchors anchors) c [url] before more visited)
    (fresh : h.configurationUrl ∉ visited) (passes : h.Passes f c hint t u t')
    (hjournal : journal f id anchors levels s =
      .outset s ⟨url, answer⟩ :: .climb left c :: (more ++ h.events c hint t u))
    (hsearched : searched f id anchors levels s =
      .ok (some ⟨c.chain ++ [h.statementText, h.configurationText]⟩)) :
    Direct f id anchors levels s url c hint h := by
  have hauthority : ∀ c' other u' x,
      .authority c' other u' x ∈ journal f id anchors levels s →
        .authority c' other u' x ∈ more ∨ (c' = c ∧ other = hint ∧ u' = t ∧
          x = ⟨h.configurationUrl, .ok h.configurationText⟩) := by
    intro c' other u' x hx
    simpa [hjournal, Hop.events] using hx
  have hanchor : (Goal.ofAnchors anchors).isAnchor hint = true :=
    (List.mem_filter.mp (split ▸ List.mem_append_right _ List.mem_cons_self)).2
  have hcontacted : ∀ c' other u' x,
      .authority c' other u' x ∈ journal f id anchors levels s →
        (Goal.ofAnchors anchors).isAnchor other = true := by
    intro c' other u' x hx
    rcases hauthority c' other u' x hx with hx | ⟨-, rfl, -⟩
    · exact (barren.anchors c' other u' x hx).2.1
    · exact hanchor
  have hmore : more ⊆ journal f id anchors levels s := by
    rw [hjournal]
    exact fun e he =>
      List.mem_cons_of_mem _ (List.mem_cons_of_mem _ (List.mem_append_left _ he))
  refine ⟨⟨before, after, split, fun other hother => barren.not_promising hmore hother⟩, ?_, ?_,
    hsearched, ?_⟩
  · refine ⟨h.configurationUrl, passes.arrives.located, ?_, fun other u' x hx hurl => ?_⟩
    · rintro rfl
      exact fresh (barren.grows (List.mem_singleton_self _))
    · rcases hauthority c other u' x hx with hx | ⟨-, rfl, rfl, -⟩
      · obtain ⟨-, -, -, hseen, -⟩ := barren.anchors c other u' x hx
        exact absurd (hurl ▸ hseen) fresh
      · exact ⟨h, u, t', passes⟩
  · exact ⟨t, u, t', passes, by simp [hjournal, Hop.events]⟩
  · rintro c' other u' x (hx | hx)
    · exact hcontacted c' other u' x hx
    · obtain ⟨u', y, hy⟩ := authority_of_statement hlocated hx
      exact hcontacted c' other u' y hy

/-- The chain over the first promising hint. -/
theorem exists_direct {raw keyId : String} {v : Verified} {t : σ} {left : Nat} {hint : String}
    (hlocated : Location.configuration id = .ok url) (hdeparts : Departs f url s raw v keyId t)
    (hanswered : Answered (requests f id anchors (left + 1) s))
    (hmem : hint ∈ v.configuration.authorityHints)
    (hanchor : (Goal.ofAnchors anchors).isAnchor hint = true)
    (hpromising : Promising f (.foot v keyId raw) url (journal f id anchors (left + 1) s) hint) :
    ∃ hint h, Direct f id anchors (left + 1) s url (.foot v keyId raw) hint h := by
  let g : Goal := .ofAnchors anchors
  let c : Climber := .foot v keyId raw
  have hanchors : ∀ other ∈ v.configuration.authorityHints.filter g.isAnchor,
      g.isAnchor other = true := fun other hother => (List.mem_filter.mp hother).2
  have hfollow : Anchored f g (Journal.search f g left) c [url]
      (v.configuration.authorityHints.filter g.isAnchor)
      (v.configuration.authorityHints.filter fun h => !g.isAnchor h)
      ([.outset s ⟨url, .ok raw⟩] ++ [.climb (left + 1) c])
      (Journal.begin f g (left + 1) url s) := by
    rw [begin_of_departs hdeparts]
    exact anchors_followAny hanchors t _
  have hjournal : journal f id anchors (left + 1) s = (Journal.begin f g (left + 1) url s).2.2 :=
    journal_of_ok f anchors (left + 1) s hlocated
  have hsearched := searched_eq_of_begin f anchors (left + 1) s hlocated
  rw [show Goal.ofAnchors anchors = g from rfl] at hsearched
  generalize Journal.begin f g (left + 1) url s = r at hfollow hjournal hsearched
  cases hfollow with
  | failed unanswered =>
      obtain ⟨y, hy, herror⟩ := unanswered
      rw [← exchanges_journal, hjournal] at hanswered
      obtain ⟨text, htext⟩ := hanswered y hy
      cases herror.symm.trans htext
  | @exhausted more visited' t' barren =>
      -- no attempt at the promising hint could have led to nothing
      have hmore : more ⊆ journal f id anchors (left + 1) s := by
        rw [hjournal]
        exact fun e he => (grows_followAny (Journal.erases_search f left) c _ visited' _).subset
          (List.mem_append_right _ he)
      exact absurd hpromising
        (barren.not_promising hmore (List.mem_filter.mpr ⟨hmem, hanchor⟩))
  | @found before after hint' h more visited' s' u t' split barren fresh passes =>
      exact ⟨hint', h, direct_of_passes hlocated split barren fresh passes
        (by simpa using hjournal) hsearched⟩

/-- At every level of every search, hints to anchors are followed first and otherwise as they are
published. -/
theorem precedence (f : Federation (StateM σ)) (id : String) (anchors : List String) (levels : Nat)
    (s : σ) : Precedence f id anchors levels s := by
  refine ⟨?_, ?_, ?_⟩
  · intro earlier c hint t x later hjournal hhint other hother hanchor
    obtain ⟨before, after, hsplit, hseen⟩ := ordered_of_authority hjournal
    exact hseen other ((Goal.split_ordered hsplit).1 hhint other hother hanchor)
  · intro earlier c hint t x later hjournal
    obtain ⟨before, after, hsplit, hseen⟩ := ordered_of_authority hjournal
    obtain ⟨first, last, hhints, hfirst⟩ := (Goal.split_ordered hsplit).2
    exact ⟨first, last, hhints, fun other hother heq => hseen other (hfirst other hother heq)⟩
  · rintro url raw v keyId t hlocated hdeparts hlevels hanswered ⟨hint, hmem, hanchor, hpromising⟩
    obtain ⟨left, rfl⟩ := Nat.exists_eq_add_of_le' hlevels
    exact exists_direct hlocated hdeparts hanswered hmem hanchor hpromising

end Precedence

/-- A search in a world is the search in its federation. -/
theorem searched_federation (w : World) (id : String) (anchors : List String) (levels : Nat) :
    searched w.federation id anchors levels [] = (w.findChain id anchors levels).1 :=
  rfl

namespace Sample

def rootedPayload : String :=
  "eyJhdXRob3JpdHlfaGludHMiOlsidDoiXSwiZXhwIjo5LCJpYXQiOjEsImlzcyI6InQ6IiwiandrcyI6eyJrZXlzIjp" ++
    "beyJrIjoiIiwia2lkIjoiayIsImt0eSI6Im9jdCJ9XX0sIm1ldGFkYXRhIjp7ImZlZGVyYXRpb25fZW50aXR5Ijp7Im" ++
    "ZlZGVyYXRpb25fZmV0Y2hfZW5kcG9pbnQiOiJ0OmYifX0sInN1YiI6InQ6In0"

/-- The anchor `t:`, which lists itself as an authority. -/
def rooted : Verified :=
  ⟨⟨token rootedPayload, header, claims "t:" "t:" "" [("authority_hints", .array [.string "t:"])]
    (fetchingClaim "t:f")⟩, configuration "t:" ["t:"] (fetching "t:f")⟩

def ownPayload : String :=
  "eyJleHAiOjksImlhdCI6MSwiaXNzIjoidDoiLCJqd2tzIjp7ImtleXMiOlt7ImsiOiIiLCJraWQiOiJrIiwia3R5Ijo" ++
    "ib2N0In1dfSwic3ViIjoidDoifQ"

/-- The statement of `t:` about itself. -/
def own : Token :=
  ⟨token ownPayload, header, claims "t:" "t:" "" [] []⟩

theorem rooted_decoded : Token.decode (token rootedPayload) = .ok rooted.token ∧
    Token.decode (token ownPayload) = .ok own := by
  refine ⟨decode_token ?_ ?_, decode_token ?_ ?_⟩
  all_goals decide +kernel

/-- Pages of a federation in which `t:` is its own authority. -/
def mirror (url : String) : String :=
  ([("t:/.well-known/openid-federation", token rootedPayload),
    ("t:f?sub=t%3A", token ownPayload)].lookup url).getD ""

def ownHop : Hop :=
  ⟨"t:/.well-known/openid-federation", token rootedPayload, rooted, "t:f?sub=t%3A",
    token ownPayload, "k"⟩

theorem setsOut_mirror : SetsOut (World.fixed mirror signs) "t:" "t:/.well-known/openid-federation"
    (token rootedPayload) rooted "k" :=
  ⟨rfl, rfl, ⟨rooted_decoded.1, rfl, rfl⟩, rfl⟩

theorem taken_own {past : Past} : ownHop.Taken (World.fixed mirror signs)
    (.foot rooted "k" (token rootedPayload)) "t:" ⟨[], past⟩ := by
  refine ⟨rfl, List.not_mem_nil, rfl, ⟨rooted_decoded.1, rfl, rfl⟩, rfl, by decide +kernel, rfl,
    own, statement "t:" "t:" "", ?_⟩
  exact ⟨rooted_decoded.2, rfl, rfl, rfl, rfl, lists_key _ _ _, rfl⟩

/-- The only hint of `t:` leads back to its own configuration. -/
theorem searched_mirror :
    searched (World.fixed mirror signs).federation "t:" ["t:"] 1 [] = .ok none := by
  rw [searched_eq_of_begin _ _ _ _ setsOut_mirror.located, begin_of_departs setsOut_mirror.departs]
  have hseen : ∀ hint ∈ ["t:"], ∀ url, Location.configuration hint = .ok url →
      url ∈ ["t:/.well-known/openid-federation"] := by
    intro hint hmem url hurl
    obtain rfl := List.mem_singleton.mp hmem
    cases setsOut_mirror.located.symm.trans hurl
    exact List.mem_singleton_self _
  have hordered : (Goal.ofAnchors ["t:"]).ordered rooted.configuration.authorityHints = ["t:"] :=
    rfl
  rw [Journal.search, runFrom_note_bind, Climber.foot, hordered, followAny_of_seen _ _ hseen]
  rfl

end Sample

/-- The chain of `s:` goes over its only hint to an anchor. -/
theorem precedence_sample :
    ∃ hint h, Direct Sample.world.federation "s:" ["t:"] 1 [] "s:/.well-known/openid-federation"
      (.foot Sample.leaf "k" (Sample.token Sample.leafPayload)) hint h := by
  have hsets : SetsOut Sample.world "s:" "s:/.well-known/openid-federation"
      (Sample.token Sample.leafPayload) Sample.leaf "k" := Sample.setsOut rfl rfl
  have hfound : searched Sample.world.federation "s:" ["t:"] 1 [] = .ok (some Sample.chain) := by
    rw [searched_federation, Sample.findChain_leaf]
  refine (precedence Sample.world.federation "s:" ["t:"] 1 []).direct _ _ _ _ _ hsets.located
    hsets.departs (Nat.le_refl 1) ?_ ⟨"t:", by decide, rfl, _, rfl, by decide, ?_⟩
  · rcases searched_or_failed Sample.world.federation ["t:"] 1 [] hsets.located with
      ⟨found, -, hanswered⟩ | ⟨e, past, url, hfailed, -⟩
    · exact hanswered
    · cases hfound.symm.trans hfailed
  · intro hint past x _ _
    exact ⟨Sample.hop, _, _, (Sample.taken (s := ⟨[], past⟩) List.not_mem_nil).passes⟩

/-- An anchor that lists itself: the hop along its hint passes all checks and no request fails, but
the configuration counts as requested from the start and no chain is found. -/
theorem own_anchor_not_found :
    Departs (World.fixed Sample.mirror Sample.signs).federation
        "t:/.well-known/openid-federation" [] (Sample.token Sample.rootedPayload) Sample.rooted "k"
        [⟨"t:/.well-known/openid-federation", .ok (Sample.token Sample.rootedPayload)⟩] ∧
      "t:" ∈ Sample.rooted.configuration.authorityHints ∧
      (Goal.ofAnchors ["t:"]).isAnchor "t:" = true ∧
      (∀ past, Passable (World.fixed Sample.mirror Sample.signs).federation
        (.foot Sample.rooted "k" (Sample.token Sample.rootedPayload)) "t:" past) ∧
      Answered (requests (World.fixed Sample.mirror Sample.signs).federation "t:" ["t:"] 1 []) ∧
      searched (World.fixed Sample.mirror Sample.signs).federation "t:" ["t:"] 1 [] = .ok none := by
  refine ⟨Sample.setsOut_mirror.departs, List.mem_singleton_self _, rfl,
    fun past => ⟨Sample.ownHop, _, _, Sample.taken_own.passes⟩, ?_, Sample.searched_mirror⟩
  rcases searched_or_failed (World.fixed Sample.mirror Sample.signs).federation ["t:"] 1 []
    Sample.setsOut_mirror.located with ⟨found, -, hanswered⟩ | ⟨e, past, url, hfailed, -⟩
  · exact hanswered
  · cases Sample.searched_mirror.symm.trans hfailed

end Discovery
end EntityTrust
