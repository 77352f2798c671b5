import EntityTrust.Proofs.Discovery.Run

/-!
# Climbs

What one hop of a search consists of, what following hints in their order comes to, and how a search
begins.

**Hops.**  A `Hop` names the two requests of a hop and what they brought: the configuration of the
authority and its statement about the entity below.  `Hop.Taken` says that the hop along a hint
succeeds from a moment on, `Hop.after` is the moment at its end.

**Results.**
* `Hop.Taken.unique`: a moment and a hint leave no choice.
* `yields_follow_some`: a hint leads to a chain through a hop.
* `yields_follow_of_taken`: what follows a hop.
* `yields_followAny_some`: the hint that leads to a chain, and those before it.
* `before_of_search`: what was requested and answered stays on record.
* `prefix_of_search`: the chain so far stays at the foot of the chain that is found.
* `findChain_eq_some`: a chain is found by a climb from the configuration of the entity.
-/

namespace EntityTrust
namespace Discovery

/-- The requests of a hop and what they brought. -/
structure Hop where
  configurationUrl : String
  configurationText : String
  authority : Verified
  fetchUrl : String
  statementText : String
  signer : String

namespace Hop

/-- The moment after both requests. -/
def after (h : Hop) (s : Moment) : Moment :=
  ((s.marked h.configurationUrl).asked h.configurationUrl h.configurationText).asked
    h.fetchUrl h.statementText

/-- The authority, with the statement below it added to the chain. -/
def above (h : Hop) (c : Climber) : Climber :=
  ⟨h.authority.configuration, h.signer, c.chain ++ [h.statementText]⟩

/-- The hop along a hint of an entity succeeds. -/
structure Taken (w : World) (c : Climber) (hint : String) (s : Moment) (h : Hop) : Prop where
  located : Location.configuration hint = .ok h.configurationUrl
  fresh : h.configurationUrl ∉ s.visited
  configured : w.answer s.past h.configurationUrl = .ok h.configurationText
  verified : w.SelfVerified h.configurationText h.authority
  named : Location.canonical h.authority.configuration.subject = Location.canonical hint
  served : statementUrl h.authority.configuration c.entity.subject = some h.fetchUrl
  stated : w.answer (s.past ++ [⟨h.configurationUrl, .ok h.configurationText⟩]) h.fetchUrl =
    .ok h.statementText
  attested : ∃ t st,
    w.Attests h.statementText h.authority.configuration c.entity.subject c.keyId h.signer t st

theorem before_after (h : Hop) (s : Moment) : s.Before (h.after s) :=
  ((Moment.before_marked s _).trans (Moment.before_asked _ _ _)).trans (Moment.before_asked _ _ _)

theorem mem_visited_after (h : Hop) (s : Moment) : h.configurationUrl ∈ (h.after s).visited :=
  List.mem_cons_self

end Hop

variable {w : World} {g : Goal} {s t : Moment}

theorem World.SelfVerified.unique {raw : String} {v v' : Verified} (h : w.SelfVerified raw v)
    (h' : w.SelfVerified raw v') : v = v' :=
  Option.some.inj ((World.selfVerified?_eq_some.mpr h).symm.trans
    (World.selfVerified?_eq_some.mpr h'))

theorem Hop.Taken.unique {c : Climber} {hint : String} {h h' : Hop} (ht : h.Taken w c hint s)
    (ht' : h'.Taken w c hint s) : h = h' := by
  obtain ⟨url, text, v, surl, stext, signer⟩ := h
  obtain ⟨url', text', v', surl', stext', signer'⟩ := h'
  obtain rfl : url = url' := Except.ok.inj (ht.located.symm.trans ht'.located)
  obtain rfl : text = text' := Except.ok.inj (ht.configured.symm.trans ht'.configured)
  obtain rfl : v = v' := World.SelfVerified.unique ht.verified ht'.verified
  obtain rfl : surl = surl' := Option.some.inj (ht.served.symm.trans ht'.served)
  obtain rfl : stext = stext' := Except.ok.inj (ht.stated.symm.trans ht'.stated)
  have hsigner := World.signer?_eq_some.mpr ht.attested
  rw [World.signer?_eq_some.mpr ht'.attested] at hsigner
  cases hsigner
  rfl

/-- The steps to an authority, when they bring one. -/
theorem yields_authorityOf_some {hint raw : String} {a : EntityConfiguration} :
    Yields (authorityOf w.federation hint) s (some (raw, a)) t ↔
      ∃ url v, Location.configuration hint = .ok url ∧ url ∉ s.visited ∧
        w.answer s.past url = .ok raw ∧ w.SelfVerified raw v ∧ v.configuration = a ∧
        Location.canonical a.subject = Location.canonical hint ∧
        t = (s.marked url).asked url raw := by
  unfold authorityOf
  cases Location.configuration hint with
  | error e => simp [yields_pure]
  | ok url =>
      simp only [yields_bind, World.yields_visit]
      constructor
      · rintro ⟨fresh, u, ⟨-, rfl, rfl⟩ | ⟨hfresh, rfl, rfl⟩, hrest⟩
        · simp [yields_pure] at hrest
        · simp only [if_true, yields_bind, World.yields_request, World.yields_selfVerified] at hrest
          obtain ⟨raw', u, ⟨hraw, rfl⟩, o, u', ⟨rfl, rfl⟩, hrest⟩ := hrest
          cases hv : w.selfVerified? raw' with
          | none => simp [hv, yields_pure] at hrest
          | some v =>
              simp only [hv] at hrest
              split at hrest
              · rename_i hnamed
                rw [yields_pure] at hrest
                obtain ⟨hpair, rfl⟩ := hrest
                cases hpair
                exact ⟨url, v, rfl, hfresh, hraw, World.selfVerified?_eq_some.mp hv, rfl, hnamed,
                  rfl⟩
              · simp [yields_pure] at hrest
      · rintro ⟨url', v, hurl, hfresh, hraw, hv, rfl, hnamed, rfl⟩
        cases hurl
        refine ⟨true, s.marked url, .inr ⟨hfresh, rfl, rfl⟩, ?_⟩
        simp only [if_true, yields_bind, World.yields_request, World.yields_selfVerified]
        refine ⟨raw, _, ⟨hraw, rfl⟩, _, _, ⟨rfl, rfl⟩, ?_⟩
        simp [World.selfVerified?_eq_some.mpr hv, hnamed, yields_pure]

/-- The steps to an authority ask for its configuration, unless it was asked for before. -/
theorem after_of_authorityOf {hint : String} {o : Option (String × EntityConfiguration)}
    (h : Yields (authorityOf w.federation hint) s o t) :
    t = s ∧ (∀ url, Location.configuration hint = .ok url → url ∈ s.visited) ∨
      ∃ url raw, Location.configuration hint = .ok url ∧ t = (s.marked url).asked url raw := by
  unfold authorityOf at h
  split at h
  · rename_i e hlocated
    rw [yields_pure] at h
    exact .inl ⟨h.2, fun url hurl => by simp [hlocated] at hurl⟩
  · rename_i url hlocated
    simp only [yields_bind, World.yields_visit] at h
    obtain ⟨fresh, u, ⟨hseen, rfl, rfl⟩ | ⟨-, rfl, rfl⟩, hrest⟩ := h
    · simp only [Bool.false_eq_true, if_false, yields_pure] at hrest
      exact .inl ⟨hrest.2, fun url' hurl => by cases hlocated.symm.trans hurl; exact hseen⟩
    · simp only [if_true, yields_bind, World.yields_request, World.yields_selfVerified] at hrest
      obtain ⟨raw, u, ⟨-, rfl⟩, o', u', ⟨rfl, rfl⟩, hrest⟩ := hrest
      refine .inr ⟨url, raw, hlocated, ?_⟩
      split at hrest
      · exact (yields_pure.mp hrest).2
      · split at hrest
        · exact (yields_pure.mp hrest).2
        · exact (yields_pure.mp hrest).2

/-- The steps to an authority leave its configuration URL among the requested ones. -/
theorem before_of_authorityOf {hint : String} {o : Option (String × EntityConfiguration)}
    (h : Yields (authorityOf w.federation hint) s o t) :
    s.Before t ∧ ∀ url, Location.configuration hint = .ok url → url ∈ t.visited := by
  rcases after_of_authorityOf h with ⟨rfl, hseen⟩ | ⟨url, raw, hlocated, rfl⟩
  · exact ⟨.refl _, hseen⟩
  · refine ⟨(Moment.before_marked s url).trans (Moment.before_asked _ _ _), ?_⟩
    intro url' hurl
    cases hlocated.symm.trans hurl
    exact List.mem_cons_self

/-- The steps to the statement of an authority, when they bring one. -/
theorem yields_attestation_some {a : EntityConfiguration} {subject keyId raw signer : String} :
    Yields (attestation w.federation a subject keyId) s (some (raw, signer)) t ↔
      ∃ url, statementUrl a subject = some url ∧ w.answer s.past url = .ok raw ∧
        (∃ token st, w.Attests raw a subject keyId signer token st) ∧ t = s.asked url raw := by
  unfold attestation
  cases statementUrl a subject with
  | none => simp [yields_pure]
  | some url =>
      simp only [yields_bind, World.yields_request, World.yields_verifiedSubordinate]
      constructor
      · rintro ⟨raw', u, ⟨hraw, rfl⟩, o, u', ⟨rfl, rfl⟩, hrest⟩
        cases hsigner : w.signer? raw' a subject keyId with
        | none => simp [hsigner, yields_pure] at hrest
        | some signer' =>
            simp only [hsigner, yields_pure] at hrest
            obtain ⟨hpair, rfl⟩ := hrest
            cases hpair
            exact ⟨url, rfl, hraw, World.signer?_eq_some.mp hsigner, rfl⟩
      · rintro ⟨url', hurl, hraw, hattests, rfl⟩
        cases hurl
        refine ⟨raw, _, ⟨hraw, rfl⟩, _, _, ⟨rfl, rfl⟩, ?_⟩
        simp [World.signer?_eq_some.mpr hattests, yields_pure]

/-- The steps to a statement ask for it at most. -/
theorem after_of_attestation {a : EntityConfiguration} {subject keyId : String}
    {o : Option (String × String)} (h : Yields (attestation w.federation a subject keyId) s o t) :
    t = s ∨ ∃ url raw, t = s.asked url raw := by
  unfold attestation at h
  split at h
  · rw [yields_pure] at h
    exact .inl h.2
  · rename_i url _
    simp only [yields_bind, World.yields_request, World.yields_verifiedSubordinate] at h
    obtain ⟨raw, u, ⟨-, rfl⟩, o', u', ⟨rfl, rfl⟩, hrest⟩ := h
    refine .inr ⟨url, raw, ?_⟩
    split at hrest
    · exact (yields_pure.mp hrest).2
    · exact (yields_pure.mp hrest).2

theorem before_of_attestation {a : EntityConfiguration} {subject keyId : String}
    {o : Option (String × String)} (h : Yields (attestation w.federation a subject keyId) s o t) :
    s.Before t := by
  rcases after_of_attestation h with rfl | ⟨url, raw, rfl⟩
  · exact .refl _
  · exact Moment.before_asked s url raw

section Follow

variable {climb : Climber → Steps (Option (List String))} {c : Climber} {hint : String}
  {hints : List String}

/-- What follows a hop: the end of the chain at an anchor, or the climb from the authority. -/
theorem yields_follow_of_taken {h : Hop} (taken : h.Taken w c hint s)
    {o : Option (List String)} :
    Yields (follow w.federation g climb c hint) s o t ↔
      if g.isAnchor hint then
        o = some (c.chain ++ [h.statementText, h.configurationText]) ∧ t = h.after s
      else Yields (climb (h.above c)) (h.after s) o t := by
  have harrive : Yields (authorityOf w.federation hint) s
      (some (h.configurationText, h.authority.configuration))
      ((s.marked h.configurationUrl).asked h.configurationUrl h.configurationText) :=
    yields_authorityOf_some.mpr ⟨_, h.authority, taken.located, taken.fresh, taken.configured,
      taken.verified, rfl, taken.named, rfl⟩
  have hattest : Yields
      (attestation w.federation h.authority.configuration c.entity.subject c.keyId)
      ((s.marked h.configurationUrl).asked h.configurationUrl h.configurationText)
      (some (h.statementText, h.signer)) (h.after s) :=
    yields_attestation_some.mpr ⟨_, taken.served, taken.stated, taken.attested, rfl⟩
  unfold follow
  rw [yields_bind_of_yields harrive, yields_bind_of_yields hattest]
  by_cases hanchor : g.isAnchor hint = true
  · simp only [hanchor, if_true]
    exact yields_pure
  · simp only [hanchor, if_false, Bool.false_eq_true]
    rfl

/-- A hint that leads to a chain leads to an authority. -/
theorem taken_of_yields_follow_some {found : List String}
    (h : Yields (follow w.federation g climb c hint) s (some found) t) :
    ∃ hop : Hop, hop.Taken w c hint s := by
  unfold follow at h
  obtain ⟨arrival, u, harrive, h⟩ := yields_bind.mp h
  cases arrival with
  | none => simp [yields_pure] at h
  | some arrival =>
      obtain ⟨raw, a⟩ := arrival
      obtain ⟨url, v, hlocated, hfresh, hraw, hv, rfl, hnamed, rfl⟩ :=
        yields_authorityOf_some.mp harrive
      obtain ⟨statement, u, hattest, h⟩ := yields_bind.mp h
      cases statement with
      | none => simp [yields_pure] at h
      | some statement =>
          obtain ⟨stext, signer⟩ := statement
          obtain ⟨surl, hserved, hstated, hattests, -⟩ := yields_attestation_some.mp hattest
          exact ⟨⟨url, raw, v, surl, stext, signer⟩, hlocated, hfresh, hraw, hv, hnamed, hserved,
            hstated, hattests⟩

/-- A hint leads to a chain through a hop. -/
theorem yields_follow_some {found : List String} :
    Yields (follow w.federation g climb c hint) s (some found) t ↔
      ∃ h : Hop, h.Taken w c hint s ∧
        ((g.isAnchor hint = true ∧
            found = c.chain ++ [h.statementText, h.configurationText] ∧ t = h.after s) ∨
          (g.isAnchor hint = false ∧
            Yields (climb (h.above c)) (h.after s) (some found) t)) := by
  constructor
  · intro hfollow
    obtain ⟨h, taken⟩ := taken_of_yields_follow_some hfollow
    refine ⟨h, taken, ?_⟩
    rw [yields_follow_of_taken taken] at hfollow
    split at hfollow
    · rename_i hanchor
      exact .inl ⟨hanchor, Option.some.inj hfollow.1, hfollow.2⟩
    · rename_i hanchor
      exact .inr ⟨by simpa using hanchor, hfollow⟩
  · rintro ⟨h, taken, ⟨hanchor, rfl, rfl⟩ | ⟨hanchor, hclimb⟩⟩
    · simp [yields_follow_of_taken taken, hanchor]
    · simpa [yields_follow_of_taken taken, hanchor] using hclimb

theorem before_of_follow
    (hclimb : ∀ {c s o t}, Yields (climb c) s o t → s.Before t) {o : Option (List String)}
    (h : Yields (follow w.federation g climb c hint) s o t) :
    s.Before t ∧ ∀ url, Location.configuration hint = .ok url → url ∈ t.visited := by
  unfold follow at h
  obtain ⟨arrival, u, harrive, h⟩ := yields_bind.mp h
  obtain ⟨hsu, hurl⟩ := before_of_authorityOf harrive
  have hut : u.Before t := by
    cases arrival with
    | none =>
        obtain ⟨-, rfl⟩ := yields_pure.mp h
        exact .refl _
    | some arrival =>
        obtain ⟨statement, u', hattest, h⟩ := yields_bind.mp h
        refine (before_of_attestation hattest).trans ?_
        cases statement with
        | none =>
            obtain ⟨-, rfl⟩ := yields_pure.mp h
            exact .refl _
        | some statement =>
            simp only at h
            split at h
            · obtain ⟨-, rfl⟩ := yields_pure.mp h
              exact .refl _
            · exact hclimb h
  exact ⟨hsu.trans hut, fun url h => hut.visited (hurl url h)⟩

theorem yields_followAny_nil {o : Option (List String)} :
    Yields (followAny w.federation g climb c []) s o t ↔ o = none ∧ t = s :=
  yields_pure

/-- Hints are followed one after the other, up to the first that leads to a chain. -/
theorem yields_followAny_cons {o : Option (List String)} :
    Yields (followAny w.federation g climb c (hint :: hints)) s o t ↔
      (∃ found, o = some found ∧
          Yields (follow w.federation g climb c hint) s (some found) t) ∨
        ∃ u, Yields (follow w.federation g climb c hint) s none u ∧
          Yields (followAny w.federation g climb c hints) u o t := by
  rw [followAny, yields_bind]
  constructor
  · rintro ⟨first, u, hfollow, hrest⟩
    cases first with
    | none => exact .inr ⟨u, hfollow, hrest⟩
    | some found =>
        obtain ⟨rfl, rfl⟩ := yields_pure.mp hrest
        exact .inl ⟨found, rfl, hfollow⟩
  · rintro (⟨found, rfl, hfollow⟩ | ⟨u, hfollow, hrest⟩)
    · exact ⟨some found, t, hfollow, yields_pure.mpr ⟨rfl, rfl⟩⟩
    · exact ⟨none, u, hfollow, hrest⟩

/-- Hints that lead to nothing are passed over. -/
theorem yields_followAny_append {first : List String} {u : Moment} {o : Option (List String)}
    (h : Yields (followAny w.federation g climb c first) s none u) :
    Yields (followAny w.federation g climb c (first ++ hints)) s o t ↔
      Yields (followAny w.federation g climb c hints) u o t := by
  induction first generalizing s with
  | nil =>
      obtain ⟨-, rfl⟩ := yields_followAny_nil.mp h
      rfl
  | cons hint first ih =>
      rcases yields_followAny_cons.mp h with ⟨_, hnone, -⟩ | ⟨u', hfollow, hrest⟩
      · cases hnone
      · rw [List.cons_append, followAny, yields_bind_of_yields hfollow]
        exact ih hrest

/-- Hints lead to nothing only if those of every part of the list do. -/
theorem yields_followAny_none_of_append {first : List String}
    (h : Yields (followAny w.federation g climb c (first ++ hints)) s none t) :
    ∃ u, Yields (followAny w.federation g climb c first) s none u ∧
      Yields (followAny w.federation g climb c hints) u none t := by
  induction first generalizing s with
  | nil => exact ⟨s, yields_followAny_nil.mpr ⟨rfl, rfl⟩, h⟩
  | cons hint first ih =>
      rcases yields_followAny_cons.mp h with ⟨_, hnone, -⟩ | ⟨u', hfollow, hrest⟩
      · cases hnone
      · obtain ⟨u, hfirst, hhints⟩ := ih hrest
        exact ⟨u, yields_followAny_cons.mpr (.inr ⟨u', hfollow, hfirst⟩), hhints⟩

/-- Of hints that lead to a chain, one does and those before it lead to nothing. -/
theorem yields_followAny_some {found : List String} :
    Yields (followAny w.federation g climb c hints) s (some found) t ↔
      ∃ first hint later u, hints = first ++ hint :: later ∧
        Yields (followAny w.federation g climb c first) s none u ∧
        Yields (follow w.federation g climb c hint) u (some found) t := by
  constructor
  · intro h
    induction hints generalizing s with
    | nil =>
        obtain ⟨hnone, -⟩ := yields_followAny_nil.mp h
        cases hnone
    | cons hint hints ih =>
        rcases yields_followAny_cons.mp h with ⟨_, hsome, hfollow⟩ | ⟨u', hfollow, hrest⟩
        · cases hsome
          exact ⟨[], hint, hints, s, rfl, yields_followAny_nil.mpr ⟨rfl, rfl⟩, hfollow⟩
        · obtain ⟨first, hint', later, u, rfl, hfirst, hfound⟩ := ih hrest
          exact ⟨hint :: first, hint', later, u, rfl,
            yields_followAny_cons.mpr (.inr ⟨u', hfollow, hfirst⟩), hfound⟩
  · rintro ⟨first, hint, later, u, rfl, hfirst, hfound⟩
    exact (yields_followAny_append hfirst).mpr
      (yields_followAny_cons.mpr (.inl ⟨found, rfl, hfound⟩))

theorem before_of_followAny
    (hclimb : ∀ {c s o t}, Yields (climb c) s o t → s.Before t) {o : Option (List String)}
    (h : Yields (followAny w.federation g climb c hints) s o t) :
    s.Before t ∧ (o = none → ∀ hint ∈ hints, ∀ url,
      Location.configuration hint = .ok url → url ∈ t.visited) := by
  induction hints generalizing s with
  | nil =>
      obtain ⟨-, rfl⟩ := yields_followAny_nil.mp h
      exact ⟨.refl _, fun _ _ hmem => by simp at hmem⟩
  | cons hint hints ih =>
      rcases yields_followAny_cons.mp h with ⟨found, rfl, hfollow⟩ | ⟨u, hfollow, hrest⟩
      · exact ⟨(before_of_follow hclimb hfollow).1, fun hnone => by cases hnone⟩
      · obtain ⟨hsu, hhint⟩ := before_of_follow hclimb hfollow
        obtain ⟨hut, hhints⟩ := ih hrest
        refine ⟨hsu.trans hut, fun hnone hint' hmem url hurl => ?_⟩
        rcases List.mem_cons.mp hmem with rfl | hmem
        · exact hut.visited (hhint url hurl)
        · exact hhints hnone hint' hmem url hurl

end Follow

/-- What counted as requested before a search still does after it. -/
theorem before_of_search {levels : Nat} {c : Climber} {o : Option (List String)}
    (h : Yields (search w.federation g levels c) s o t) : s.Before t := by
  induction levels generalizing c s o t with
  | zero =>
      obtain ⟨-, rfl⟩ := yields_pure.mp h
      exact .refl _
  | succ levels ih => exact (before_of_followAny ih h).1

/-- A search only adds to the chain it starts with. -/
theorem prefix_of_search {levels : Nat} {c : Climber} {found : List String}
    (h : Yields (search w.federation g levels c) s (some found) t) : c.chain <+: found := by
  induction levels generalizing c s with
  | zero =>
      obtain ⟨hnone, -⟩ := yields_pure.mp h
      cases hnone
  | succ levels ih =>
      obtain ⟨first, hint, later, u, -, -, hfollow⟩ := yields_followAny_some.mp h
      obtain ⟨hop, -, ⟨-, rfl, -⟩ | ⟨-, hclimb⟩⟩ := yields_follow_some.mp hfollow
      · exact List.prefix_append _ _
      · exact (List.prefix_append _ _).trans (ih hclimb)

@[simp]
theorem Goal.mem_ordered {hint : String} {hints : List String} :
    hint ∈ g.ordered hints ↔ hint ∈ hints := by
  simp only [Goal.ordered, List.mem_append, List.mem_filter]
  cases g.isAnchor hint <;> simp

/-- A climber that sets out from the configuration of an entity. -/
structure SetsOut (w : World) (id url raw : String) (v : Verified) (keyId : String) : Prop where
  located : Location.configuration id = .ok url
  configured : w.answer [] url = .ok raw
  verified : w.SelfVerified raw v
  keyId : v.token.keyId = some keyId

theorem SetsOut.unique {id url url' raw raw' keyId keyId' : String} {v v' : Verified}
    (h : SetsOut w id url raw v keyId) (h' : SetsOut w id url' raw' v' keyId') :
    url = url' ∧ raw = raw' ∧ v = v' ∧ keyId = keyId' := by
  obtain rfl : url = url' := Except.ok.inj (h.located.symm.trans h'.located)
  obtain rfl : raw = raw' := Except.ok.inj (h.configured.symm.trans h'.configured)
  obtain rfl : v = v' := h.verified.unique h'.verified
  exact ⟨rfl, rfl, rfl, Option.some.inj (h.keyId.symm.trans h'.keyId)⟩

/-- The climber at the foot of a chain. -/
def Climber.foot (v : Verified) (keyId raw : String) : Climber :=
  ⟨v.configuration, keyId, [raw]⟩

/-- The moment at which the configuration of the entity is there. -/
def Moment.first (url raw : String) : Moment :=
  ⟨[url], [⟨url, .ok raw⟩]⟩

/-- What a search comes to once the configuration of the entity is there. -/
theorem yields_searchFrom {levels : Nat} {raw : String} {o : Option (List String)} :
    Yields (searchFrom w.federation g levels raw) s o t ↔
      (∃ v keyId, w.SelfVerified raw v ∧ v.token.keyId = some keyId ∧
          Yields (search w.federation g levels (.foot v keyId raw)) s o t) ∨
        ((∀ v keyId, w.SelfVerified raw v → v.token.keyId ≠ some keyId) ∧ o = none ∧ t = s) := by
  unfold searchFrom
  simp only [yields_bind, World.yields_selfVerified]
  cases hv : w.selfVerified? raw with
  | none =>
      have hno : ∀ v, ¬ w.SelfVerified raw v := by
        intro v h
        rw [World.selfVerified?_eq_some.mpr h] at hv
        cases hv
      simp [hno, yields_pure]
  | some v =>
      have hself := World.selfVerified?_eq_some.mp hv
      cases hkey : v.token.keyId with
      | none =>
          have hno : ∀ v' keyId, w.SelfVerified raw v' → v'.token.keyId ≠ some keyId := by
            intro v' keyId h
            rw [World.SelfVerified.unique h hself, hkey]
            exact Option.some_ne_none keyId ∘ Eq.symm
          constructor
          · rintro ⟨o', u, ⟨rfl, rfl⟩, hrest⟩
            simp only [hkey, yields_pure] at hrest
            exact .inr ⟨hno, hrest⟩
          · rintro (⟨v', keyId, h, hkeyId, -⟩ | ⟨-, rfl, rfl⟩)
            · exact absurd hkeyId (hno v' keyId h)
            · refine ⟨some v, _, ⟨rfl, rfl⟩, ?_⟩
              simp [hkey, yields_pure]
      | some keyId =>
          constructor
          · rintro ⟨o', u, ⟨rfl, rfl⟩, hrest⟩
            simp only [hkey] at hrest
            exact .inl ⟨v, keyId, hself, hkey, hrest⟩
          · rintro (⟨v', keyId', h, hkeyId, hrest⟩ | ⟨hno, -, -⟩)
            · obtain rfl := World.SelfVerified.unique h hself
              refine ⟨some v', _, ⟨rfl, rfl⟩, ?_⟩
              rw [hkey] at hkeyId
              cases hkeyId
              simp only [hkey]
              exact hrest
            · exact absurd hkey (hno v keyId hself)

/-- What a search for a chain comes to, with its exchanges. -/
def World.findChain (w : World) (id : String) (anchors : List String) (levels : Nat) :
    Except FetchError (Option TrustChain) × Past :=
  (Discovery.findChain w.federation id anchors levels).run []

theorem fst_findChain_eq_ok {id : String} {anchors : List String} {levels : Nat}
    {o : Option TrustChain} :
    (w.findChain id anchors levels).1 = .ok o ↔
      ∃ past, w.findChain id anchors levels = (.ok o, past) := by
  generalize w.findChain id anchors levels = outcome
  obtain ⟨outcome, past⟩ := outcome
  simp

/-- The whole of a search, by its request for the configuration and the climb after it. -/
theorem findChain_eq_ok {id : String} {anchors : List String} {levels : Nat}
    {o : Option TrustChain} {past : Past} :
    w.findChain id anchors levels = (.ok o, past) ↔
      ∃ url raw found t, Location.configuration id = .ok url ∧ w.answer [] url = .ok raw ∧
        Yields (searchFrom w.federation (.ofAnchors anchors) levels raw) (.first url raw) found t ∧
        o = found.map TrustChain.mk ∧ past = t.past := by
  cases hlocated : Location.configuration id with
  | error e =>
      have hrun : w.findChain id anchors levels = (.error (.statement e), []) := by
        simp only [World.findChain, findChain, hlocated]
        rfl
      simp [hrun]
  | ok url =>
      have hrun : w.findChain id anchors levels =
          match run (request w.federation url >>=
              searchFrom w.federation (.ofAnchors anchors) levels) ⟨[url], []⟩ with
          | (.ok (found, _), past) => (.ok (found.map TrustChain.mk), past)
          | (.error e, past) => (.error e, past) := by
        rcases hx : run (request w.federation url >>=
          searchFrom w.federation (.ofAnchors anchors) levels) ⟨[url], []⟩ with
            ⟨e | ⟨found, visited⟩, past⟩
        · simp only [run, StateT.run_bind] at hx
          simp only [World.findChain, findChain, hlocated, StateT.run_bind, hx]
          rfl
        · simp only [run, StateT.run_bind] at hx
          simp only [World.findChain, findChain, hlocated, StateT.run_bind, hx]
          rfl
      have hsteps : w.findChain id anchors levels = (.ok o, past) ↔
          ∃ found t, Yields (request w.federation url >>=
              searchFrom w.federation (.ofAnchors anchors) levels) ⟨[url], []⟩ found t ∧
            o = found.map TrustChain.mk ∧ past = t.past := by
        rw [hrun]
        unfold Yields
        constructor
        · intro h
          split at h
          · rename_i found visited past' hx
            obtain ⟨ho, rfl⟩ := Prod.mk.inj h
            exact ⟨found, ⟨visited, past'⟩, hx, (Except.ok.inj ho).symm, rfl⟩
          · cases h
        · rintro ⟨found, t, hx, rfl, rfl⟩
          rw [hx]
      rw [hsteps]
      constructor
      · rintro ⟨found, t, hyields, ho, hpast⟩
        obtain ⟨raw, u, hrequest, hfrom⟩ := yields_bind.mp hyields
        obtain ⟨hraw, rfl⟩ := World.yields_request.mp hrequest
        exact ⟨url, raw, found, t, rfl, hraw, hfrom, ho, hpast⟩
      · rintro ⟨url', raw, found, t, hurl, hraw, hfrom, ho, hpast⟩
        cases hurl
        exact ⟨found, t, yields_bind.mpr
          ⟨raw, _, World.yields_request.mpr ⟨hraw, rfl⟩, hfrom⟩, ho, hpast⟩

/-- A chain is found exactly by a climb from the configuration of the entity. -/
theorem findChain_eq_some {id : String} {anchors : List String} {levels : Nat}
    {chain : TrustChain} {past : Past} :
    w.findChain id anchors levels = (.ok (some chain), past) ↔
      ∃ url raw v keyId t, SetsOut w id url raw v keyId ∧
        Yields (search w.federation (.ofAnchors anchors) levels (.foot v keyId raw))
          (.first url raw) (some chain.statements) t ∧ past = t.past := by
  rw [findChain_eq_ok]
  constructor
  · rintro ⟨url, raw, found, t, hlocated, hraw, hfrom, ho, hpast⟩
    rcases yields_searchFrom.mp hfrom with ⟨v, keyId, hv, hkey, hsearch⟩ | ⟨-, rfl, -⟩
    · cases found with
      | none => cases ho
      | some statements =>
          cases ho
          exact ⟨url, raw, v, keyId, t, ⟨hlocated, hraw, hv, hkey⟩, hsearch, hpast⟩
    · cases ho
  · rintro ⟨url, raw, v, keyId, t, sets, hsearch, hpast⟩
    exact ⟨url, raw, some chain.statements, t, sets.located, sets.configured,
      yields_searchFrom.mpr (.inl ⟨v, keyId, sets.verified, sets.keyId, hsearch⟩), rfl, hpast⟩

end Discovery
end EntityTrust
