import EntityTrust.Proofs.Discovery.Climb
import EntityTrust.Proofs.Discovery.Journal

/-!
# Attempts at hops

What following one hint of an entity comes to, in a federation that is in any state.

**Checks.**  `Served` says what is checked of every configuration, `Arrives` what is checked of that
of an authority, `Attested` what is checked of the statement of an authority, and `Hop.Passes` that
a hop passes all of these checks.  All of them are about the answers that the federation gives from
the state on in which the attempt begins.

**Attempts.**  An attempt is skipped, without a request, when the hint has no configuration URL or
one that was requested before.  Otherwise the configuration is requested and after it at most the
statement.  Unless the hop passes, the attempt ends there, with a failed request or with nothing.

**Results.**
* `Served.of_fetch`, `Attested.of_fetch`: what passes is what is served in that state.
* `attempt_follow`: what following a hint comes to.
* `departure_begin`: what a search comes to before its first attempt.
* `Hop.Taken.passes`: a hop that succeeds in a world is one that passes all checks.
-/

namespace EntityTrust
namespace Discovery

variable {σ : Type}

/-- The text that is served at a URL is a configuration that verifies under its own keys. -/
structure Served (f : Federation (StateM σ)) (url : String) (s : σ) (raw : String) (v : Verified)
    (t : σ) : Prop where
  read : readConfiguration raw = some v
  signed : ∃ u, (f.fetch url).run s = (.ok raw, u) ∧
    (f.verifies v.token v.configuration.keys).run u = (true, t)

/-- The configuration that is served for a hint passes its checks. -/
structure Arrives (f : Federation (StateM σ)) (hint : String) (s : σ) (url raw : String)
    (v : Verified) (t : σ) : Prop extends Served f url s raw v t where
  located : Location.configuration hint = .ok url
  named : Location.canonical v.configuration.subject = Location.canonical hint

/-- The statement that an authority serves about a subject passes its checks; `signer` is the key
that signed it. -/
structure Attested (f : Federation (StateM σ)) (authority : EntityConfiguration)
    (subject keyId : String) (s : σ) (url raw signer : String) (t : σ) : Prop where
  served : statementUrl authority subject = some url
  signed : ∃ token st u, (f.fetch url).run s = (.ok raw, u) ∧
    readSubordinate raw authority.subject subject = some (token, st) ∧
      (f.verifies token authority.keys).run u = (true, t) ∧
        st.keys.contains keyId = true ∧ token.keyId = some signer

/-- The hop along a hint of an entity passes all checks when it is tried in a state. -/
structure Hop.Passes (f : Federation (StateM σ)) (c : Climber) (hint : String) (s : σ) (h : Hop)
    (u t : σ) : Prop where
  arrives : Arrives f hint s h.configurationUrl h.configurationText h.authority u
  attested : Attested f h.authority.configuration c.entity.subject c.keyId u h.fetchUrl
    h.statementText h.signer t

/-- Some hop along a hint passes all checks. -/
def Passable (f : Federation (StateM σ)) (c : Climber) (hint : String) (s : σ) : Prop :=
  ∃ h : Hop, ∃ u t, h.Passes f c hint s u t

section Served

variable {f : Federation (StateM σ)} {s t t' : σ}

/-- The configuration that passes is the one that is served in that state. -/
theorem Served.of_fetch {url raw : String} {v : Verified} {u : σ}
    {answer : Except FetchError String} (h : Served f url s raw v t)
    (hfetch : (f.fetch url).run s = (answer, u)) :
    answer = .ok raw ∧ (f.verifies v.token v.configuration.keys).run u = (true, t) := by
  obtain ⟨u', hfetch', hsigned⟩ := h.signed
  obtain ⟨rfl, rfl⟩ := Prod.mk.inj (hfetch.symm.trans hfetch')
  exact ⟨rfl, hsigned⟩

theorem Served.unique {url raw raw' : String} {v v' : Verified} (h : Served f url s raw v t)
    (h' : Served f url s raw' v' t') : raw = raw' ∧ v = v' ∧ t = t' := by
  obtain ⟨u, hfetch, hsigned⟩ := h.signed
  obtain ⟨hraw, hsigned'⟩ := h'.of_fetch hfetch
  obtain rfl : raw = raw' := Except.ok.inj hraw
  obtain rfl : v = v' := Option.some.inj (h.read.symm.trans h'.read)
  exact ⟨rfl, rfl, (Prod.mk.inj (hsigned.symm.trans hsigned')).2⟩

/-- What is served for a hint is served at its configuration URL. -/
theorem Arrives.served {hint url url' raw : String} {v : Verified}
    (h : Arrives f hint s url raw v t) (hlocated : Location.configuration hint = .ok url') :
    Served f url' s raw v t := by
  obtain rfl : url' = url := Except.ok.inj (hlocated.symm.trans h.located)
  exact h.toServed

theorem Arrives.unique {hint url url' raw raw' : String} {v v' : Verified}
    (h : Arrives f hint s url raw v t) (h' : Arrives f hint s url' raw' v' t') :
    v = v' ∧ url = url' ∧ raw = raw' ∧ t = t' := by
  obtain ⟨hraw, hv, ht⟩ := h.toServed.unique (h'.served h.located)
  exact ⟨hv, Except.ok.inj (h.located.symm.trans h'.located), hraw, ht⟩

/-- The statement that passes is the one that is served in that state. -/
theorem Attested.of_fetch {a : EntityConfiguration} {subject keyId url url' raw signer : String}
    {u : σ} {answer : Except FetchError String}
    (h : Attested f a subject keyId s url raw signer t)
    (hserved : statementUrl a subject = some url')
    (hfetch : (f.fetch url').run s = (answer, u)) :
    answer = .ok raw ∧ ∃ token st, readSubordinate raw a.subject subject = some (token, st) ∧
      (f.verifies token a.keys).run u = (true, t) ∧
        st.keys.contains keyId = true ∧ token.keyId = some signer := by
  obtain ⟨token, st, u', hfetch', hchecks⟩ := h.signed
  obtain rfl : url' = url := Option.some.inj (hserved.symm.trans h.served)
  obtain ⟨rfl, rfl⟩ := Prod.mk.inj (hfetch.symm.trans hfetch')
  exact ⟨rfl, token, st, hchecks⟩

end Served

section Stages

variable {ε : Type} (f : Federation (StateM σ)) (entry : σ → Exchange → ε)

/-- What the steps to an authority come to, in a federation that logs its requests. -/
inductive Approach (hint : String) (visited : List String) (s : σ) (log : List ε) :
    Except FetchError (Option (String × EntityConfiguration) × List String) × σ × List ε → Prop
  | skipped (seen : ∀ url, Location.configuration hint = .ok url → url ∈ visited) :
      Approach hint visited s log (.ok (none, visited), s, log)
  | failed {url : String} {e : FetchError} {t : σ} (located : Location.configuration hint = .ok url)
      (fresh : url ∉ visited) (blocked : ∀ url raw v u, ¬ Arrives f hint s url raw v u) :
      Approach hint visited s log (.error e, t, log ++ [entry s ⟨url, .error e⟩])
  | refused {url raw : String} {t : σ} (located : Location.configuration hint = .ok url)
      (fresh : url ∉ visited) (blocked : ∀ url raw v u, ¬ Arrives f hint s url raw v u) :
      Approach hint visited s log
        (.ok (none, url :: visited), t, log ++ [entry s ⟨url, .ok raw⟩])
  | arrived {url raw : String} {v : Verified} {t : σ} (fresh : url ∉ visited)
      (arrives : Arrives f hint s url raw v t) :
      Approach hint visited s log
        (.ok (some (raw, v.configuration), url :: visited), t, log ++ [entry s ⟨url, .ok raw⟩])

/-- What the steps to a statement come to, in a federation that logs its requests. -/
inductive Inquiry (authority : EntityConfiguration) (subject keyId : String)
    (visited : List String) (s : σ) (log : List ε) :
    Except FetchError (Option (String × String) × List String) × σ × List ε → Prop
  | unserved (blocked : ∀ url raw signer u,
      ¬ Attested f authority subject keyId s url raw signer u) :
      Inquiry authority subject keyId visited s log (.ok (none, visited), s, log)
  | failed {url : String} {e : FetchError} {t : σ} (blocked : ∀ url raw signer u,
      ¬ Attested f authority subject keyId s url raw signer u) :
      Inquiry authority subject keyId visited s log
        (.error e, t, log ++ [entry s ⟨url, .error e⟩])
  | refused {url raw : String} {t : σ} (blocked : ∀ url raw signer u,
      ¬ Attested f authority subject keyId s url raw signer u) :
      Inquiry authority subject keyId visited s log
        (.ok (none, visited), t, log ++ [entry s ⟨url, .ok raw⟩])
  | attested {url raw signer : String} {t : σ}
      (attested : Attested f authority subject keyId s url raw signer t) :
      Inquiry authority subject keyId visited s log
        (.ok (some (raw, signer), visited), t, log ++ [entry s ⟨url, .ok raw⟩])

variable {f}

theorem runFrom_visit (url : String) (visited : List String) (s : σ) :
    Outcome.runFrom ((visit url : Search (StateM σ) Bool).run visited) s =
      (.ok (if visited.contains url then (false, visited) else (true, url :: visited)), s) :=
  rfl

/-- The text that was served is read as a configuration and verified without a request. -/
theorem runFrom_selfVerified {url raw : String} {s u : σ}
    (hfetch : (f.fetch url).run s = (.ok raw, u)) (visited : List String) (log : List ε) :
    ∃ o t, Outcome.runFrom ((selfVerified (f.logged entry) raw).run visited) (u, log) =
        (.ok (o, visited), t, log) ∧
      ∀ raw' v t', Served f url s raw' v t' ↔ raw' = raw ∧ o = some v ∧ t' = t := by
  have hserved : ∀ {raw' v t'}, Served f url s raw' v t' → raw' = raw ∧
      readConfiguration raw = some v ∧
        (f.verifies v.token v.configuration.keys).run u = (true, t') := by
    intro raw' v t' h
    obtain ⟨hraw, hsigned⟩ := h.of_fetch hfetch
    cases hraw
    exact ⟨rfl, h.read, hsigned⟩
  unfold selfVerified
  cases hread : readConfiguration raw with
  | none =>
      refine ⟨none, u, rfl, fun raw' v t' => ⟨fun h => ?_, fun ⟨_, h, _⟩ => by cases h⟩⟩
      cases hread.symm.trans (hserved h).2.1
  | some v =>
      rcases hverifies : (f.verifies v.token v.configuration.keys).run u with ⟨accepted, t⟩
      simp only [StateT.run_bind, Outcome.runFrom_bind, runFrom_ask, verifies_logged, hverifies]
      refine ⟨if accepted then some v else none, t, by cases accepted <;> rfl,
        fun raw' w t' => ⟨fun h => ?_, ?_⟩⟩
      · obtain ⟨hraw, hread', hsigned⟩ := hserved h
        cases hread.symm.trans hread'
        cases hverifies.symm.trans hsigned
        exact ⟨hraw, rfl, rfl⟩
      · rintro ⟨rfl, hw, rfl⟩
        cases accepted with
        | true =>
            cases hw
            exact ⟨hread, u, hfetch, hverifies⟩
        | false => cases hw

/-- A text is read as a statement and verified without a request. -/
theorem runFrom_verifiedSubordinate (raw : String) (a : EntityConfiguration)
    (subject keyId : String) (visited : List String) (s : σ) (log : List ε) :
    ∃ o t, Outcome.runFrom
        ((verifiedSubordinate (f.logged entry) raw a subject keyId).run visited) (s, log) =
          (.ok (o, visited), t, log) ∧
      ∀ signer u, (o = some signer ∧ t = u ↔ ∃ token st,
        readSubordinate raw a.subject subject = some (token, st) ∧
          (f.verifies token a.keys).run s = (true, u) ∧
            st.keys.contains keyId = true ∧ token.keyId = some signer) := by
  unfold verifiedSubordinate
  cases hread : readSubordinate raw a.subject subject with
  | none => exact ⟨none, s, rfl, by simp⟩
  | some r =>
      obtain ⟨token, st⟩ := r
      rcases hverifies : (f.verifies token a.keys).run s with ⟨accepted, t⟩
      simp only [StateT.run_bind, Outcome.runFrom_bind, runFrom_ask, verifies_logged, hverifies]
      cases accepted with
      | true =>
          refine ⟨if st.keys.contains keyId then token.keyId else none, t, rfl,
            fun signer u => ⟨?_, ?_⟩⟩
          · rintro ⟨hsigner, rfl⟩
            split at hsigner
            · rename_i hattests
              exact ⟨token, st, rfl, hverifies, hattests, hsigner⟩
            · cases hsigner
          · rintro ⟨token', st', hpair, hu, hattests, hsigner⟩
            cases hpair
            exact ⟨by rw [if_pos hattests, hsigner], (Prod.mk.inj (hverifies.symm.trans hu)).2⟩
      | false =>
          refine ⟨none, t, rfl, fun signer u => ⟨?_, ?_⟩⟩
          · rintro ⟨hnone, -⟩
            cases hnone
          · rintro ⟨token', st', hpair, hu, -⟩
            cases hpair
            cases (Prod.mk.inj (hverifies.symm.trans hu)).1

/-- The steps to an authority request its configuration, unless there is no reason to. -/
theorem approach_authorityOf (hint : String) (visited : List String) (s : σ) (log : List ε) :
    Approach f entry hint visited s log
      (Outcome.runFrom ((authorityOf (f.logged entry) hint).run visited) (s, log)) := by
  unfold authorityOf
  cases hlocated : Location.configuration hint with
  | error e => exact .skipped fun url hurl => by cases hlocated.symm.trans hurl
  | ok url =>
      simp only [StateT.run_bind, Outcome.runFrom_bind, runFrom_visit]
      by_cases hseen : url ∈ visited
      · simp only [List.contains_iff_mem.mpr hseen, if_true]
        exact .skipped fun url' hurl => by cases hlocated.symm.trans hurl; exact hseen
      · have hfresh : visited.contains url = false := by simpa using hseen
        simp only [hfresh, Bool.false_eq_true, if_false, if_true, StateT.run_bind,
          Outcome.runFrom_bind]
        rcases hfetch : (f.fetch url).run s with ⟨e | raw, u⟩
        · rw [runFrom_request (fetch_logged entry log hfetch)]
          refine .failed hlocated hseen fun url' raw v t h => ?_
          cases ((h.served hlocated).of_fetch hfetch).1
        · rw [runFrom_request (fetch_logged entry log hfetch)]
          obtain ⟨o, t, hself, hserved⟩ := runFrom_selfVerified entry hfetch (url :: visited)
            (log ++ [entry s ⟨url, .ok raw⟩])
          simp only [Except.map, hself]
          cases o with
          | none =>
              refine .refused hlocated hseen fun url' raw' v t' h => ?_
              cases ((hserved raw' v t').mp (h.served hlocated)).2.1
          | some v =>
              by_cases hnamed :
                  Location.canonical v.configuration.subject = Location.canonical hint
              · simp only [hnamed, if_true]
                exact .arrived hseen ⟨(hserved raw v t).mpr ⟨rfl, rfl, rfl⟩, hlocated, hnamed⟩
              · simp only [hnamed, if_false]
                refine .refused hlocated hseen fun url' raw' v' t' h => hnamed ?_
                cases ((hserved raw' v' t').mp (h.served hlocated)).2.1
                exact h.named

/-- The steps to a statement request it, unless it is served nowhere. -/
theorem inquiry_attestation (a : EntityConfiguration) (subject keyId : String)
    (visited : List String) (s : σ) (log : List ε) :
    Inquiry f entry a subject keyId visited s log
      (Outcome.runFrom ((attestation (f.logged entry) a subject keyId).run visited) (s, log)) := by
  unfold attestation
  cases hserved : statementUrl a subject with
  | none => exact .unserved fun url raw signer u h => nomatch hserved.symm.trans h.served
  | some url =>
      simp only [StateT.run_bind, Outcome.runFrom_bind]
      rcases hfetch : (f.fetch url).run s with ⟨e | raw, u⟩
      · rw [runFrom_request (fetch_logged entry log hfetch)]
        exact .failed fun _ _ _ _ h => nomatch (h.of_fetch hserved hfetch).1
      · rw [runFrom_request (fetch_logged entry log hfetch)]
        obtain ⟨o, t, hverified, hchecks⟩ := runFrom_verifiedSubordinate (f := f) entry raw a
          subject keyId visited u (log ++ [entry s ⟨url, .ok raw⟩])
        simp only [Except.map, hverified]
        cases o with
        | none =>
            refine .refused fun url' raw' signer t' h => ?_
            obtain ⟨hraw, hpasses⟩ := h.of_fetch hserved hfetch
            cases hraw
            cases ((hchecks signer t').mpr hpasses).1
        | some signer =>
            obtain ⟨token, st, hpasses⟩ := (hchecks signer t).mp ⟨rfl, rfl⟩
            exact .attested ⟨hserved, token, st, u, hfetch, hpasses⟩

end Stages

/-- The requests of a hop that passes, made in the given states. -/
def Hop.events (h : Hop) (c : Climber) (hint : String) (s u : σ) : Journal σ :=
  [.authority c hint s ⟨h.configurationUrl, .ok h.configurationText⟩,
    .statement c hint u ⟨h.fetchUrl, .ok h.statementText⟩]

section Follow

variable (f : Federation (StateM σ)) (g : Goal)
  (climb : Climber → Search (StateM (σ × Journal σ)) (Option (List String)))

/-- What following one hint comes to. -/
inductive Attempt (c : Climber) (hint : String) (visited : List String) (s : σ) (j : Journal σ) :
    Except FetchError (Option (List String) × List String) × σ × Journal σ → Prop
  | skipped (seen : ∀ url, Location.configuration hint = .ok url → url ∈ visited) :
      Attempt c hint visited s j (.ok (none, visited), s, j)
  | stopped {x : Exchange} {rest : Journal σ} {t : σ}
      {r : Except FetchError (Option (List String) × List String)}
      (located : Location.configuration hint = .ok x.url) (fresh : x.url ∉ visited)
      (blocked : ¬ Passable f c hint s)
      (rest_eq : rest = [] ∨ ∃ u y, rest = [.statement c hint u y])
      (outcome : r = .ok (none, x.url :: visited) ∨ ∃ e, r = .error e ∧
        ∃ y ∈ Journal.exchanges (.authority c hint s x :: rest), y.answer = .error e) :
      Attempt c hint visited s j (r, t, j ++ .authority c hint s x :: rest)
  | passed {h : Hop} {u t : σ} (fresh : h.configurationUrl ∉ visited)
      (passes : h.Passes f c hint s u t) :
      Attempt c hint visited s j
        (if g.isAnchor hint then
          (.ok (some (c.chain ++ [h.statementText, h.configurationText]),
            h.configurationUrl :: visited), t, j ++ h.events c hint s u)
        else Outcome.runFrom ((climb (h.above c)).run (h.configurationUrl :: visited))
          (t, j ++ h.events c hint s u))

variable {f g climb}

theorem attempt_follow (c : Climber) (hint : String) (visited : List String) (s : σ)
    (j : Journal σ) :
    Attempt f g climb c hint visited s j
      (Outcome.runFrom ((Journal.follow f g climb c hint).run visited) (s, j)) := by
  unfold Journal.follow
  simp only [StateT.run_bind, Outcome.runFrom_bind]
  have happroach := approach_authorityOf (f := f) (.authority c hint) hint visited s j
  generalize Outcome.runFrom
    ((authorityOf (f.logged (.authority c hint)) hint).run visited) (s, j) = r at happroach ⊢
  rcases happroach with
    seen | ⟨located, fresh, blocked⟩ | ⟨located, fresh, blocked⟩ | ⟨fresh, arrives⟩
  · exact .skipped seen
  · refine .stopped located fresh (fun ⟨h, u, t, hp⟩ => blocked _ _ _ _ hp.arrives) (.inl rfl)
      (.inr ⟨_, rfl, _, List.mem_singleton_self _, rfl⟩)
  · refine .stopped located fresh (fun ⟨h, u, t, hp⟩ => blocked _ _ _ _ hp.arrives) (.inl rfl)
      (.inl rfl)
  · rename_i url raw v u
    simp only
    rw [StateT.run_bind, Outcome.runFrom_bind]
    have hinquiry := inquiry_attestation (f := f) (.statement c hint) v.configuration
      c.entity.subject c.keyId (url :: visited) u (j ++ [.authority c hint s ⟨url, .ok raw⟩])
    generalize Outcome.runFrom ((attestation (f.logged (.statement c hint)) v.configuration
      c.entity.subject c.keyId).run (url :: visited)) (u, j ++ [.authority c hint s ⟨url, .ok raw⟩])
        = r at hinquiry ⊢
    -- the state in which the statement is requested is determined by that of the attempt
    have hblocked : (∀ surl stext signer t, ¬ Attested f v.configuration c.entity.subject c.keyId u
        surl stext signer t) → ¬ Passable f c hint s := by
      rintro hblocked ⟨h, u', t, hp⟩
      obtain ⟨rfl, -, -, rfl⟩ := arrives.unique hp.arrives
      exact hblocked _ _ _ _ hp.attested
    rcases hinquiry with blocked | blocked | blocked | attested
    · exact .stopped arrives.located fresh (hblocked blocked) (.inl rfl) (.inl rfl)
    · rw [← List.append_cons]
      exact .stopped arrives.located fresh (hblocked blocked) (.inr ⟨u, _, rfl⟩)
        (.inr ⟨_, rfl, _, List.mem_cons_of_mem _ (List.mem_singleton_self _), rfl⟩)
    · simp only
      rw [← List.append_cons]
      exact .stopped arrives.located fresh (hblocked blocked) (.inr ⟨u, _, rfl⟩) (.inl rfl)
    · rename_i surl stext signer t
      have hpassed : Attempt f g climb c hint visited s j _ :=
        .passed (h := ⟨url, raw, v, surl, stext, signer⟩) fresh ⟨arrives, attested⟩
      simp only [← List.append_cons]
      by_cases hanchor : g.isAnchor hint = true
      · simp only [hanchor, if_true] at hpassed ⊢
        exact hpassed
      · simp only [hanchor, Bool.false_eq_true, if_false] at hpassed ⊢
        exact hpassed

/-- Hints whose configurations were requested before lead to nothing. -/
theorem followAny_of_seen {c : Climber} {hints visited : List String} (s : σ) (j : Journal σ)
    (h : ∀ hint ∈ hints, ∀ url, Location.configuration hint = .ok url → url ∈ visited) :
    Outcome.runFrom ((Journal.followAny f g climb c hints).run visited) (s, j) =
      (.ok (none, visited), s, j) := by
  induction hints with
  | nil => rfl
  | cons hint hints ih =>
      obtain ⟨hseen, hothers⟩ := List.forall_mem_cons.mp h
      simp only [Journal.followAny, StateT.run_bind, Outcome.runFrom_bind]
      have hattempt : Attempt f g climb c hint visited s j _ := attempt_follow c hint visited s j
      generalize Outcome.runFrom ((Journal.follow f g climb c hint).run visited) (s, j) = r
        at hattempt ⊢
      cases hattempt with
      | skipped _ => exact ih hothers
      | stopped located fresh _ _ _ => exact absurd (hseen _ located) fresh
      | passed fresh passes => exact absurd (hseen _ passes.arrives.located) fresh

end Follow

/-- The configuration that is served for an entity lets a search depart from it. -/
structure Departs (f : Federation (StateM σ)) (url : String) (s : σ) (raw : String) (v : Verified)
    (keyId : String) (t : σ) : Prop extends Served f url s raw v t where
  keyId : v.token.keyId = some keyId

section Departure

variable (f : Federation (StateM σ)) (g : Goal) (levels : Nat)

/-- What a search comes to from its first request on. -/
inductive Departure (url : String) (s : σ) :
    Except FetchError (Option (List String) × List String) × σ × Journal σ → Prop
  | failed {e : FetchError} {t : σ} (blocked : ∀ raw v keyId u, ¬ Departs f url s raw v keyId u) :
      Departure url s (.error e, t, [.outset s ⟨url, .error e⟩])
  | unusable {raw : String} {t : σ} (blocked : ∀ raw v keyId u, ¬ Departs f url s raw v keyId u) :
      Departure url s (.ok (none, [url]), t, [.outset s ⟨url, .ok raw⟩])
  | climbing {raw keyId : String} {v : Verified} {t : σ} (departs : Departs f url s raw v keyId t) :
      Departure url s
        (Outcome.runFrom ((Journal.search f g levels (.foot v keyId raw)).run [url])
          (t, [.outset s ⟨url, .ok raw⟩]))

variable {f}

theorem Departs.unique {url raw raw' keyId keyId' : String} {v v' : Verified} {s t t' : σ}
    (h : Departs f url s raw v keyId t) (h' : Departs f url s raw' v' keyId' t') :
    raw = raw' ∧ v = v' ∧ keyId = keyId' ∧ t = t' := by
  obtain ⟨hraw, rfl, ht⟩ := h.toServed.unique h'.toServed
  exact ⟨hraw, rfl, Option.some.inj (h.keyId.symm.trans h'.keyId), ht⟩

theorem departure_begin (url : String) (s : σ) :
    Departure f g levels url s (Journal.begin f g levels url s) := by
  unfold Journal.begin
  simp only [StateT.run_bind, Outcome.runFrom_bind]
  rcases hfetch : (f.fetch url).run s with ⟨e | raw, u⟩
  · rw [runFrom_request (fetch_logged Event.outset [] hfetch)]
    refine .failed fun _ _ _ _ h => ?_
    cases (h.of_fetch hfetch).1
  · rw [runFrom_request (fetch_logged Event.outset [] hfetch)]
    obtain ⟨o, t, hself, hserved⟩ := runFrom_selfVerified Event.outset hfetch [url]
      [.outset s ⟨url, .ok raw⟩]
    simp only [Except.map, Journal.searchFrom, List.nil_append, StateT.run_bind,
      Outcome.runFrom_bind, hself]
    cases o with
    | none =>
        refine .unusable fun raw' v _ t' h => ?_
        cases ((hserved raw' v t').mp h.toServed).2.1
    | some v =>
        cases hkey : v.token.keyId with
        | none =>
            simp only [hkey]
            refine .unusable fun raw' v' _ t' h => ?_
            cases ((hserved raw' v' t').mp h.toServed).2.1
            cases hkey.symm.trans h.keyId
        | some keyId =>
            simp only [hkey]
            exact .climbing ⟨(hserved raw v t).mpr ⟨rfl, rfl, rfl⟩, hkey⟩

variable {g levels}

/-- A search from an entity whose configuration lets it depart. -/
theorem begin_of_departs {url raw keyId : String} {v : Verified} {s t : σ}
    (h : Departs f url s raw v keyId t) :
    Journal.begin f g levels url s =
      Outcome.runFrom ((Journal.search f g levels (.foot v keyId raw)).run [url])
        (t, [.outset s ⟨url, .ok raw⟩]) := by
  have hdeparture := departure_begin (f := f) g levels url s
  generalize Journal.begin f g levels url s = r at hdeparture ⊢
  rcases hdeparture with blocked | blocked | departs
  · exact absurd h (blocked raw v keyId t)
  · exact absurd h (blocked raw v keyId t)
  · obtain ⟨rfl, rfl, rfl, rfl⟩ := departs.unique h
    rfl

end Departure

section World

variable {w : World}

theorem fetch_federation {url : String} {answer : Except FetchError String} {past : Past}
    (h : w.answer past url = answer) :
    (w.federation.fetch url).run past = (answer, past ++ [⟨url, answer⟩]) := by
  subst h
  rfl

theorem verifies_federation (token : Token) (keys : KeySet) (past : Past) :
    (w.federation.verifies token keys).run past = (w.verifies token keys, past) := by
  unfold Federation.verifies World.verifies TrustChain.verifies Signature.verifyWith
  cases token.keyId with
  | none => rfl
  | some id => cases h : keys.find? id <;> simp only [h] <;> rfl

/-- A hop that succeeds in a world passes all checks in its federation. -/
theorem Hop.Taken.passes {c : Climber} {hint : String} {s : Moment} {h : Hop}
    (taken : h.Taken w c hint s) :
    h.Passes w.federation c hint s.past
      (s.past ++ [⟨h.configurationUrl, .ok h.configurationText⟩]) (h.after s).past := by
  obtain ⟨token, st, hattests⟩ := taken.attested
  refine ⟨⟨⟨?_, _, fetch_federation taken.configured, ?_⟩, taken.located, taken.named⟩,
    taken.served, token, st, _, fetch_federation taken.stated, ?_, ?_,
    KeySet.contains_iff.mpr hattests.attested, hattests.signer⟩
  · exact World.readConfiguration_eq_some.mpr ⟨taken.verified.decoded, taken.verified.read,
      World.keys_ne_nil_of_verifies taken.verified.signed⟩
  · rw [verifies_federation, taken.verified.signed]
  · exact World.readSubordinate_eq_some.mpr ⟨hattests.decoded, hattests.read, hattests.issuer,
      hattests.subject⟩
  · rw [verifies_federation, hattests.signed]
    rfl

/-- A search that sets out in a world departs in its federation. -/
theorem SetsOut.departs {id url raw keyId : String} {v : Verified}
    (sets : SetsOut w id url raw v keyId) :
    Departs w.federation url [] raw v keyId [⟨url, .ok raw⟩] := by
  refine ⟨⟨World.readConfiguration_eq_some.mpr ⟨sets.verified.decoded, sets.verified.read,
    World.keys_ne_nil_of_verifies sets.verified.signed⟩,
    _, fetch_federation sets.configured, ?_⟩, sets.keyId⟩
  rw [verifies_federation, sets.verified.signed]
  rfl

end World
end Discovery
end EntityTrust
