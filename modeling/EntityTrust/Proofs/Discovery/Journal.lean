import EntityTrust.Proofs.Discovery.Failure

/-!
# Journals of a search

The record of a search tells what was requested.  It does not tell what for: nothing in a URL says
whether a configuration or a statement is expected there, or which entity has hinted at it.

**Journals.**  A journal tells both, in order: the request for the configuration of the entity, the
beginning of every climb, and with every other request the entity on the way up and the hint that
it is made for.  A request comes with the state in which the federation was asked.

**Search with a journal.**  `Journal.search` takes the same steps as a search and notes what they
are for.  Everything else in it is the search: `Erases` says of steps with a journal that they come
to the same outcome and state as the steps of the search, and that the requests in the journal are
those on record.

**Results.**
* `Journal.erases_search`: the climb with a journal is the climb.
* `exchanges_journal`: the requests in the journal of a search are the requests of the search.
* `searched_eq_of_begin`: a search with a journal comes to what the search comes to.
-/

namespace EntityTrust

variable {σ : Type}

namespace Discovery

/-- What happens in a search. -/
inductive Event (σ : Type)
  /-- The configuration of the entity is requested. -/
  | outset (s : σ) (x : Exchange)
  /-- The climb from an entity begins, with the number of levels that may still be climbed. -/
  | climb (left : Nat) (c : Climber)
  /-- The configuration of an authority is requested, for a hint of an entity. -/
  | authority (c : Climber) (hint : String) (s : σ) (x : Exchange)
  /-- The statement of that authority about the entity is requested. -/
  | statement (c : Climber) (hint : String) (s : σ) (x : Exchange)

/-- The request in an event. -/
def Event.exchange : Event σ → Option Exchange
  | outset _ x => some x
  | climb _ _ => none
  | authority _ _ _ x => some x
  | statement _ _ _ x => some x

/-- The URL of a configuration that is requested in an event. -/
def Event.configuration : Event σ → Option String
  | outset _ x => some x.url
  | climb _ _ => none
  | authority _ _ _ x => some x.url
  | statement _ _ _ _ => none

/-- Events in the order in which they took place. -/
abbrev Journal (σ : Type) := List (Event σ)

namespace Journal

/-- The requests in a journal. -/
def exchanges (j : Journal σ) : Past :=
  j.filterMap Event.exchange

/-- The configuration URLs that were requested. -/
def configurations (j : Journal σ) : List String :=
  j.filterMap Event.configuration

@[simp] theorem exchanges_append (j k : Journal σ) :
    exchanges (j ++ k) = exchanges j ++ exchanges k :=
  List.filterMap_append

@[simp] theorem configurations_append (j k : Journal σ) :
    configurations (j ++ k) = configurations j ++ configurations k :=
  List.filterMap_append

@[simp] theorem exchanges_nil : exchanges ([] : Journal σ) = [] := rfl

@[simp] theorem configurations_nil : configurations ([] : Journal σ) = [] := rfl

@[simp] theorem exchanges_cons (e : Event σ) (j : Journal σ) :
    exchanges (e :: j) = e.exchange.toList ++ exchanges j := by
  cases e <;> rfl

@[simp] theorem configurations_cons (e : Event σ) (j : Journal σ) :
    configurations (e :: j) = e.configuration.toList ++ configurations j := by
  cases e <;> rfl

/-- Notes an event. -/
def note (e : Event σ) : Search (StateM (σ × Journal σ)) Unit :=
  fun visited => ExceptT.mk fun (s, j) => (.ok ((), visited), s, j ++ [e])

section Steps

variable (f : Federation (StateM σ)) (g : Goal)

/-- Follows one hint and notes what is requested for it. -/
def follow (climb : Climber → Search (StateM (σ × Journal σ)) (Option (List String)))
    (c : Climber) (hint : String) : Search (StateM (σ × Journal σ)) (Option (List String)) := do
  match ← authorityOf (f.logged (.authority c hint)) hint with
  | none => pure none
  | some (authorityRaw, authority) =>
      match ← attestation (f.logged (.statement c hint)) authority c.entity.subject c.keyId with
      | none => pure none
      | some (raw, signer) =>
          if g.isAnchor hint then pure (some (c.chain ++ [raw, authorityRaw]))
          else climb ⟨authority, signer, c.chain ++ [raw]⟩

/-- Follows hints until one of them leads to a chain. -/
def followAny (climb : Climber → Search (StateM (σ × Journal σ)) (Option (List String)))
    (c : Climber) : List String → Search (StateM (σ × Journal σ)) (Option (List String))
  | [] => pure none
  | hint :: more => do
      match ← follow f g climb c hint with
      | some found => pure (some found)
      | none => followAny climb c more

/-- Climbs from an entity and notes that it does. -/
def search : Nat → Climber → Search (StateM (σ × Journal σ)) (Option (List String))
  | 0, c => do
      note (.climb 0 c)
      pure none
  | left + 1, c => do
      note (.climb (left + 1) c)
      followAny f g (search left) c (g.ordered c.entity.authorityHints)

/-- Searches a chain from the entity whose configuration is the given text. -/
def searchFrom (levels : Nat) (raw : String) :
    Search (StateM (σ × Journal σ)) (Option (List String)) := do
  match ← selfVerified (f.logged .outset) raw with
  | none => pure none
  | some v =>
      match v.token.keyId with
      | none => pure none
      | some keyId => search f g levels ⟨v.configuration, keyId, [raw]⟩

/-- Searches a chain from the entity whose configuration is at the given URL, and what that comes to
with the journal at its end. -/
def begin (levels : Nat) (url : String) (s : σ) :
    Except FetchError (Option (List String) × List String) × σ × Journal σ :=
  Outcome.runFrom ((request (f.logged .outset) url >>= searchFrom f g levels).run [url]) (s, [])

end Steps
end Journal

/-- The journal of a search for a chain. -/
def journal (f : Federation (StateM σ)) (id : String) (anchors : List String) (levels : Nat)
    (s : σ) : Journal σ :=
  match Location.configuration id with
  | .error _ => []
  | .ok url => (Journal.begin f (.ofAnchors anchors) levels url s).2.2

/-- Steps with a journal, and the same steps with a record of their requests. -/
def Erases (α : Type) (x : Search (StateM (σ × Journal σ)) α)
    (x' : Search (StateM (σ × Past)) α) : Prop :=
  ∀ visited s j, ∃ r t more, Outcome.runFrom (x.run visited) (s, j) = (r, t, j ++ more) ∧
    ∀ past, Outcome.runFrom (x'.run visited) (s, past) = (r, t, past ++ Journal.exchanges more)

section Erases

variable {α β : Type} {f : Federation (StateM σ)}

theorem erases_of_ok {x : Search (StateM (σ × Journal σ)) α} {x' : Search (StateM (σ × Past)) α}
    (h : ∀ visited s, ∃ a t,
      (∀ j, Outcome.runFrom (x.run visited) (s, j) = (.ok a, t, j)) ∧
        ∀ past, Outcome.runFrom (x'.run visited) (s, past) = (.ok a, t, past)) :
    Erases α x x' := by
  intro visited s j
  obtain ⟨a, t, hnoted, hrecord⟩ := h visited s
  refine ⟨.ok a, t, [], ?_, fun past => ?_⟩
  · rw [hnoted, List.append_nil]
  · exact (hrecord past).trans (by simp [Journal.exchanges])

theorem erases_pure (a : α) : Erases (σ := σ) α (pure a) (pure a) :=
  erases_of_ok fun visited s => ⟨(a, visited), s, fun _ => rfl, fun _ => rfl⟩

theorem erases_visit (url : String) : Erases (σ := σ) Bool (visit url) (visit url) :=
  erases_of_ok fun _ s => ⟨_, s, fun _ => rfl, fun _ => rfl⟩

theorem erases_ask (entry : σ → Exchange → Event σ) (token : Token) (keys : KeySet) :
    Erases Bool (ask (f.logged entry) token keys) (ask f.recorded token keys) := by
  refine erases_of_ok fun visited s => ⟨(((f.verifies token keys).run s).1, visited),
    ((f.verifies token keys).run s).2, fun j => ?_, fun past => ?_⟩
  · rw [runFrom_ask, verifies_logged]
  · rw [runFrom_ask, verifies_recorded]

theorem erases_request {entry : σ → Exchange → Event σ}
    (hentry : ∀ s x, (entry s x).exchange = some x) (url : String) :
    Erases String (request (f.logged entry) url) (request f.recorded url) := by
  intro visited s j
  rcases hfetch : (f.fetch url).run s with ⟨answer, t⟩
  refine ⟨_, t, [entry s ⟨url, answer⟩], runFrom_request (fetch_logged entry j hfetch),
    fun past => ?_⟩
  rw [runFrom_request (fetch_recorded past hfetch)]
  simp [hentry]

theorem Erases.bind {x : Search (StateM (σ × Journal σ)) α} {x' : Search (StateM (σ × Past)) α}
    {next : α → Search (StateM (σ × Journal σ)) β} {next' : α → Search (StateM (σ × Past)) β}
    (h : Erases α x x') (hnext : ∀ a, Erases β (next a) (next' a)) :
    Erases β (x >>= next) (x' >>= next') := by
  intro visited s j
  simp only [StateT.run_bind, Outcome.runFrom_bind]
  obtain ⟨r, t, more, hnoted, hrecord⟩ := h visited s j
  rcases r with e | ⟨a, seen⟩
  · exact ⟨.error e, t, more, by rw [hnoted], fun past => by rw [hrecord]⟩
  · obtain ⟨r, u, later, hnoted', hrecord'⟩ := hnext a seen t (j ++ more)
    refine ⟨r, u, more ++ later, ?_, fun past => ?_⟩
    · rw [hnoted]
      simp only [hnoted', List.append_assoc]
    · rw [hrecord]
      simp only [hrecord', Journal.exchanges_append, List.append_assoc]

/-- Steps in a federation that logs its requests as events, and in one that records them. -/
theorem pairing_erases {entry : σ → Exchange → Event σ}
    (hentry : ∀ s x, (entry s x).exchange = some x) :
    Pairing (f.logged entry) f.recorded Erases where
  pure := erases_pure
  bind := Erases.bind
  request := erases_request hentry
  ask := erases_ask entry
  visit := erases_visit

/-- An event that is no request leaves no trace on record. -/
theorem Erases.note_bind {e : Event σ} {x : Search (StateM (σ × Journal σ)) α}
    {x' : Search (StateM (σ × Past)) α} (hevent : e.exchange = none) (h : Erases α x x') :
    Erases α (Journal.note e >>= fun _ => x) x' := by
  intro visited s j
  obtain ⟨r, t, more, hnoted, hrecord⟩ := h visited s (j ++ [e])
  refine ⟨r, t, e :: more, ?_, fun past => ?_⟩
  · rw [← List.append_cons] at hnoted
    exact hnoted
  · rw [hrecord]
    simp [Journal.exchanges, hevent]

end Erases

namespace Journal

section Erases

variable (f : Federation (StateM σ)) {g : Goal} {c : Climber}
  {climb : Climber → Search (StateM (σ × Journal σ)) (Option (List String))}
  {climb' : Climber → Search (StateM (σ × Past)) (Option (List String))}

theorem erases_follow (hclimb : ∀ c, Erases _ (climb c) (climb' c)) (hint : String) :
    Erases _ (follow f g climb c hint) (Discovery.follow f.recorded g climb' c hint) := by
  refine ((pairing_erases fun _ _ => rfl).authorityOf hint).bind fun arrival => ?_
  cases arrival with
  | none => exact erases_pure _
  | some arrival =>
      refine ((pairing_erases fun _ _ => rfl).attestation _ _ _).bind fun statement => ?_
      cases statement with
      | none => exact erases_pure _
      | some statement =>
          simp only
          split
          · exact erases_pure _
          · exact hclimb _

theorem erases_followAny (hclimb : ∀ c, Erases _ (climb c) (climb' c)) (hints : List String) :
    Erases _ (followAny f g climb c hints)
      (Discovery.followAny f.recorded g climb' c hints) := by
  induction hints with
  | nil => exact erases_pure _
  | cons hint hints ih =>
      refine (erases_follow f hclimb hint).bind fun o => ?_
      cases o with
      | none => exact ih
      | some found => exact erases_pure _

/-- The climb with a journal is the climb. -/
theorem erases_search (left : Nat) (c : Climber) :
    Erases _ (search f g left c) (Discovery.search f.recorded g left c) := by
  induction left generalizing c with
  | zero => exact (erases_pure _).note_bind rfl
  | succ left ih => exact (erases_followAny f ih _).note_bind rfl

theorem erases_searchFrom (levels : Nat) (raw : String) :
    Erases _ (searchFrom f g levels raw) (Discovery.searchFrom f.recorded g levels raw) := by
  refine ((pairing_erases fun _ _ => rfl).selfVerified raw).bind fun o => ?_
  cases o with
  | none => exact erases_pure _
  | some v =>
      cases hkey : v.token.keyId with
      | none =>
          simp only [hkey]
          exact erases_pure _
      | some keyId =>
          simp only [hkey]
          exact erases_search f levels _

end Erases
end Journal

section Searched

variable {id url : String} (f : Federation (StateM σ)) (anchors : List String) (levels : Nat)
  (s : σ)

theorem journal_of_ok (h : Location.configuration id = .ok url) :
    journal f id anchors levels s = (Journal.begin f (.ofAnchors anchors) levels url s).2.2 := by
  simp only [journal, h]

theorem journal_of_error {cause : StatementError} (h : Location.configuration id = .error cause) :
    journal f id anchors levels s = [] := by
  simp only [journal, h]

/-- What a search with a journal comes to, next to the same search with a record. -/
theorem erases_begin (url : String) (g : Goal) :
    ∃ r t j, Journal.begin f g levels url s = (r, t, j) ∧
      Outcome.runFrom ((request f.recorded url >>= searchFrom f.recorded g levels).run [url])
        (s, []) = (r, t, Journal.exchanges j) := by
  have hsteps : Erases _
      (request (f.logged .outset) url >>= Journal.searchFrom f g levels)
      (request f.recorded url >>= searchFrom f.recorded g levels) :=
    (erases_request (fun _ _ => rfl) url).bind fun raw => Journal.erases_searchFrom f levels raw
  obtain ⟨r, t, j, hnoted, hrecord⟩ := hsteps [url] s []
  exact ⟨r, t, j, hnoted, hrecord []⟩

/-- The requests in the journal of a search are the requests of the search. -/
theorem exchanges_journal (id : String) :
    Journal.exchanges (journal f id anchors levels s) = requests f id anchors levels s := by
  cases hlocated : Location.configuration id with
  | error cause =>
      rw [journal_of_error f anchors levels s hlocated, requests,
        run_findChain_of_error f.recorded anchors levels _ hlocated]
      rfl
  | ok url =>
      obtain ⟨r, t, j, hbegin, hrecord⟩ := erases_begin f levels s url (.ofAnchors anchors)
      rw [journal_of_ok f anchors levels s hlocated, hbegin, requests,
        run_findChain_of_ok f.recorded anchors levels _ hlocated, hrecord]

/-- A search comes to the same with its requests on record. -/
theorem fst_run_recorded (id : String) :
    ((findChain f.recorded id anchors levels).run (s, [])).1 = searched f id anchors levels s := by
  cases hlocated : Location.configuration id with
  | error cause =>
      rw [searched, run_findChain_of_error f anchors levels _ hlocated,
        run_findChain_of_error f.recorded anchors levels _ hlocated]
  | ok url =>
      have hsteps : Recorded _
          (request f.recorded url >>= searchFrom f.recorded (.ofAnchors anchors) levels)
          (request f url >>= searchFrom f (.ofAnchors anchors) levels) :=
        (recorded_request url).bind fun raw => (pairing_recorded f).searchFrom levels raw
      rw [searched, run_findChain_of_ok f anchors levels _ hlocated,
        run_findChain_of_ok f.recorded anchors levels _ hlocated]
      rcases hsteps [url] s [] with ⟨a, t, more, -, hplain, hrecord⟩ |
        ⟨e, t, more, last, -, hplain, hrecord⟩
      · rw [hplain, hrecord]
      · rw [hplain, hrecord]

/-- A search with a journal comes to what the search comes to. -/
theorem searched_eq_of_begin (h : Location.configuration id = .ok url) :
    searched f id anchors levels s =
      (Journal.begin f (.ofAnchors anchors) levels url s).1.map
        fun found => found.1.map TrustChain.mk := by
  obtain ⟨r, t, j, hbegin, hrecord⟩ := erases_begin f levels s url (.ofAnchors anchors)
  rw [hbegin, ← fst_run_recorded, run_findChain_of_ok f.recorded anchors levels _ h, hrecord]

end Searched
end Discovery
end EntityTrust
