import EntityTrust.Discovery.Resolution
import EntityTrust.Proofs.Discovery.Pairing
import EntityTrust.Proofs.Discovery.Run

/-!
# Failures of a search

A search fails with the first request that fails, and with nothing else.

**Records.**  The federation may be in any state and may change it with every request and every
question to the verifier, so that no two of its answers have to agree.  `Federation.recorded` is the
same federation with its requests and answers on record; it gives the same outcomes, and its record
is what the search has requested (`Federation.requests`).

**Results.**
* `Recorded` says of steps what is true of a search: they answer, and then all of their requests
  were answered, or they fail with the failure of their last request, and those before it were
  answered.
* `pairing_recorded`: the single steps are so, hence every search is.
* `fails_by_fetch`: when a search for a chain fails, and what is reported then.
-/

namespace EntityTrust

variable {σ : Type}

/-- A federation that logs its requests. -/
def Federation.logged {ε : Type} (f : Federation (StateM σ))
    (entry : σ → Discovery.Exchange → ε) : Federation (StateM (σ × List ε)) where
  fetch url := fun (s, log) =>
    let (answer, t) := (f.fetch url).run s
    (answer, t, log ++ [entry s ⟨url, answer⟩])
  check raw k := fun (s, log) =>
    let (accepted, t) := (f.check raw k).run s
    (accepted, t, log)

/-- A federation with its requests and their answers on record. -/
def Federation.recorded (f : Federation (StateM σ)) :
    Federation (StateM (σ × Discovery.Past)) where
  fetch url := fun (s, past) =>
    let (answer, t) := (f.fetch url).run s
    (answer, t, past ++ [⟨url, answer⟩])
  check raw k := fun (s, past) =>
    let (accepted, t) := (f.check raw k).run s
    (accepted, t, past)

namespace Discovery

/-- All requests were answered with a text. -/
def Answered (past : Past) : Prop :=
  ∀ x ∈ past, ∃ raw, x.answer = .ok raw

/-- Steps with a record of their requests, and the same steps without: they answer after requests
that were answered, or they fail with the first request that fails. -/
def Recorded (α : Type) (x : Search (StateM (σ × Past)) α) (x' : Search (StateM σ) α) : Prop :=
  ∀ visited s past,
    (∃ a t more, Answered more ∧ Outcome.runFrom (x'.run visited) s = (.ok a, t) ∧
        Outcome.runFrom (x.run visited) (s, past) = (.ok a, t, past ++ more)) ∨
      ∃ e t more url, Answered more ∧ Outcome.runFrom (x'.run visited) s = (.error e, t) ∧
        Outcome.runFrom (x.run visited) (s, past) =
          (.error e, t, past ++ (more ++ [⟨url, .error e⟩]))

section Recorded

variable {α β : Type} {f : Federation (StateM σ)}

theorem answered_nil : Answered [] :=
  fun _ h => nomatch h

theorem Answered.append {past more : Past} (h : Answered past) (h' : Answered more) :
    Answered (past ++ more) := by
  intro x hx
  rcases List.mem_append.mp hx with hx | hx
  · exact h x hx
  · exact h' x hx

theorem answered_singleton (url raw : String) : Answered [⟨url, .ok raw⟩] := by
  intro x hx
  rw [List.mem_singleton.mp hx]
  exact ⟨raw, rfl⟩

theorem recorded_of_ok {x : Search (StateM (σ × Past)) α} {x' : Search (StateM σ) α}
    (h : ∀ visited s past, ∃ a t, Outcome.runFrom (x'.run visited) s = (.ok a, t) ∧
      Outcome.runFrom (x.run visited) (s, past) = (.ok a, t, past)) : Recorded α x x' := by
  intro visited s past
  obtain ⟨a, t, hplain, hrecord⟩ := h visited s past
  exact .inl ⟨a, t, [], answered_nil, hplain, by rw [hrecord, List.append_nil]⟩

theorem recorded_pure (a : α) :
    Recorded (σ := σ) α (pure a) (pure a) :=
  recorded_of_ok fun visited s _ => ⟨(a, visited), s, rfl, rfl⟩

theorem recorded_visit (url : String) : Recorded (σ := σ) Bool (visit url) (visit url) :=
  recorded_of_ok fun _ s _ => ⟨_, s, rfl, rfl⟩

theorem Recorded.bind {x : Search (StateM (σ × Past)) α} {x' : Search (StateM σ) α}
    {next : α → Search (StateM (σ × Past)) β} {next' : α → Search (StateM σ) β}
    (h : Recorded α x x') (hnext : ∀ a, Recorded β (next a) (next' a)) :
    Recorded β (x >>= next) (x' >>= next') := by
  intro visited s past
  simp only [StateT.run_bind, Outcome.runFrom_bind]
  rcases h visited s past with ⟨⟨a, seen⟩, t, more, hmore, hplain, hrecord⟩ |
    ⟨e, t, more, url, hmore, hplain, hrecord⟩
  · rw [hplain, hrecord]
    rcases hnext a seen t (past ++ more) with ⟨b, u, later, hlater, hplain', hrecord'⟩ |
      ⟨e, u, later, url, hlater, hplain', hrecord'⟩
    · refine .inl ⟨b, u, more ++ later, hmore.append hlater, hplain', ?_⟩
      simp only [hrecord', List.append_assoc]
    · refine .inr ⟨e, u, more ++ later, url, hmore.append hlater, hplain', ?_⟩
      simp only [hrecord', List.append_assoc]
  · rw [hplain, hrecord]
    exact .inr ⟨e, t, more, url, hmore, rfl, rfl⟩

theorem runFrom_request {url : String} {visited : List String} {s t : σ}
    {answer : Except FetchError String} (h : (f.fetch url).run s = (answer, t)) :
    Outcome.runFrom ((request f url).run visited) s =
      (answer.map fun raw => (raw, visited), t) := by
  simp only [StateT.run] at h
  simp only [Outcome.runFrom, request, StateT.run, ExceptT.run, ExceptT.mk, bind, StateT.bind, h]
  cases answer <;> rfl

theorem runFrom_ask (f : Federation (StateM σ)) (token : Token) (keys : KeySet)
    (visited : List String) (s : σ) :
    Outcome.runFrom ((ask f token keys).run visited) s =
      (.ok (((f.verifies token keys).run s).1, visited), ((f.verifies token keys).run s).2) :=
  rfl

theorem fetch_logged {ε : Type} (entry : σ → Exchange → ε) {url : String} {s t : σ}
    {answer : Except FetchError String} (log : List ε) (h : (f.fetch url).run s = (answer, t)) :
    ((f.logged entry).fetch url).run (s, log) = (answer, t, log ++ [entry s ⟨url, answer⟩]) := by
  simp only [StateT.run] at h
  simp only [Federation.logged, StateT.run, h]

theorem verifies_logged {ε : Type} (entry : σ → Exchange → ε) (token : Token) (keys : KeySet)
    (s : σ) (log : List ε) :
    ((f.logged entry).verifies token keys).run (s, log) =
      (((f.verifies token keys).run s).1, ((f.verifies token keys).run s).2, log) := by
  unfold Federation.verifies Signature.verifyWith
  cases token.keyId with
  | none => rfl
  | some id => cases h : keys.find? id <;> simp only [h] <;> rfl

theorem fetch_recorded {url : String} {s t : σ} {answer : Except FetchError String} (past : Past)
    (h : (f.fetch url).run s = (answer, t)) :
    (f.recorded.fetch url).run (s, past) = (answer, t, past ++ [⟨url, answer⟩]) :=
  fetch_logged (fun _ x => x) past h

theorem verifies_recorded (token : Token) (keys : KeySet) (s : σ) (past : Past) :
    (f.recorded.verifies token keys).run (s, past) =
      (((f.verifies token keys).run s).1, ((f.verifies token keys).run s).2, past) :=
  verifies_logged (fun _ x => x) token keys s past

theorem recorded_request (url : String) :
    Recorded String (request f.recorded url) (request f url) := by
  intro visited s past
  rcases hfetch : (f.fetch url).run s with ⟨e | raw, t⟩
  · exact .inr ⟨e, t, [], url, answered_nil, runFrom_request hfetch,
      runFrom_request (fetch_recorded past hfetch)⟩
  · exact .inl ⟨(raw, visited), t, [⟨url, .ok raw⟩], answered_singleton url raw,
      runFrom_request hfetch, runFrom_request (fetch_recorded past hfetch)⟩

theorem recorded_ask (token : Token) (keys : KeySet) :
    Recorded Bool (ask f.recorded token keys) (ask f token keys) := by
  refine recorded_of_ok fun visited s past => ⟨_, _, runFrom_ask f token keys visited s, ?_⟩
  rw [runFrom_ask, verifies_recorded]

/-- Every search is as its single steps are. -/
theorem pairing_recorded (f : Federation (StateM σ)) : Pairing f.recorded f Recorded where
  pure := recorded_pure
  bind := Recorded.bind
  request := recorded_request
  ask := recorded_ask
  visit := recorded_visit

end Recorded

/-- What a search for a chain comes to when the federation is in some state. -/
def searched (f : Federation (StateM σ)) (id : String) (anchors : List String) (levels : Nat)
    (s : σ) : Except FetchError (Option TrustChain) :=
  ((findChain f id anchors levels).run s).1

/-- The requests of a search for a chain, with their answers. -/
def requests (f : Federation (StateM σ)) (id : String) (anchors : List String) (levels : Nat)
    (s : σ) : Past :=
  ((findChain f.recorded id anchors levels).run (s, [])).2.2

section Requests

variable {id url : String} (f : Federation (StateM σ)) (anchors : List String) (levels : Nat) (s : σ)

theorem run_findChain_of_error {e : StatementError} (h : Location.configuration id = .error e) :
    (findChain f id anchors levels).run s = (.error (.statement e), s) := by
  simp only [findChain, h]
  rfl

/-- A search for a chain is the request for the configuration and the climb after it. -/
theorem run_findChain_of_ok (h : Location.configuration id = .ok url) :
    (findChain f id anchors levels).run s =
      match Outcome.runFrom ((request f url >>= searchFrom f (.ofAnchors anchors) levels).run [url])
        s with
      | (outcome, t) => (outcome.map fun found => found.1.map TrustChain.mk, t) := by
  rcases hx : Outcome.runFrom
    ((request f url >>= searchFrom f (.ofAnchors anchors) levels).run [url]) s with
      ⟨e | ⟨found, visited⟩, t⟩
  · simp only [Outcome.runFrom, StateT.run_bind] at hx
    simp only [findChain, h, StateT.run_bind, hx]
    rfl
  · simp only [Outcome.runFrom, StateT.run_bind] at hx
    simp only [findChain, h, StateT.run_bind, hx]
    rfl

/-- The two ways in which a search for a chain can end once its entity has a configuration URL. -/
theorem searched_or_failed (h : Location.configuration id = .ok url) :
    (∃ found, searched f id anchors levels s = .ok found ∧
        Answered (requests f id anchors levels s)) ∨
      ∃ e past url, searched f id anchors levels s = .error e ∧ Answered past ∧
        requests f id anchors levels s = past ++ [⟨url, .error e⟩] := by
  have hsteps : Recorded _
      (request f.recorded url >>= searchFrom f.recorded (.ofAnchors anchors) levels)
      (request f url >>= searchFrom f (.ofAnchors anchors) levels) :=
    (recorded_request url).bind fun raw => (pairing_recorded f).searchFrom levels raw
  unfold searched requests
  rw [run_findChain_of_ok f anchors levels s h, run_findChain_of_ok f.recorded anchors levels _ h]
  rcases hsteps [url] s [] with ⟨found, t, more, hmore, hplain, hrecord⟩ |
    ⟨e, t, more, last, hmore, hplain, hrecord⟩
  · rw [hplain, hrecord]
    exact .inl ⟨_, rfl, hmore⟩
  · rw [hplain, hrecord]
    exact .inr ⟨e, more, last, rfl, hmore, rfl⟩

/-- The first request is the one for the configuration of the entity. -/
theorem exists_head_requests (h : Location.configuration id = .ok url) :
    ∃ answer, (requests f id anchors levels s).head? = some ⟨url, answer⟩ := by
  unfold requests
  rw [run_findChain_of_ok f.recorded anchors levels _ h, StateT.run_bind, Outcome.runFrom_bind]
  rcases hfetch : (f.fetch url).run s with ⟨e | raw, t⟩
  · rw [runFrom_request (fetch_recorded [] hfetch)]
    exact ⟨.error e, rfl⟩
  · rw [runFrom_request (fetch_recorded [] hfetch)]
    simp only [Except.map]
    -- Whatever follows only adds to the record.
    rcases (pairing_recorded f).searchFrom (g := .ofAnchors anchors) levels raw [url] t
      ([] ++ [⟨url, .ok raw⟩]) with
        ⟨found, u, more, -, -, hrecord⟩ | ⟨e, u, more, last, -, -, hrecord⟩
    · rw [hrecord]
      exact ⟨.ok raw, rfl⟩
    · rw [hrecord]
      exact ⟨.ok raw, rfl⟩

theorem requests_eq_nil_iff :
    requests f id anchors levels s = [] ↔ ∃ cause, Location.configuration id = .error cause := by
  cases hlocated : Location.configuration id with
  | error cause =>
      refine iff_of_true ?_ ⟨cause, rfl⟩
      rw [requests, run_findChain_of_error f.recorded anchors levels _ hlocated]
  | ok url =>
      refine iff_of_false ?_ (by simp)
      intro hnil
      obtain ⟨answer, hhead⟩ := exists_head_requests f anchors levels s hlocated
      rw [hnil] at hhead
      cases hhead

end Requests

theorem failed_ofOutcome {outcome : Except FetchError (Option TrustChain)} :
    (Resolution.ofOutcome outcome).failed = true ↔ ∃ e, outcome = .error e := by
  rcases outcome with e | _ | c <;>
    simp [Resolution.ofOutcome, Resolution.failure, Resolution.notFound, Resolution.found]

/-- What makes a search fail, and how that is reported. -/
structure FailsByFetch (f : Federation (StateM σ)) (id : String) (anchors : List String)
    (levels : Nat) (s : σ) : Prop where
  /-- Nothing is requested exactly for an entity without a configuration URL. -/
  unrequested : requests f id anchors levels s = [] ↔
    ∃ cause, Location.configuration id = .error cause
  /-- The failure is the lack of that URL or the failure of the last request. -/
  failed_iff : ∀ e, searched f id anchors levels s = .error e ↔
    (∃ cause, Location.configuration id = .error cause ∧ e = .statement cause) ∨
      ∃ url, (requests f id anchors levels s).getLast? = some ⟨url, .error e⟩
  /-- All requests before the last one were answered. -/
  earlier : Answered (requests f id anchors levels s).dropLast
  /-- If the last one was answered too then the search has an outcome, whatever the answers were. -/
  answered : ∀ url raw, (requests f id anchors levels s).getLast? = some ⟨url, .ok raw⟩ →
    ∃ found, searched f id anchors levels s = .ok found
  /-- A failure is reported exactly when the search fails, without a chain and with the text of the
  failure. -/
  reported : ∀ settings depth, depth.getD settings.maxDepth = levels →
    (((resolve f settings id anchors depth).run s).1.failed = true ↔
        ∃ e, searched f id anchors levels s = .error e) ∧
      ∀ e, searched f id anchors levels s = .error e →
        ((resolve f settings id anchors depth).run s).1 = ⟨none, true, some e.message⟩

section Ends

variable {f : Federation (StateM σ)} {id : String} {anchors : List String} {levels : Nat} {s : σ}

/-- What is reported of a search is its outcome. -/
theorem run_resolve_fst (settings : Settings) (depth : Option Nat)
    (hlevels : depth.getD settings.maxDepth = levels) :
    ((resolve f settings id anchors depth).run s).1 = .ofOutcome (searched f id anchors levels s) := by
  subst hlevels
  simp only [resolve, searched, StateT.run_bind]
  generalize (findChain f id anchors (depth.getD settings.maxDepth)).run s = r
  rfl

/-- A failure is reported exactly when the search fails, with the text of the failure. -/
theorem resolve_reports (settings : Settings) (depth : Option Nat)
    (hlevels : depth.getD settings.maxDepth = levels) :
    (((resolve f settings id anchors depth).run s).1.failed = true ↔
        ∃ e, searched f id anchors levels s = .error e) ∧
      ∀ e, searched f id anchors levels s = .error e →
        ((resolve f settings id anchors depth).run s).1 = ⟨none, true, some e.message⟩ := by
  rw [run_resolve_fst settings depth hlevels]
  refine ⟨failed_ofOutcome, ?_⟩
  intro e he
  rw [he]
  rfl

/-- An entity without a configuration URL. -/
theorem failsByFetch_of_unlocated {cause : StatementError}
    (hlocated : Location.configuration id = .error cause) :
    FailsByFetch f id anchors levels s := by
  have hnil : requests f id anchors levels s = [] :=
    (requests_eq_nil_iff f anchors levels s).mpr ⟨cause, hlocated⟩
  have hfailed : searched f id anchors levels s = .error (.statement cause) := by
    rw [searched, run_findChain_of_error f anchors levels s hlocated]
  refine ⟨requests_eq_nil_iff f anchors levels s, ?_, ?_, ?_, resolve_reports⟩
  · intro e
    simp [hnil, hfailed, hlocated, eq_comm]
  · simp [hnil, answered_nil]
  · simp [hnil]

/-- A search whose requests were all answered. -/
theorem failsByFetch_of_answered {url : String} {found : Option TrustChain}
    (hlocated : Location.configuration id = .ok url)
    (houtcome : searched f id anchors levels s = .ok found)
    (hall : Answered (requests f id anchors levels s)) : FailsByFetch f id anchors levels s := by
  refine ⟨requests_eq_nil_iff f anchors levels s, ?_, ?_, ?_, resolve_reports⟩
  · intro e
    refine iff_of_false (by simp [houtcome]) ?_
    rintro (⟨cause, hcause, -⟩ | ⟨last, hlast⟩)
    · simp [hlocated] at hcause
    · obtain ⟨raw, hraw⟩ := hall _ (List.mem_of_getLast? hlast)
      cases hraw
  · exact fun x hx => hall x (List.dropLast_subset _ hx)
  · exact fun _ _ _ => ⟨found, houtcome⟩

/-- A search whose last request failed. -/
theorem failsByFetch_of_failed {url last : String} {e : FetchError} {past : Past}
    (hlocated : Location.configuration id = .ok url)
    (houtcome : searched f id anchors levels s = .error e) (hpast : Answered past)
    (hrequests : requests f id anchors levels s = past ++ [⟨last, .error e⟩]) :
    FailsByFetch f id anchors levels s := by
  refine ⟨requests_eq_nil_iff f anchors levels s, ?_, ?_, ?_, resolve_reports⟩
  · intro e'
    simp [houtcome, hrequests, hlocated]
  · simpa [hrequests] using hpast
  · simp [hrequests]

end Ends

/-- A search fails with the first request that fails and with nothing else, in every federation and
from every state of it. -/
theorem fails_by_fetch (f : Federation (StateM σ)) (id : String) (anchors : List String)
    (levels : Nat) (s : σ) : FailsByFetch f id anchors levels s := by
  cases hlocated : Location.configuration id with
  | error cause => exact failsByFetch_of_unlocated hlocated
  | ok url =>
      rcases searched_or_failed f anchors levels s hlocated with
        ⟨found, houtcome, hall⟩ | ⟨e, past, last, houtcome, hpast, hrequests⟩
      · exact failsByFetch_of_answered hlocated houtcome hall
      · exact failsByFetch_of_failed hlocated houtcome hpast hrequests

end Discovery
end EntityTrust
