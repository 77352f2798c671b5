import EntityTrust.Proofs.Fetch.Script
import EntityTrust.Proofs.Store.Coherence

/-!
# Clients that share a store

Any number of calls of any clients go on at once over one store, which callers also write, sweep and
change by themselves.

**Parties.**  A call that consults the store first is a caller of the shared computations
(`Traffic`); the computation that it starts fetches the statement, and moves only when a caller that
waits for it is resumed.  Any other call fetches by itself.  So a party that fetches is a
computation or a call, and what is left of its fetch is a script.

**Steps.**  A step is one access of one party, or one step of the callers and computations.  Answers
of the network, instants and settings of clients are arbitrary, and each call has a client of its
own.  A call that is given up makes no more steps.

**Records.**  The log holds the requests sent, the answers to them, and what callers put into the
store.  A course keeps what its fetch found in the store, requested last and was answered last.
-/

namespace EntityTrust
namespace Fetch

/-- What is recorded of a run. -/
inductive Record
  | sent (url : String) (request : Request)
  | answered (url : String) (request : Request) (answer : Answer)
  | put (url : String) (statement : Fetched)

/-- A fetch on its way. -/
structure Course where
  strategy : Strategy
  url : String
  known : Option Fetched
  asked : Option Request
  last : Option Answer
  rest : Script (Except FetchError Fetched)

/-- Who fetches: a computation that callers share, or a call by itself. -/
inductive Party
  | shared (number : Nat)
  | alone (call : Nat)
  deriving DecidableEq

/-- Clients that share a store: its callers and computations, the fetches, and the records. -/
structure Clients where
  traffic : Traffic String Fetched FetchError
  course : Party → Option Course
  log : List Record

namespace Access

/-- What the world can answer to an access: what is stored, and anything to a request. -/
def Answers (store : Store String Fetched) (asked : Option Request) : (a : Access) → a.Result → Prop
  | find url now, found => found = (store.find url now).1
  | receive, _ => asked.isSome
  | send _, _ | wait _, _ | clock, _ | insert _ _ _, _ => True

/-- The last request after an access. -/
def asked (asked : Option Request) : Access → Option Request
  | send r => some r
  | receive | wait _ | clock | find _ _ | insert _ _ _ => asked

/-- What is recorded of an access. -/
def records (url : String) (asked : Option Request) : (a : Access) → a.Result → List Record
  | send r, _ => [.sent url r]
  | receive, answer => asked.toList.map fun r => .answered url r answer
  | wait _, _ | clock, _ | find _ _, _ | insert _ _ _, _ => []

/-- The store after an access. -/
def apply (a : Access) (store : Store String Fetched) : Store String Fetched :=
  match a.operation? with
  | some op => op.apply store
  | none => store

variable {a : Access} {x : a.Result} {u url : String} {asked : Option Request} {r : Request}

theorem sent_mem_records : .sent url r ∈ a.records u asked x ↔ a = .send r ∧ u = url := by
  cases a <;> simp [records, eq_comm, and_comm]

theorem asked_of_answered {answer : Answer} (h : .answered url r answer ∈ a.records u asked x) :
    asked = some r ∧ u = url := by
  cases a with
  | receive =>
      obtain ⟨r', hr', heq⟩ := List.mem_map.mp h
      cases heq
      exact ⟨by simpa using hr', rfl⟩
  | send r' => cases List.mem_singleton.mp h
  | _ => cases h

theorem entry_of_apply {store : Store String Fetched} (a : Access)
    {e : Store.Entry String Fetched} (he : e ∈ (a.apply store).entries) :
    (∃ d ∈ store.entries, d.key = e.key ∧ d.value = e.value) ∨
      ∃ now, a = .insert e.key e.value now := by
  cases a with
  | find url now =>
      rcases (Operation.find url now).entry_of_apply he with hold | ⟨now, ⟨⟩⟩
      exact .inl hold
  | insert url f now =>
      rcases (Operation.insert url f now).entry_of_apply he with hold | ⟨now, heq⟩
      · exact .inl hold
      · cases heq
        exact .inr ⟨now, rfl⟩
  | _ => exact .inl ⟨e, he, rfl, rfl⟩

end Access

/-- What is recorded of an operation of a caller. -/
def puts : Operation String Fetched → List Record
  | .insert url f _ => [.put url f]
  | .find _ _ | .remove _ | .evictExpired _ | .clear | .trim _ | .resize _ => []

namespace Course

/-- A fetch that begins. -/
def start (s : Settings) (url : String) (strategy : Strategy) : Course :=
  ⟨strategy, url, none, none, none, plan s url strategy⟩

/-- A fetch after an access. -/
def after (c : Course) (a : Access) (next : a.Result → Script (Except FetchError Fetched))
    (x : a.Result) : Course :=
  { c with
    known := a.known c.known x
    asked := a.asked c.asked
    last := a.last c.last x
    rest := next x }

@[simp] theorem url_after (c : Course) (a : Access)
    (next : a.Result → Script (Except FetchError Fetched)) (x : a.Result) :
    (c.after a next x).url = c.url :=
  rfl

end Course

/-- A step of callers and computations that neither starts, advances nor ends a fetch. -/
def Aside : Event String Fetched FetchError → Prop
  | .look _ _ _ | .release _ | .answer _ | .receive _ | .cancel _ => True
  | .enter _ | .resume _ | .settle _ _ _ | .operate _ => False

namespace Clients

/-- The store. -/
def store (s : Clients) : Store String Fetched :=
  s.traffic.flights.store

/-- A store that no call has come to. -/
def ofStore (store : Store String Fetched) : Clients :=
  ⟨.ofStore store, fun _ => none, []⟩

/-- Changes the store. -/
def onStore (s : Clients) (change : Store String Fetched → Store String Fetched) :
    Traffic String Fetched FetchError :=
  { s.traffic with flights := s.traffic.flights.onStore change }

/-- A party can go on: a computation has a caller that waits for it. -/
def Resumed (s : Clients) : Party → Prop
  | .shared number => ∃ caller url,
      s.traffic.caller caller = .waiting url number ∧ s.traffic.stage number = .computing url
  | .alone _ => True

/-- A party has an access to make, and the world an answer to it. -/
structure Makes (s : Clients) (party : Party) (c : Course) (a : Access)
    (next : a.Result → Script (Except FetchError Fetched)) (x : a.Result) : Prop where
  course : s.course party = some c
  rest : c.rest = .access a next
  answers : a.Answers s.store c.asked x

/-- One step. -/
inductive Step : Clients → Clients → Prop
  /-- A caller looks its URL up, takes an answer or leaves, or an ended computation goes on. -/
  | aside {s : Clients} {e : Event String Fetched FetchError}
      {t : Traffic String Fetched FetchError} (event : Aside e)
      (step : Traffic.Step s.traffic e t) : Step s { s with traffic := t }
  /-- A caller joins the computation of its URL. -/
  | joined {s : Clients} {caller number : Nat} {url : String}
      {t : Traffic String Fetched FetchError} (looked : s.traffic.caller caller = .looked url)
      (admitted : (s.traffic.flights.enter caller url).1 = .joined number)
      (step : Traffic.Step s.traffic (.enter caller) t) : Step s { s with traffic := t }
  /-- A caller starts the computation of its URL. -/
  | started {s : Clients} {caller number : Nat} {url : String}
      {t : Traffic String Fetched FetchError} (settings : Settings)
      (looked : s.traffic.caller caller = .looked url)
      (admitted : (s.traffic.flights.enter caller url).1 = .started number)
      (step : Traffic.Step s.traffic (.enter caller) t) :
      Step s { s with
        traffic := t
        course := Function.update s.course (.shared number)
          (some (.start settings url .cacheFirst)) }
  /-- A computation whose fetch is done stores its success. -/
  | settled {s : Clients} {caller number now : Nat} {url : String} {c : Course}
      {result : Except FetchError Fetched} {t : Traffic String Fetched FetchError}
      (waiting : s.traffic.caller caller = .waiting url number)
      (course : s.course (.shared number) = some c) (done : c.rest = .done result)
      (step : Traffic.Step s.traffic (.settle caller result now) t) : Step s { s with traffic := t }
  /-- A call that fetches by itself begins. -/
  | called {s : Clients} {call : Nat} (settings : Settings) (url : String) {strategy : Strategy}
      (absent : s.course (.alone call) = none) (direct : strategy ≠ .cacheFirst) :
      Step s { s with
        course := Function.update s.course (.alone call) (some (.start settings url strategy)) }
  /-- A party makes the next access of its fetch. -/
  | moved {s : Clients} {party : Party} {c : Course} {a : Access}
      {next : a.Result → Script (Except FetchError Fetched)} {x : a.Result}
      (resumed : s.Resumed party) (makes : s.Makes party c a next x) :
      Step s {
        traffic := s.onStore a.apply
        course := Function.update s.course party (some (c.after a next x))
        log := s.log ++ a.records c.url c.asked x }
  /-- A caller changes the store by itself. -/
  | operated (s : Clients) (op : Operation String Fetched) :
      Step s { s with traffic := s.onStore op.apply, log := s.log ++ puts op }

/-- A call for a URL has returned a text. -/
inductive Returns (s : Clients) : String → String → Prop
  /-- The text was stored. -/
  | served {caller : Nat} {url : String} {f : Fetched}
      (served : s.traffic.caller caller = .served url f) : Returns s url f.body
  /-- The text comes from a computation that the call has waited for. -/
  | received {caller number : Nat} {url : String} {f : Fetched}
      (received : s.traffic.caller caller = .received url number (.ok f)) : Returns s url f.body
  /-- The call has fetched by itself. -/
  | fetched {call : Nat} {c : Course} {f : Fetched} (course : s.course (.alone call) = some c)
      (done : c.rest = .done (.ok f)) : Returns s c.url f.body

/-- A run. -/
def Leads : Clients → Clients → Prop :=
  Relation.ReflTransGen Step

section Steps

variable {s t : Clients}

theorem Leads.trans {u : Clients} (h : Leads s t) (h' : Leads t u) : Leads s u :=
  Relation.ReflTransGen.trans h h'

theorem Leads.aside (h : Leads s t) {e : Event String Fetched FetchError}
    {u : Traffic String Fetched FetchError} (event : Aside e) (step : Traffic.Step t.traffic e u) :
    Leads s { t with traffic := u } :=
  .tail h (.aside event step)

/-- A step is a step of the callers and computations, or leaves them. -/
theorem Step.traffic (h : Step s t) : Traffic.Leads s.traffic t.traffic := by
  have one : ∀ {e u}, Traffic.Step s.traffic e u → Traffic.Leads s.traffic u :=
    fun hstep => (Traffic.Leads.refl _).step hstep
  cases h with
  | aside event step => exact one step
  | joined looked admitted step => exact one step
  | started settings looked admitted step => exact one step
  | settled waiting course done step => exact one step
  | called => exact .refl _
  | @moved party c a next x resumed makes =>
      cases hop : a.operation? with
      | none =>
          have hsame : a.apply = id := funext fun store => by simp [Access.apply, hop]
          rw [hsame]
          exact .refl _
      | some op =>
          have hop : a.apply = op.apply := funext fun store => by simp [Access.apply, hop]
          rw [hop]
          exact one (.operated s.traffic op)
  | operated op => exact one (.operated s.traffic op)

/-- Records stay. -/
theorem Step.log_subset (h : Step s t) : s.log ⊆ t.log := by
  cases h with
  | moved | operated => exact List.subset_append_left _ _
  | _ => exact List.Subset.refl _

/-- All that a step records: what a caller puts, or an access. -/
theorem Step.record (h : Step s t) {r : Record} (hr : r ∈ t.log) :
    r ∈ s.log ∨ (∃ url f, r = .put url f) ∨
      ∃ party c a next x, s.Makes party c a next x ∧ r ∈ a.records c.url c.asked x := by
  cases h with
  | moved resumed makes =>
      rcases List.mem_append.mp hr with hr | hr
      · exact .inl hr
      · exact .inr (.inr ⟨_, _, _, _, _, makes, hr⟩)
  | operated op =>
      rcases List.mem_append.mp hr with hr | hr
      · exact .inl hr
      · cases op with
        | insert url f now => exact .inr (.inl ⟨url, f, List.mem_singleton.mp hr⟩)
        | _ => cases hr
  | _ => exact .inl hr

/-- All that a step does to fetches: one begins, or makes an access. -/
theorem Step.fetch (h : Step s t) {party : Party} {c : Course} (hc : t.course party = some c) :
    s.course party = some c ∨ (∃ settings url strategy, c = .start settings url strategy) ∨
      ∃ d a next x, s.Makes party d a next x ∧ c = d.after a next x ∧
        t.log = s.log ++ a.records d.url d.asked x := by
  have updated : ∀ {q d}, Function.update s.course q (some d) party = some c →
      s.course party = some c ∨ party = q ∧ c = d := by
    intro q d hupdate
    by_cases hq : party = q
    · subst hq
      exact .inr ⟨rfl, by simpa [eq_comm] using hupdate⟩
    · exact .inl (by simpa [hq] using hupdate)
  cases h with
  | aside | joined | settled | operated => exact .inl hc
  | started settings =>
      rcases updated hc with hold | ⟨-, rfl⟩
      · exact .inl hold
      · exact .inr (.inl ⟨_, _, _, rfl⟩)
  | called settings url =>
      rcases updated hc with hold | ⟨-, rfl⟩
      · exact .inl hold
      · exact .inr (.inl ⟨_, _, _, rfl⟩)
  | moved resumed makes =>
      rcases updated hc with hold | ⟨rfl, rfl⟩
      · exact .inl hold
      · exact .inr (.inr ⟨_, _, _, _, makes, rfl, rfl⟩)

theorem Leads.log_subset (h : Leads s t) : s.log ⊆ t.log := by
  induction h with
  | refl => exact List.Subset.refl _
  | tail _ hlast ih => exact List.Subset.trans ih hlast.log_subset

theorem Leads.traffic (h : Leads s t) : Traffic.Leads s.traffic t.traffic := by
  induction h with
  | refl => exact .refl _
  | tail _ hlast ih => exact ih.trans hlast.traffic

end Steps

end Clients
end Fetch
end EntityTrust
