import EntityTrust.Fetch.Federation
import EntityTrust.Fetch.Request
import EntityTrust.Store.Flight

/-!
# Fetching clients

A client requests statements over a network and keeps them in a shared store.

* `Client.attempt` makes one request.  A stored statement is answered again when the server reports
  that it has not changed.
* `Client.retry` repeats an attempt that failed in a transient way, with growing delays.
* `Client.get` consults the store as the strategy says; only successes are stored.

The network is given by three capabilities in a monad of the caller's choice: sending, waiting, and
reading a clock.
-/

namespace EntityTrust
namespace Fetch

/-- What a client needs of the world. -/
structure Network (m : Type → Type) where
  send : Request → m (Except TransportError Response)
  wait : Duration → m Unit
  now : m Nat

/-- Fetched statements by URL, with the fetches under way. -/
abbrev Pages := Flights String Fetched FetchError

/-- Computations with a store of statements. -/
abbrev Fetching (m : Type → Type) := StateT Pages m

/-- A client that presents itself by a text that can stand in a header. -/
structure Client (m : Type → Type) where
  settings : Settings
  network : Network m

namespace Client

/-- The client with the given settings. -/
def ofSettings {m : Type → Type} (s : Settings) (n : Network m) : Except FetchError (Client m) :=
  if isHeaderValue s.userAgent then .ok ⟨s, n⟩
  else .error (.configuration TransportError.invalidHeader.message)

/-- What a response says about the statement at a URL. -/
def interpret (url : String) (previous : Option Fetched) (r : Response) :
    Except FetchError Fetched :=
  if r.status = 304 then
    match previous with
    | some stored => .ok stored
    | none => .error (.unexpectedStatus r.status url)
  else if r.isSuccess then r.statement.mapError fun e => .transport e.message
  else .error (.unexpectedStatus r.status url)

variable {m : Type → Type} [Monad m] (c : Client m)

/-- Makes one request. -/
def attempt (url : String) (previous : Option Fetched) : m (Except FetchError Fetched) :=
  match Request.build c.settings url previous with
  | .error e => pure (.error (.transport e.message))
  | .ok request => do
      match ← c.network.send request with
      | .error e => pure (.error (.transport e.message))
      | .ok response => pure (interpret url previous response)

/-- Repeats an attempt after transient failures; `made` counts the attempts with the next one and
`left` those that may still follow it. -/
def retry {α : Type} (once : m (Except FetchError α)) (made : Nat) :
    (left : Nat) → m (Except FetchError α)
  | 0 => once
  | left + 1 => do
      match ← once with
      | .ok a => pure (.ok a)
      | .error e =>
          if e.isTransient then do
            c.network.wait (c.settings.backoff made)
            retry once (made + 1) left
          else pure (.error e)

/-- Requests the statement at a URL, repeatedly if need be. -/
def request (url : String) (previous : Option Fetched) : m (Except FetchError Fetched) :=
  c.retry (c.attempt url previous) 1 (c.settings.attempts - 1)

/-- Reads the clock. -/
def now : Fetching m Nat :=
  fun pages => do pure (← c.network.now, pages)

/-- Requests without touching the store. -/
def remote (url : String) (previous : Option Fetched) : Fetching m (Except FetchError Fetched) :=
  fun pages => do pure (← c.request url previous, pages)

/-- The stored statement of a URL. -/
def stored (url : String) : Fetching m (Option Fetched) := do
  let now ← c.now
  let pages ← get
  let (found, store) := pages.store.find url now
  set { pages with store := store }
  pure found

/-- Puts a statement into the store. -/
def keep (url : String) (statement : Fetched) : Fetching m Unit := do
  let now ← c.now
  modify fun pages => pages.onStore fun s => s.insert url statement now

/-- Requests a statement again and refreshes the store. -/
def refresh (url : String) : Fetching m (Except FetchError Fetched) := do
  let previous ← if c.settings.validate then c.stored url else pure none
  match ← c.remote url previous with
  | .ok fresh => do
      c.keep url fresh
      pure (.ok fresh)
  | .error e => pure (.error e)

/-- The stored statement of a URL, or else the requested one. -/
def findOrRequest (url : String) : Fetching m (Except FetchError Fetched) := do
  let now ← c.now
  let (admission, pages) := (← get).arrive 0 url now
  set pages
  match admission with
  | .found statement => pure (.ok statement)
  | .joined number | .started number => do
      let result ← c.remote url none
      let later ← c.now
      modify fun pages => (pages.complete url number result later).leave 0
      pure result

/-- The text of the statement at a URL. -/
def get (url : String) (strategy : Strategy) : Fetching m (Except FetchError String) := do
  let statement ←
    match strategy with
    | .cacheOnly => do
        match ← c.stored url with
        | some s => pure (.ok s)
        | none => pure (.error .notCached)
    | .forceRemote => c.refresh url
    | .cacheFirst => c.findOrRequest url
  pure (statement.map Fetched.body)

/-- The federation that a client sees, with a verifier for signatures. -/
def federation (check : Verifier m) : Federation (Fetching m) where
  fetch url := c.get url .cacheFirst
  check raw key := fun pages => do pure (← check raw key, pages)

end Client
end Fetch
end EntityTrust
