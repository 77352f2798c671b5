import EntityTrust.Fetch.Client
import EntityTrust.Proofs.Store.Traffic

/-!
# Fetches as scripts

A fetch that may be interrupted between any two of its accesses to the world is what is left of it:
a tree of accesses that branches on what each one answers.

**Accesses.**  A script sends a request, receives the answer to the last one, waits, reads the
clock, looks a URL up, or writes a statement.  The network of scripts (`Script.network`) makes each
capability an access, except that a request and its answer are two, so that anything may happen in
between.

**Plans.**  `plan` is what a call does by itself.  Without interruptions a script acts on the store
as `Script.fetching` says, and then the plan of a call is the call: `get_of_direct` for those that
fetch by themselves, and `fetching_request` for the computation that the others share.

**Justification.**  `Comes` says where a statement comes from that a call answers or writes: from
the last answer it received, or, if there was none, from the store.  `Script.Meets` demands this of
all that a script may still do, and of its requests that they are built from what it found in the
store.  `meets_plan` shows it of plans.
-/

namespace EntityTrust
namespace Fetch

/-- The answer to a request. -/
abbrev Answer := Except TransportError Response

/-- A single access of a fetch to the world. -/
inductive Access
  | send (request : Request)
  | receive
  | wait (delay : Duration)
  | clock
  | find (url : String) (instant : Nat)
  | insert (url : String) (statement : Fetched) (instant : Nat)

namespace Access

/-- What an access answers. -/
abbrev Result : Access → Type
  | send _ | wait _ | insert _ _ _ => Unit
  | receive => Answer
  | clock => Nat
  | find _ _ => Option Fetched

/-- What an access does to the store. -/
def operation? : Access → Option (Operation String Fetched)
  | find url now => some (.find url now)
  | insert url statement now => some (.insert url statement now)
  | send _ | receive | wait _ | clock => none

end Access

/-- What is left of a fetch. -/
inductive Script (β : Type)
  | done (result : β)
  | access (a : Access) (next : a.Result → Script β)

namespace Script

variable {β γ : Type}

/-- One script after another. -/
def bind : Script β → (β → Script γ) → Script γ
  | done b, f => f b
  | access a next, f => access a fun x => (next x).bind f

instance : Monad Script where
  pure := done
  bind := bind

theorem bind_done (x : Script β) : x.bind done = x := by
  induction x with
  | done b => rfl
  | access a next ih => exact congrArg (access a) (funext ih)

theorem bind_assoc {δ : Type} (x : Script β) (f : β → Script γ) (g : γ → Script δ) :
    (x.bind f).bind g = x.bind fun b => (f b).bind g := by
  induction x with
  | done b => rfl
  | access a next ih => exact congrArg (access a) (funext ih)

instance : LawfulMonad Script :=
  .mk' Script bind_done (fun _ _ => rfl) bind_assoc

/-- Each capability is an access; a request and its answer are two. -/
def network : Network Script where
  send r := access (.send r) fun _ => access .receive done
  wait d := access (.wait d) done
  now := access .clock done

/-- Looks a URL up. -/
def lookUp (url : String) : Script (Option Fetched) :=
  access .clock fun now => access (.find url now) done

/-- Writes a statement. -/
def write (url : String) (statement : Fetched) : Script Unit :=
  access .clock fun now => access (.insert url statement now) done

/-- What a script does with a store when nothing else does. -/
def fetching : Script β → Fetching Script β
  | done b, pages => done (b, pages)
  | access (.find url now) next, pages =>
      (next (pages.store.find url now).1).fetching
        { pages with store := (pages.store.find url now).2 }
  | access (.insert url statement now) next, pages =>
      (next ()).fetching (pages.onStore fun s => s.insert url statement now)
  | access (.send r) next, pages => access (.send r) fun x => (next x).fetching pages
  | access .receive next, pages => access .receive fun x => (next x).fetching pages
  | access (.wait d) next, pages => access (.wait d) fun x => (next x).fetching pages
  | access .clock next, pages => access .clock fun x => (next x).fetching pages

/-- A script leaves the store alone. -/
def Remote : Script β → Prop
  | done _ => True
  | access a next => a.operation? = none ∧ ∀ x, (next x).Remote

/-- A script sends no request. -/
def Silent : Script β → Prop
  | done _ => True
  | access a next => (∀ r, a ≠ .send r) ∧ ∀ x, (next x).Silent

theorem remote_bind {x : Script β} {f : β → Script γ} (hx : x.Remote) (hf : ∀ b, (f b).Remote) :
    (x >>= f).Remote := by
  induction x with
  | done b => exact hf b
  | access a next ih => exact ⟨hx.1, fun x => ih x (hx.2 x)⟩

theorem silent_bind {x : Script β} {f : β → Script γ} (hx : x.Silent) (hf : ∀ b, (f b).Silent) :
    (x >>= f).Silent := by
  induction x with
  | done b => exact hf b
  | access a next ih => exact ⟨hx.1, fun x => ih x (hx.2 x)⟩

theorem silent_lookUp (url : String) : (lookUp url).Silent :=
  ⟨by simp, fun _ => ⟨by simp, fun _ => trivial⟩⟩

theorem Silent.fetching {x : Script β} (h : x.Silent) (pages : Pages) :
    (x.fetching pages).Silent := by
  induction x generalizing pages with
  | done b => trivial
  | access a next ih =>
      cases a with
      | find url now => exact ih _ (h.2 _) _
      | insert url statement now => exact ih _ (h.2 _) _
      | _ => exact ⟨h.1, fun x => ih x (h.2 x) pages⟩

theorem fetching_bind (x : Script β) (f : β → Script γ) :
    (x >>= f).fetching = x.fetching >>= fun b => (f b).fetching := by
  induction x with
  | done b => rfl
  | access a next ih =>
      refine funext fun pages => ?_
      cases a with
      | find url now => exact congrFun (ih _) _
      | insert url statement now => exact congrFun (ih _) _
      | _ => exact congrArg (access _) (funext fun x => congrFun (ih x) pages)

theorem fetching_of_remote {x : Script β} (h : x.Remote) (pages : Pages) :
    x.fetching pages = x >>= fun b => pure (b, pages) := by
  induction x with
  | done b => rfl
  | access a next ih =>
      cases a with
      | find | insert => cases h.1
      | _ => exact congrArg (access _) (funext fun x => ih x (h.2 x))

end Script

/-- The client with the given settings over scripts. -/
def scripted (s : Settings) : Client Script :=
  ⟨s, Script.network⟩

section Plans

variable (s : Settings) (url : String)

/-- Answers what is stored. -/
def answerStored : Script (Except FetchError Fetched) := do
  match ← Script.lookUp url with
  | some f => pure (.ok f)
  | none => pure (.error .notCached)

/-- Requests a statement and writes it. -/
def requestAndWrite (previous : Option Fetched) : Script (Except FetchError Fetched) := do
  match ← (scripted s).request url previous with
  | .ok fresh => do
      Script.write url fresh
      pure (.ok fresh)
  | .error e => pure (.error e)

/-- What a call does by itself; for one that shares its computation, what that does. -/
def plan : Strategy → Script (Except FetchError Fetched)
  | .cacheOnly => answerStored url
  | .forceRemote =>
      if s.validate then Script.lookUp url >>= requestAndWrite s url else requestAndWrite s url none
  | .cacheFirst => (scripted s).request url none

variable (previous : Option Fetched)

theorem remote_attempt : ((scripted s).attempt url previous).Remote := by
  unfold Client.attempt
  split
  · trivial
  · refine Script.remote_bind ⟨rfl, fun _ => ⟨rfl, fun _ => trivial⟩⟩ ?_
    rintro (e | response) <;> trivial

theorem remote_retry (left made : Nat) :
    ((scripted s).retry ((scripted s).attempt url previous) made left).Remote := by
  induction left generalizing made with
  | zero => exact remote_attempt s url previous
  | succ left ih =>
      refine Script.remote_bind (remote_attempt s url previous) ?_
      rintro (e | f)
      · dsimp only
        split
        · exact ⟨rfl, fun _ => ih (made + 1)⟩
        · trivial
      · trivial

/-- A request that is not interrupted. -/
theorem fetching_request :
    ((scripted s).request url previous).fetching = (scripted s).remote url previous :=
  funext (Script.fetching_of_remote (remote_retry s url previous _ 1))

theorem fetching_answerStored :
    (answerStored url).fetching = (do
      match ← (scripted s).stored url with
      | some f => pure (.ok f)
      | none => pure (.error .notCached)) := by
  rw [answerStored, Script.fetching_bind]
  refine congrArg _ (funext ?_)
  rintro (_ | f) <;> rfl

theorem fetching_requestAndWrite :
    (requestAndWrite s url previous).fetching = (do
      match ← (scripted s).remote url previous with
      | .ok fresh => do
          (scripted s).keep url fresh
          pure (.ok fresh)
      | .error e => pure (.error e)) := by
  rw [requestAndWrite, Script.fetching_bind, fetching_request]
  refine congrArg _ (funext ?_)
  rintro (e | fresh) <;> rfl

theorem fetching_forceRemote : (plan s url .forceRemote).fetching = (scripted s).refresh url := by
  have hrest := funext (fetching_requestAndWrite s url)
  rw [plan, Client.refresh]
  change _ = if s.validate then _ else _
  split
  · rw [Script.fetching_bind]
    exact congrArg _ hrest
  · exact congrFun hrest none

/-- A call that fetches by itself is its plan without interruptions. -/
theorem get_of_direct {strategy : Strategy} (h : strategy ≠ .cacheFirst) :
    (scripted s).get url strategy = (·.map Fetched.body) <$> (plan s url strategy).fetching := by
  cases strategy with
  | cacheOnly =>
      rw [plan, fetching_answerStored s, map_bind]
      refine congrArg ((scripted s).stored url >>= ·) (funext ?_)
      rintro (_ | f) <;> rfl
  | forceRemote =>
      rw [fetching_forceRemote]
      rfl
  | cacheFirst => exact absurd rfl h

theorem findOrRequest_eq (pages : Pages) :
    (scripted s).findOrRequest url pages = .access .clock fun now =>
      (match (pages.arrive 0 url now).1 with
        | .found f => (pure (.ok f) : Fetching Script (Except FetchError Fetched))
        | .joined n | .started n => do
            let result ← (scripted s).remote url none
            let later ← (scripted s).now
            modify fun pages : Pages => (pages.complete url n result later).leave 0
            pure result) (pages.arrive 0 url now).2 := rfl

/-- A call that shares its computation, when nothing else uses the store. -/
theorem get_cacheFirst (pages : Pages) :
    (scripted s).get url .cacheFirst pages = .access .clock fun now =>
      match pages.arrive 0 url now with
      | (.found f, pages) => .done (.ok f.body, pages)
      | (.joined n, pages) | (.started n, pages) =>
          (scripted s).request url none >>= fun result => .access .clock fun later =>
            .done (result.map Fetched.body, (pages.complete url n result later).leave 0) := by
  have hget : (scripted s).get url .cacheFirst pages =
      (scripted s).findOrRequest url pages >>= fun x => pure (x.1.map Fetched.body, x.2) := rfl
  rw [hget, findOrRequest_eq]
  refine congrArg (Script.access .clock) (funext fun (now : Nat) => ?_)
  dsimp only
  generalize pages.arrive 0 url now = arrived
  rcases arrived with ⟨f | n | n, pages'⟩
  · rfl
  · exact (Script.bind_assoc _ _ _).trans (Script.bind_assoc _ _ _)
  · exact (Script.bind_assoc _ _ _).trans (Script.bind_assoc _ _ _)

theorem silent_cacheOnly : (plan s url .cacheOnly).Silent := by
  refine Script.silent_bind (Script.silent_lookUp url) ?_
  rintro (_ | f) <;> trivial

/-- A call that only consults the store sends no request. -/
theorem silent_get (pages : Pages) : ((scripted s).get url .cacheOnly pages).Silent := by
  have direct : Strategy.cacheOnly ≠ .cacheFirst := by decide
  rw [get_of_direct s url direct]
  exact Script.silent_bind ((silent_cacheOnly s url).fetching pages) fun _ => trivial

end Plans

/-- A statement comes from the last answer to a request for a URL, or without an answer from what
was found in the store. -/
def Comes (url : String) (known : Option Fetched) : Option Answer → Fetched → Prop
  | none, f => known = some f
  | some (.error _), _ => False
  | some (.ok response), f => Client.interpret url known response = .ok f

/-- A result is a failure, or a statement that comes from the last answer or from the store. -/
def Justified (url : String) (known : Option Fetched) (last : Option Answer)
    (result : Except FetchError Fetched) : Prop :=
  ∀ f, result = .ok f → Comes url known last f

theorem justified_error {url : String} {known : Option Fetched} {last : Option Answer}
    (e : FetchError) : Justified url known last (.error e) :=
  nofun

namespace Access

/-- An access is about a URL, requests with the validators of what was found, and writes what comes
from there. -/
def Proper (url : String) (known : Option Fetched) (last : Option Answer) : Access → Prop
  | send r => ∃ s, Request.build s url known = .ok r
  | find u _ => u = url
  | insert u f _ => u = url ∧ Comes url known last f
  | receive | wait _ | clock => True

/-- What was found in the store after an access. -/
def known (known : Option Fetched) : (a : Access) → a.Result → Option Fetched
  | find _ _, found => found
  | send _, _ | receive, _ | wait _, _ | clock, _ | insert _ _ _, _ => known

/-- What was answered last after an access. -/
def last (last : Option Answer) : (a : Access) → a.Result → Option Answer
  | receive, answer => some answer
  | send _, _ | wait _, _ | clock, _ | find _ _, _ | insert _ _ _, _ => last

end Access

namespace Script

variable {β γ : Type} {url : String} {known : Option Fetched} {last : Option Answer}

/-- All accesses that a script may still make are proper, and its result is as demanded. -/
def Meets (url : String) (post : Option Fetched → Option Answer → β → Prop) :
    Option Fetched → Option Answer → Script β → Prop
  | known, last, done b => post known last b
  | known, last, access a next =>
      a.Proper url known last ∧ ∀ x, (next x).Meets url post (a.known known x) (a.last last x)

theorem meets_bind {post : Option Fetched → Option Answer → γ → Prop} {x : Script β}
    {f : β → Script γ}
    (h : x.Meets url (fun known last b => (f b).Meets url post known last) known last) :
    (x >>= f).Meets url post known last := by
  induction x generalizing known last with
  | done b => exact h
  | access a next ih => exact ⟨h.1, fun x => ih x (h.2 x)⟩

theorem Meets.mono {post post' : Option Fetched → Option Answer → β → Prop} {x : Script β}
    (h : x.Meets url post known last)
    (weaker : ∀ {known last b}, post known last b → post' known last b) :
    x.Meets url post' known last := by
  induction x generalizing known last with
  | done b => exact weaker h
  | access a next ih => exact ⟨h.1, fun x => ih x (h.2 x)⟩

end Script

section Plans

variable (s : Settings) (url : String) (known : Option Fetched) (last : Option Answer)

theorem meets_attempt :
    ((scripted s).attempt url known).Meets url
      (fun known' last result => known' = known ∧ Justified url known last result) known last := by
  unfold Client.attempt
  split
  · exact ⟨rfl, justified_error _⟩
  · next r hbuild =>
      refine ⟨⟨s, hbuild⟩, fun _ => ⟨trivial, ?_⟩⟩
      rintro (e | response)
      · exact ⟨rfl, justified_error _⟩
      · exact ⟨rfl, fun f hf => hf⟩

theorem meets_retry (left made : Nat) :
    ((scripted s).retry ((scripted s).attempt url known) made left).Meets url
      (fun known' last result => known' = known ∧ Justified url known last result) known last := by
  induction left generalizing made last with
  | zero => exact meets_attempt s url known last
  | succ left ih =>
      refine Script.meets_bind ((meets_attempt s url known last).mono ?_)
      rintro known' last' (e | f) ⟨rfl, hresult⟩
      · dsimp only
        split
        · exact ⟨trivial, fun _ => ih last' (made + 1)⟩
        · exact ⟨rfl, justified_error e⟩
      · exact ⟨rfl, hresult⟩

theorem meets_requestAndWrite :
    (requestAndWrite s url known).Meets url (Justified url) known last := by
  refine Script.meets_bind ((meets_retry s url known last _ 1).mono ?_)
  rintro known' last' (e | f) ⟨rfl, hresult⟩
  · exact justified_error e
  · exact ⟨trivial, fun _ => ⟨⟨rfl, hresult f rfl⟩, fun _ => hresult⟩⟩

/-- Whatever a plan answers or writes is justified. -/
theorem meets_plan (strategy : Strategy) :
    (plan s url strategy).Meets url (Justified url) none none := by
  cases strategy with
  | cacheOnly =>
      refine ⟨trivial, fun _ => ⟨rfl, ?_⟩⟩
      rintro (_ | f)
      · exact justified_error _
      · rintro f ⟨⟩
        rfl
  | forceRemote =>
      rw [plan]
      split
      · exact ⟨trivial, fun _ => ⟨rfl, fun found => meets_requestAndWrite s url found none⟩⟩
      · exact meets_requestAndWrite s url none none
  | cacheFirst =>
      refine (meets_retry s url none none _ 1).mono ?_
      rintro known last result ⟨rfl, hresult⟩
      exact hresult

end Plans

end Fetch
end EntityTrust
