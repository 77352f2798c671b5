import EntityTrust.Discovery.Search
import EntityTrust.Proofs.Chain.Rules

/-!
# Runs of a search

A search in an outside world whose answers are recorded.

**Worlds.**  The answer to a request may depend on everything that was asked and answered before it,
so the same URL may be answered differently each time, unless the world is `World.fixed`.  The
check of a token under a key is a fixed predicate.

**Runs.**  `Yields x s a t` says that the steps `x`, started at the moment `s`, answer `a` and end
at the moment `t`.  A moment holds the configuration URLs that count as requested and the exchanges
so far.

**Results.**
* `Yields.unique`, `yields_bind`: runs are determined, and runs of steps in a row are runs in a row.
* `World.yields_selfVerified`: a text counts as a configuration exactly when it is self-verified.
* `World.yields_verifiedSubordinate`: a text counts as a statement exactly when it attests.
-/

namespace EntityTrust
namespace Discovery

/-- A URL that was asked for and the answer to it. -/
structure Exchange where
  url : String
  answer : Except FetchError String

/-- Exchanges in the order in which they took place. -/
abbrev Past := List Exchange

/-- An outside world: answers may depend on the past, checks do not. -/
structure World where
  answer : Past → String → Except FetchError String
  accepts : String → Jwk → Bool

/-- The world in which every URL is answered with a fixed text. -/
def World.fixed (pages : String → String) (accepts : String → Jwk → Bool) : World :=
  ⟨fun _ url => .ok (pages url), accepts⟩

/-- The federation of a world, with its exchanges on record. -/
def World.federation (w : World) : Federation (StateM Past) where
  fetch url := fun past => (w.answer past url, past ++ [⟨url, w.answer past url⟩])
  check raw k := pure (w.accepts raw k)

/-- A point of a search. -/
structure Moment where
  visited : List String
  past : Past

namespace Moment

/-- The moment after an answered request. -/
def asked (s : Moment) (url raw : String) : Moment :=
  ⟨s.visited, s.past ++ [⟨url, .ok raw⟩]⟩

/-- The moment at which a configuration URL begins to count as requested. -/
def marked (s : Moment) (url : String) : Moment :=
  ⟨url :: s.visited, s.past⟩

/-- All that counts at one moment still counts at another. -/
structure Before (s t : Moment) : Prop where
  visited : s.visited ⊆ t.visited
  past : s.past <+: t.past

theorem Before.refl (s : Moment) : s.Before s :=
  ⟨fun _ h => h, List.prefix_refl _⟩

theorem Before.trans {s t u : Moment} (h : s.Before t) (h' : t.Before u) : s.Before u :=
  ⟨fun _ hx => h'.visited (h.visited hx), h.past.trans h'.past⟩

theorem before_asked (s : Moment) (url raw : String) : s.Before (s.asked url raw) :=
  ⟨fun _ h => h, List.prefix_append _ _⟩

theorem before_marked (s : Moment) (url : String) : s.Before (s.marked url) :=
  ⟨fun _ h => List.mem_cons_of_mem _ h, List.prefix_refl _⟩

end Moment

/-- Steps of a search in a recorded world. -/
abbrev Steps (α : Type) := Search (StateM Past) α

/-- What steps come to from a moment on. -/
def run {α : Type} (x : Steps α) (s : Moment) : Except FetchError (α × List String) × Past :=
  (x.run s.visited).run.run s.past

/-- Steps from one moment to another with an answer. -/
def Yields {α : Type} (x : Steps α) (s : Moment) (a : α) (t : Moment) : Prop :=
  run x s = (.ok (a, t.visited), t.past)

section Yields

variable {α β : Type} {s t t' : Moment}

theorem Yields.unique {x : Steps α} {a a' : α} (h : Yields x s a t) (h' : Yields x s a' t') :
    a = a' ∧ t = t' := by
  cases t
  cases t'
  unfold Yields at h h'
  rw [h] at h'
  simp only [Prod.mk.injEq, Except.ok.injEq] at h'
  obtain ⟨⟨ha, hv⟩, hp⟩ := h'
  exact ⟨ha, by rw [hv, hp]⟩

theorem yields_iff_of_run {x : Steps α} {a b : α} {visited : List String} {past : Past}
    (h : run x s = (.ok (a, visited), past)) : Yields x s b t ↔ b = a ∧ t = ⟨visited, past⟩ := by
  cases t
  unfold Yields
  rw [h]
  simp only [Prod.mk.injEq, Except.ok.injEq, Moment.mk.injEq]
  constructor
  · rintro ⟨⟨rfl, rfl⟩, rfl⟩
    exact ⟨rfl, rfl, rfl⟩
  · rintro ⟨rfl, rfl, rfl⟩
    exact ⟨⟨rfl, rfl⟩, rfl⟩

theorem yields_pure {a b : α} : Yields (pure a : Steps α) s b t ↔ b = a ∧ t = s :=
  yields_iff_of_run rfl

theorem run_bind (x : Steps α) (f : α → Steps β) (s : Moment) :
    run (x >>= f) s =
      match run x s with
      | (.ok (a, visited), past) => run (f a) ⟨visited, past⟩
      | (.error e, past) => (.error e, past) := by
  rcases hx : run x s with ⟨e | ⟨a, visited⟩, past⟩
  · simp only [run, StateT.run_bind, ExceptT.run_bind] at hx ⊢
    rw [hx]
    rfl
  · simp only [run, StateT.run_bind, ExceptT.run_bind] at hx ⊢
    rw [hx]
    rfl

theorem yields_bind {x : Steps α} {f : α → Steps β} {b : β} :
    Yields (x >>= f) s b t ↔ ∃ a u, Yields x s a u ∧ Yields (f a) u b t := by
  unfold Yields
  rw [run_bind]
  constructor
  · intro h
    split at h
    · rename_i a visited past hx
      exact ⟨a, ⟨visited, past⟩, hx, h⟩
    · simp at h
  · rintro ⟨a, u, hx, hf⟩
    rw [hx]
    exact hf

theorem yields_bind_of_yields {x : Steps α} {f : α → Steps β} {a : α} {b : β} {u : Moment}
    (h : Yields x s a u) : Yields (x >>= f) s b t ↔ Yields (f a) u b t := by
  rw [yields_bind]
  constructor
  · rintro ⟨a', u', h', hrest⟩
    obtain ⟨rfl, rfl⟩ := h.unique h'
    exact hrest
  · intro hrest
    exact ⟨a, u, h, hrest⟩

end Yields

namespace World

variable (w : World)

/-- Whether a token verifies under the key of a set that its header names. -/
abbrev verifies (t : Token) (keys : KeySet) : Bool :=
  TrustChain.verifies w.accepts t keys

/-- A text that is a configuration and verifies under its own keys. -/
structure SelfVerified (raw : String) (v : Verified) : Prop where
  decoded : Token.decode raw = .ok v.token
  read : EntityConfiguration.ofToken v.token = .ok v.configuration
  signed : w.verifies v.token v.configuration.keys = true

/-- A text that is a statement of an authority about a subject, signed with one of the authority's
keys and naming the key of the subject's last statement; `signer` is the key that signed it. -/
structure Attests (raw : String) (authority : EntityConfiguration) (subject keyId signer : String)
    (t : Token) (s : SubordinateStatement) : Prop where
  decoded : Token.decode raw = .ok t
  read : SubordinateStatement.ofToken t = .ok s
  issuer : s.issuer = authority.subject
  subject : s.subject = subject
  signed : w.verifies t authority.keys = true
  attested : ∃ k ∈ s.keys.keys, k.id = some keyId
  signer : t.keyId = some signer

/-- The configuration that a text carries, when it verifies under its own keys. -/
@[irreducible]
def selfVerified? (raw : String) : Option Verified :=
  (readConfiguration raw).filter fun v => w.verifies v.token v.configuration.keys

/-- The key that signed a statement of an authority, when it binds the subject to its key. -/
@[irreducible]
def signer? (raw : String) (authority : EntityConfiguration) (subject keyId : String) :
    Option String :=
  (readSubordinate raw authority.subject subject).bind fun (t, s) =>
    if w.verifies t authority.keys && s.keys.contains keyId then t.keyId else none

variable {w} {s t : Moment}

theorem yields_request {url raw : String} :
    Yields (request w.federation url) s raw t ↔
      w.answer s.past url = .ok raw ∧ t = s.asked url raw := by
  cases ha : w.answer s.past url with
  | error e =>
      have hrun : run (request w.federation url) s = (.error e, s.past ++ [⟨url, .error e⟩]) := by
        simp only [run, request, federation, StateT.run, ExceptT.run, ExceptT.mk, bind,
          StateT.bind, ha]
        rfl
      simp [Yields, hrun]
  | ok raw' =>
      have hrun : run (request w.federation url) s =
          (.ok (raw', s.visited), s.past ++ [⟨url, .ok raw'⟩]) := by
        simp only [run, request, federation, StateT.run, ExceptT.run, ExceptT.mk, bind,
          StateT.bind, ha]
        rfl
      rw [yields_iff_of_run hrun]
      constructor
      · rintro ⟨rfl, rfl⟩
        exact ⟨rfl, rfl⟩
      · rintro ⟨hraw, rfl⟩
        cases hraw
        exact ⟨rfl, rfl⟩

theorem yields_ask {token : Token} {keys : KeySet} {b : Bool} :
    Yields (ask w.federation token keys) s b t ↔ b = w.verifies token keys ∧ t = s := by
  have hpure : ask w.federation token keys = (pure (w.verifies token keys) : Steps Bool) := by
    unfold ask Federation.verifies verifies TrustChain.verifies Signature.verifyWith federation
    cases token.keyId with
    | none => rfl
    | some id => cases hk : keys.find? id <;> simp [hk] <;> rfl
  rw [hpure, yields_pure]

theorem yields_visit {url : String} {b : Bool} :
    Yields (visit url) s b t ↔
      (url ∈ s.visited ∧ b = false ∧ t = s) ∨ (url ∉ s.visited ∧ b = true ∧ t = s.marked url) := by
  by_cases h : url ∈ s.visited
  · have hrun : run (visit url) s = (.ok (false, s.visited), s.past) := by
      simp only [run, visit, StateT.run, List.contains_iff_mem.mpr h, if_true]
      rfl
    rw [yields_iff_of_run hrun]
    simp [h]
  · have hrun : run (visit url) s = (.ok (true, url :: s.visited), s.past) := by
      have : s.visited.contains url = false := by simpa using h
      simp only [run, visit, StateT.run, this]
      rfl
    rw [yields_iff_of_run hrun]
    simp [h, Moment.marked]

theorem readConfiguration_eq_some {raw : String} {v : Verified} :
    readConfiguration raw = some v ↔
      Token.decode raw = .ok v.token ∧ EntityConfiguration.ofToken v.token = .ok v.configuration ∧
        v.configuration.keys.keys ≠ [] := by
  constructor
  · intro h
    unfold readConfiguration at h
    split at h
    · cases h
    · rename_i token hdecoded
      split at h
      · cases h
      · rename_i configuration hread
        split at h
        · cases h
        · rename_i hkeys
          cases h
          exact ⟨hdecoded, hread, by simpa using hkeys⟩
  · rintro ⟨hdecoded, hread, hkeys⟩
    simp [readConfiguration, hdecoded, hread, hkeys]

theorem readSubordinate_eq_some {raw issuer subject : String} {token : Token}
    {st : SubordinateStatement} :
    readSubordinate raw issuer subject = some (token, st) ↔
      Token.decode raw = .ok token ∧ SubordinateStatement.ofToken token = .ok st ∧
        st.issuer = issuer ∧ st.subject = subject := by
  constructor
  · intro h
    unfold readSubordinate at h
    split at h
    · cases h
    · rename_i token hdecoded
      split at h
      · cases h
      · rename_i st hread
        split at h
        · rename_i hnames
          cases h
          exact ⟨hdecoded, hread, hnames⟩
        · cases h
  · rintro ⟨hdecoded, hread, rfl, rfl⟩
    simp [readSubordinate, hdecoded, hread]

/-- A key set under which a token verifies has a key. -/
theorem keys_ne_nil_of_verifies {token : Token} {keys : KeySet}
    (h : w.verifies token keys = true) : keys.keys ≠ [] := by
  obtain ⟨id, k, -, hk, -⟩ := TrustChain.verifies_eq_true.mp h
  intro hnil
  simp [KeySet.find?, hnil] at hk

theorem selfVerified?_eq_some {raw : String} {v : Verified} :
    w.selfVerified? raw = some v ↔ w.SelfVerified raw v := by
  rw [selfVerified?, Option.filter_eq_some_iff, readConfiguration_eq_some]
  constructor
  · rintro ⟨⟨hdecoded, hread, -⟩, hsigned⟩
    exact ⟨hdecoded, hread, hsigned⟩
  · rintro ⟨hdecoded, hread, hsigned⟩
    exact ⟨⟨hdecoded, hread, keys_ne_nil_of_verifies hsigned⟩, hsigned⟩

theorem signer?_eq_some {raw : String} {authority : EntityConfiguration}
    {subject keyId signer : String} :
    w.signer? raw authority subject keyId = some signer ↔
      ∃ t s, w.Attests raw authority subject keyId signer t s := by
  simp only [signer?, Option.bind_eq_some_iff, Prod.exists, readSubordinate_eq_some]
  constructor
  · rintro ⟨t, s, ⟨hdecoded, hread, hissuer, hsubject⟩, hsigner⟩
    split at hsigner
    · rename_i hchecks
      rw [Bool.and_eq_true, KeySet.contains_iff] at hchecks
      exact ⟨t, s, hdecoded, hread, hissuer, hsubject, hchecks.1, hchecks.2, hsigner⟩
    · cases hsigner
  · rintro ⟨t, s, h⟩
    have hattested := KeySet.contains_iff.mpr h.attested
    exact ⟨t, s, ⟨h.decoded, h.read, h.issuer, h.subject⟩, by simp [h.signed, hattested, h.signer]⟩

theorem yields_selfVerified {raw : String} {o : Option Verified} :
    Yields (selfVerified w.federation raw) s o t ↔ o = w.selfVerified? raw ∧ t = s := by
  unfold selfVerified selfVerified?
  cases readConfiguration raw with
  | none => exact yields_pure
  | some v =>
      simp only [yields_bind, yields_ask]
      cases hv : w.verifies v.token v.configuration.keys <;>
        simp [hv, yields_pure, Option.filter]

theorem yields_verifiedSubordinate {raw : String} {authority : EntityConfiguration}
    {subject keyId : String} {o : Option String} :
    Yields (verifiedSubordinate w.federation raw authority subject keyId) s o t ↔
      o = w.signer? raw authority subject keyId ∧ t = s := by
  unfold verifiedSubordinate signer?
  cases readSubordinate raw authority.subject subject with
  | none => exact yields_pure
  | some r =>
      obtain ⟨token, st⟩ := r
      simp only [yields_bind, yields_ask]
      cases hv : w.verifies token authority.keys <;> simp [hv, yields_pure]

end World

end Discovery
end EntityTrust
