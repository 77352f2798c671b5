import EntityTrust.Store.Basic

/-!
# Shared computations

A caller that wants a value which is not stored has it computed, and callers for a key that is being
computed wait for that computation instead of starting their own.

* `Flights.arrive` lets a caller in: it finds a stored value (`Flights.lookUp`), joins the computation
  registered for its key, or starts and registers a new one (`Flights.enter`).
* `Flights.complete` ends a computation: a success is stored and a failure is not
  (`Flights.settle`), the registration is dropped (`Flights.release`), and the result is kept for the
  callers that wait (`Flights.answer`).
* `Flights.leave` ends a caller.  A computation stays registered when its callers leave, so that the
  next caller for its key joins it.
-/

namespace EntityTrust

/-- What a caller meets. -/
inductive Admission (α : Type)
  | found (value : α)
  | joined (number : Nat)
  | started (number : Nat)
  deriving DecidableEq

/-- A store with its computations: those under way by key, the results of the ended ones, and the
callers that wait, each with the number of its computation. -/
structure Flights (κ α ε : Type) where
  store : Store κ α
  underWay : List (κ × Nat)
  started : Nat
  waiting : List (Nat × Nat)
  results : List (Nat × Except ε α)

namespace Flights

variable {κ α ε : Type}

/-- A store without computations. -/
def ofStore (store : Store κ α) : Flights κ α ε :=
  ⟨store, [], 0, [], []⟩

/-- Ends a caller; results that no other caller waits for are dropped. -/
def leave (f : Flights κ α ε) (caller : Nat) : Flights κ α ε :=
  let waiting := f.waiting.filter fun w => w.1 != caller
  { f with
    waiting := waiting
    results := f.results.filter fun r => waiting.any fun w => w.2 == r.1 }

/-- The result that a waiting caller can take. -/
def result? (f : Flights κ α ε) (caller : Nat) : Option (Except ε α) :=
  (f.waiting.lookup caller).bind fun number => f.results.lookup number

/-- The callers that wait for a computation. -/
def callersOf (f : Flights κ α ε) (number : Nat) : List Nat :=
  (f.waiting.filter fun w => w.2 == number).map Prod.fst

variable [DecidableEq κ]

/-- Looks a key up in the store. -/
def lookUp (f : Flights κ α ε) (key : κ) (now : Nat) : Option α × Flights κ α ε :=
  let (value, store) := f.store.find key now
  (value, { f with store := store })

/-- Lets a caller in that has found no stored value. -/
def enter (f : Flights κ α ε) (caller : Nat) (key : κ) : Admission α × Flights κ α ε :=
  match f.underWay.lookup key with
  | some number =>
      (.joined number, { f with waiting := f.waiting ++ [(caller, number)] })
  | none =>
      (.started f.started,
        { f with
          underWay := (key, f.started) :: f.underWay
          started := f.started + 1
          waiting := f.waiting ++ [(caller, f.started)] })

/-- Lets a caller in. -/
def arrive (f : Flights κ α ε) (caller : Nat) (key : κ) (now : Nat) :
    Admission α × Flights κ α ε :=
  match f.lookUp key now with
  | (some value, f) => (.found value, f)
  | (none, f) => f.enter caller key

/-- The store after a computation of a key. -/
def storeResult (store : Store κ α) (key : κ) (now : Nat) : Except ε α → Store κ α
  | .ok value => store.insert key value now
  | .error _ => store

/-- Stores the result of a computation. -/
def settle (f : Flights κ α ε) (key : κ) (result : Except ε α) (now : Nat) : Flights κ α ε :=
  { f with store := storeResult f.store key now result }

/-- Drops the registration of a key. -/
def release (f : Flights κ α ε) (key : κ) : Flights κ α ε :=
  { f with underWay := f.underWay.filter fun c => c.1 != key }

/-- Keeps the result of a computation for its callers. -/
def answer (f : Flights κ α ε) (number : Nat) (result : Except ε α) : Flights κ α ε :=
  { f with results := (number, result) :: f.results }

/-- Ends a computation. -/
def complete (f : Flights κ α ε) (key : κ) (number : Nat) (result : Except ε α) (now : Nat) :
    Flights κ α ε :=
  ((f.settle key result now).release key).answer number result

/-- Applies a change to the store alone. -/
def onStore (f : Flights κ α ε) (change : Store κ α → Store κ α) : Flights κ α ε :=
  { f with store := change f.store }

end Flights
end EntityTrust
