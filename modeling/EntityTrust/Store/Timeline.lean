import EntityTrust.Store.Flight

/-!
# Timelines

Tasks that use a shared store at set instants, on a clock that moves only when every task waits.

**Input.**  Tasks, each with the time after which it starts and one action on the store.  A
computation takes a set time from the instant at which it was started and then gives its result to
the first of its callers that looks; a caller may have a time after which it leaves.

**Order.**  Ready tasks run in the order in which they became ready.  When none is ready the clock
jumps to the next timer, and timers of one instant fire in the order in which they were set.  A
caller whose time is up still takes a result that is there.

**Bound.**  Each task sets at most three timers and runs at most once more often than timers fire,
which bounds the number of moves.
-/

namespace EntityTrust

/-- What a task does with the store. -/
inductive Action (κ α ε : Type)
  | advance (nanos : Nat)
  | find (key : κ)
  | insert (key : κ) (value : α)
  | remove (key : κ)
  | evictExpired
  | clear
  | trim (size : Nat)
  | resize (size : Nat)
  | obtain (key : κ) (takes : Nat) (result : Except ε α) (patience : Option Nat)

/-- What an action gives. -/
inductive Outcome (α ε : Type)
  | done
  | value (v : Option α)
  | obtained (result : Except ε α) (started : Bool)
  | gaveUp (started : Bool)

/-- A task. -/
structure Task (κ α ε : Type) where
  start : Nat
  action : Action κ α ε

/-- How a task ended: its outcome, the time it took since the tasks began, and the size of the store
at its end. -/
structure Report (α ε : Type) where
  outcome : Outcome α ε
  time : Nat
  size : Nat

namespace Timeline

/-- What a timer wakes. -/
inductive Wake
  | task (index : Nat)
  | computation (number : Nat)

/-- A timer. -/
structure Timer where
  due : Nat
  wake : Wake

/-- Sets a timer behind those that are due no later. -/
def setTimer (t : Timer) : List Timer → List Timer
  | [] => [t]
  | s :: rest => if t.due < s.due then t :: s :: rest else s :: setTimer t rest

/-- A computation under way. -/
structure Computation (κ α ε : Type) where
  number : Nat
  key : κ
  due : Nat
  result : Except ε α

end Timeline

/-- A clock, a shared store and what is under way on it. -/
structure Timeline (κ α ε : Type) where
  now : Nat
  flights : Flights κ α ε
  computations : List (Timeline.Computation κ α ε)
  timers : List Timeline.Timer

namespace Timeline

variable {κ α ε : Type}

/-- The timeline on which nothing has happened. -/
def ofStore (store : Store κ α) : Timeline κ α ε :=
  ⟨0, .ofStore store, [], []⟩

/-- Tasks under way: those not started, the ready ones, when the waiting ones leave, which of them
started a computation, and the reports of the ended ones. -/
structure Round (κ α ε : Type) where
  line : Timeline κ α ε
  begun : Nat
  unstarted : List (Nat × Action κ α ε)
  ready : List Nat
  leaves : List (Nat × Nat)
  starters : List Nat
  reports : List (Nat × Report α ε)

namespace Round

/-- Sets a timer unless it is due. -/
def withTimer (r : Round κ α ε) (due : Nat) (wake : Wake) : Round κ α ε :=
  if due ≤ r.line.now then r
  else { r with line := { r.line with timers := setTimer ⟨due, wake⟩ r.line.timers } }

/-- Ends a task. -/
def report (r : Round κ α ε) (index : Nat) (outcome : Outcome α ε) : Round κ α ε :=
  let line := { r.line with flights := r.line.flights.leave index }
  { r with
    line := line
    reports := (index, ⟨outcome, line.now - r.begun, line.flights.store.size⟩) :: r.reports }

/-- Makes tasks ready that are not. -/
def awaken (r : Round κ α ε) (indices : List Nat) : Round κ α ε :=
  { r with ready := r.ready ++ indices.filter fun i => !r.ready.contains i }

/-- The tasks that a timer wakes. -/
def woken (r : Round κ α ε) : Wake → List Nat
  | .task i => if (r.reports.lookup i).isSome then [] else [i]
  | .computation n => r.line.flights.callersOf n

/-- Moves the clock to the next timer and fires all timers that are due. -/
def jump (r : Round κ α ε) : Round κ α ε :=
  match r.line.timers with
  | [] => r
  | t :: _ =>
      let now := max r.line.now t.due
      let due := r.line.timers.takeWhile fun t => t.due ≤ now
      let rest := r.line.timers.dropWhile fun t => t.due ≤ now
      due.foldl (fun r t => r.awaken (r.woken t.wake))
        { r with line := { r.line with now := now, timers := rest } }

variable [DecidableEq κ]

/-- Changes the store. -/
def onStore (r : Round κ α ε) (change : Store κ α → Store κ α) : Round κ α ε :=
  { r with line := { r.line with flights := r.line.flights.onStore change } }

/-- A look of a waiting caller: it takes a result, ends a computation that is due, leaves, or waits
on. -/
def look (r : Round κ α ε) (index : Nat) : Round κ α ε :=
  let started := r.starters.contains index
  match r.line.flights.result? index with
  | some result => r.report index (.obtained result started)
  | none =>
      let number := r.line.flights.waiting.lookup index
      match r.line.computations.find? fun c => number == some c.number && c.due ≤ r.line.now with
      | some c =>
          let line :=
            { r.line with
              flights := r.line.flights.complete c.key c.number c.result r.line.now
              computations := r.line.computations.filter fun d => d.number != c.number }
          { r with line := line }.report index (.obtained c.result started)
      | none =>
          match r.leaves.lookup index with
          | some t => if t ≤ r.line.now then r.report index (.gaveUp started) else r
          | none => r

/-- Lets a caller in. -/
def enter (r : Round κ α ε) (index : Nat) (key : κ) (takes : Nat) (result : Except ε α)
    (patience : Option Nat) : Round κ α ε :=
  let (admission, flights) := r.line.flights.arrive index key r.line.now
  let r := { r with line := { r.line with flights := flights } }
  let r :=
    match admission with
    | .started number =>
        let due := r.line.now + takes
        let c : Computation κ α ε := ⟨number, key, due, result⟩
        { r with
          starters := index :: r.starters
          line := { r.line with computations := c :: r.line.computations } }.withTimer due
            (.computation number)
    | _ => r
  match admission, patience with
  | .found value, _ => r.report index (.obtained (.ok value) false)
  | _, none => r.look index
  | _, some patience =>
      let due := r.line.now + patience
      ({ r with leaves := (index, due) :: r.leaves }.withTimer due (.task index)).look index

/-- Starts a task. -/
def perform (r : Round κ α ε) (index : Nat) : Action κ α ε → Round κ α ε
  | .advance nanos =>
      { r with line := { r.line with now := r.line.now + nanos } }.report index .done
  | .find key =>
      let (value, store) := r.line.flights.store.find key r.line.now
      (r.onStore fun _ => store).report index (.value value)
  | .insert key value =>
      (r.onStore fun s => s.insert key value r.line.now).report index .done
  | .remove key =>
      let (value, store) := r.line.flights.store.remove key
      (r.onStore fun _ => store).report index (.value value)
  | .evictExpired => (r.onStore fun s => s.evictExpired r.line.now).report index .done
  | .clear => (r.onStore Store.clear).report index .done
  | .trim size => (r.onStore fun s => s.trim size).report index .done
  | .resize size => (r.onStore fun s => s.resize size).report index .done
  | .obtain key takes result patience => r.enter index key takes result patience

/-- Runs a ready task. -/
def runTask (r : Round κ α ε) (index : Nat) : Round κ α ε :=
  match r.unstarted.lookup index with
  | some action =>
      { r with unstarted := r.unstarted.filter fun u => u.1 != index }.perform index action
  | none => if (r.reports.lookup index).isSome then r else r.look index

/-- One move: the first ready task runs, or the clock jumps. -/
def move (r : Round κ α ε) : Round κ α ε :=
  match r.ready with
  | index :: rest => { r with ready := rest }.runTask index
  | [] => r.jump

/-- Moves until all of `count` tasks have ended, at most so many times. -/
def finish (count : Nat) : Nat → Round κ α ε → Round κ α ε
  | 0, r => r
  | moves + 1, r => if r.reports.length < count then finish count moves r.move else r

end Round

variable [DecidableEq κ]

/-- The round that begins with the given tasks. -/
def begin (line : Timeline κ α ε) (tasks : List (Task κ α ε)) : Round κ α ε :=
  let indexed := tasks.zipIdx.map fun t => (t.2, t.1)
  let fresh : Round κ α ε :=
    ⟨line, line.now, indexed.map fun t => (t.1, t.2.action), [], [], [], []⟩
  indexed.foldl
    (fun r t =>
      if t.2.start = 0 then r.awaken [t.1]
      else r.withTimer (line.now + t.2.start) (.task t.1))
    fresh

/-- A bound on the moves of so many tasks. -/
def moves (timers tasks : Nat) : Nat :=
  (timers + 3 * tasks + 1) * (tasks + 2)

/-- Whether a timer belongs to a computation under way. -/
def timesComputation (line : Timeline κ α ε) (t : Timer) : Bool :=
  match t.wake with
  | .task _ => false
  | .computation n => line.computations.any fun c => c.number == n

/-- Runs tasks to their ends and answers their reports in the order of the tasks.  Only timers of
computations under way stay. -/
def run (line : Timeline κ α ε) (tasks : List (Task κ α ε)) :
    List (Report α ε) × Timeline κ α ε :=
  let count := tasks.length
  let r := (line.begin tasks).finish count (moves line.timers.length count)
  ((List.range count).filterMap fun i => r.reports.lookup i,
    { r.line with timers := r.line.timers.filter r.line.timesComputation })

end Timeline
end EntityTrust
