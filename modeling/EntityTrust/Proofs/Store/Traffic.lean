import EntityTrust.Proofs.Store.Entries
import EntityTrust.Store.Flight
import Mathlib.Logic.Function.Basic
import Mathlib.Logic.Relation

/-!
# Callers and computations step by step

Any number of callers share one store, and each step is one critical section of one of them or of
a computation.

**Locks.**  A store has two locks, one on its entries and one on the computations under way.  A
caller holds the second one from its look-up until it has joined or started a computation, and
takes the first one for the look-up alone.  So the entries may change between the two, and the
registrations may not.

**Computations.**  The end of a computation takes three steps: its result is stored, its
registration is dropped, and its result is answered.  Any other steps come in between.  A
computation advances to its result only when a caller that waits for it is resumed.  It is
unfinished until its registration is dropped; from then on only its answer is outstanding, and the
next computation of its key may start.

**Freedom.**  Instants are arbitrary, results are arbitrary, and a caller may leave between any
two steps while it waits, also while it drives a computation through its last three steps.

**Runs.**  `Run` is a run of steps whose events are all of a given kind, and `Leads` is any run.
`Leads.invariant` carries along a run what each step keeps, and `Leads.exists_step` finds the step
in which something came to hold.

**Entries.**  A step applies one operation to the entries, or leaves them (`Step.touches`).
-/

namespace EntityTrust

/-- Where a computation stands. -/
inductive Stage (κ α ε : Type)
  | unstarted
  | computing (key : κ)
  | settled (key : κ) (result : Except ε α)
  | released (key : κ) (result : Except ε α)
  | answered (key : κ) (result : Except ε α)

/-- Where a caller stands. -/
inductive Caller (κ α ε : Type)
  | absent
  | looked (key : κ)
  | served (key : κ) (value : α)
  | waiting (key : κ) (number : Nat)
  | received (key : κ) (number : Nat) (result : Except ε α)
  | cancelled

/-- What is done to the entries of a store. -/
inductive Operation (κ α : Type)
  | find (key : κ) (now : Nat)
  | insert (key : κ) (value : α) (now : Nat)
  | remove (key : κ)
  | evictExpired (now : Nat)
  | clear
  | trim (size : Nat)
  | resize (size : Nat)

/-- What happens in a step. -/
inductive Event (κ α ε : Type)
  | look (caller : Nat) (key : κ) (now : Nat)
  | enter (caller : Nat)
  | resume (caller : Nat)
  | settle (caller : Nat) (result : Except ε α) (now : Nat)
  | release (number : Nat)
  | answer (number : Nat)
  | receive (caller : Nat)
  | cancel (caller : Nat)
  | operate (operation : Operation κ α)

/-- A store with its computations, the caller that holds the lock on the computations under way, and
where each computation and each caller stands. -/
structure Traffic (κ α ε : Type) where
  flights : Flights κ α ε
  holder : Option Nat
  stage : Nat → Stage κ α ε
  caller : Nat → Caller κ α ε

variable {κ α ε : Type}

namespace Stage

/-- The key that a computation was started for. -/
def key? : Stage κ α ε → Option κ
  | .unstarted => none
  | .computing key | .settled key _ | .released key _ | .answered key _ => some key

/-- The result that a computation has come to. -/
def result? : Stage κ α ε → Option (Except ε α)
  | .unstarted | .computing _ => none
  | .settled _ result | .released _ result | .answered _ result => some result

/-- A computation is started for a key and unfinished. -/
def UnderWay (key : κ) : Stage κ α ε → Prop
  | .computing k | .settled k _ => k = key
  | .unstarted | .released _ _ | .answered _ _ => False

/-- A computation is finished with a result for a key. -/
def Finished (key : κ) (result : Except ε α) : Stage κ α ε → Prop
  | .released k r | .answered k r => k = key ∧ r = result
  | .unstarted | .computing _ | .settled _ _ => False

end Stage

/-- No caller leaves in a step. -/
def Event.Patient (e : Event κ α ε) : Prop :=
  ∀ caller, e ≠ .cancel caller

/-- Applies an operation. -/
def Operation.apply [DecidableEq κ] : Operation κ α → Store κ α → Store κ α
  | .find key now, s => (s.find key now).2
  | .insert key value now, s => s.insert key value now
  | .remove key, s => (s.remove key).2
  | .evictExpired now, s => s.evictExpired now
  | .clear, s => s.clear
  | .trim size, s => s.trim size
  | .resize size, s => s.resize size

/-- The key and the value of an entry were there before an operation, or are what it writes. -/
theorem Operation.entry_of_apply [DecidableEq κ] {s : Store κ α} (op : Operation κ α)
    {e : Store.Entry κ α} (he : e ∈ (op.apply s).entries) :
    (∃ d ∈ s.entries, d.key = e.key ∧ d.value = e.value) ∨
      ∃ now, op = .insert e.key e.value now := by
  have hold : e ∈ s.entries → ∃ d ∈ s.entries, d.key = e.key ∧ d.value = e.value :=
    fun he => ⟨e, he, rfl, rfl⟩
  cases op with
  | find key now =>
      rcases Store.find_cases s key now with ⟨-, hfind⟩ | ⟨d, hd, hkey, ⟨-, hfind⟩ | ⟨-, hfind⟩⟩ <;>
        rw [apply, hfind] at he
      · exact .inl (hold he)
      · exact .inl (hold (Store.mem_without.mp he).1)
      · rcases List.mem_append.mp he with he | he
        · exact .inl (hold (Store.mem_without.mp he).1)
        · rw [List.mem_singleton.mp he]
          exact .inl ⟨d, hd, rfl, rfl⟩
  | insert key value now =>
      rcases List.mem_append.mp ((Store.trim_sublist _ _).subset he) with he | he
      · exact .inl (hold (Store.mem_without.mp he).1)
      · rw [List.mem_singleton.mp he]
        exact .inr ⟨now, rfl⟩
  | remove key => exact .inl (hold (Store.mem_without.mp he).1)
  | evictExpired now => exact .inl (hold (Store.mem_evictExpired.mp he).1)
  | clear => cases he
  | trim size => exact .inl (hold ((Store.trim_sublist s size).subset he))
  | resize size => exact .inl (hold ((Store.trim_sublist _ size).subset he))

namespace Traffic

/-- A store that no caller has come to. -/
def ofStore (store : Store κ α) : Traffic κ α ε :=
  ⟨.ofStore store, none, fun _ => .unstarted, fun _ => .absent⟩

variable [DecidableEq κ]

/-- One step. -/
inductive Step : Traffic κ α ε → Event κ α ε → Traffic κ α ε → Prop
  /-- A caller takes the lock and finds a stored value. -/
  | found {s : Traffic κ α ε} {caller now : Nat} {key : κ} {value : α}
      (free : s.holder = none) (absent : s.caller caller = .absent)
      (live : (s.flights.lookUp key now).1 = some value) :
      Step s (.look caller key now)
        { s with
          flights := (s.flights.lookUp key now).2
          caller := Function.update s.caller caller (.served key value) }
  /-- A caller takes the lock and finds no stored value. -/
  | missed {s : Traffic κ α ε} {caller now : Nat} {key : κ}
      (free : s.holder = none) (absent : s.caller caller = .absent)
      (dead : (s.flights.lookUp key now).1 = none) :
      Step s (.look caller key now)
        { s with
          flights := (s.flights.lookUp key now).2
          holder := some caller
          caller := Function.update s.caller caller (.looked key) }
  /-- The caller with the lock joins the computation registered for its key and drops the lock. -/
  | joined {s : Traffic κ α ε} {caller number : Nat} {key : κ}
      (looked : s.caller caller = .looked key)
      (admitted : (s.flights.enter caller key).1 = .joined number) :
      Step s (.enter caller)
        { s with
          flights := (s.flights.enter caller key).2
          holder := none
          caller := Function.update s.caller caller (.waiting key number) }
  /-- The caller with the lock starts and registers a computation and drops the lock. -/
  | started {s : Traffic κ α ε} {caller number : Nat} {key : κ}
      (looked : s.caller caller = .looked key)
      (admitted : (s.flights.enter caller key).1 = .started number) :
      Step s (.enter caller)
        { flights := (s.flights.enter caller key).2
          holder := none
          stage := Function.update s.stage number (.computing key)
          caller := Function.update s.caller caller (.waiting key number) }
  /-- A waiting caller resumes a computation, which does not come to a result. -/
  | resumed {s : Traffic κ α ε} {caller number : Nat} {key : κ}
      (waiting : s.caller caller = .waiting key number)
      (computing : s.stage number = .computing key) :
      Step s (.resume caller) s
  /-- A waiting caller resumes a computation, which comes to a result and stores it. -/
  | settled {s : Traffic κ α ε} {caller number : Nat} {key : κ} (result : Except ε α) (now : Nat)
      (waiting : s.caller caller = .waiting key number)
      (computing : s.stage number = .computing key) :
      Step s (.settle caller result now)
        { s with
          flights := s.flights.settle key result now
          stage := Function.update s.stage number (.settled key result) }
  /-- A computation takes the lock and drops its registration. -/
  | released {s : Traffic κ α ε} {number : Nat} {key : κ} {result : Except ε α}
      (free : s.holder = none) (settled : s.stage number = .settled key result) :
      Step s (.release number)
        { s with
          flights := s.flights.release key
          stage := Function.update s.stage number (.released key result) }
  /-- A computation answers its result. -/
  | answered {s : Traffic κ α ε} {number : Nat} {key : κ} {result : Except ε α}
      (released : s.stage number = .released key result) :
      Step s (.answer number)
        { s with
          flights := s.flights.answer number result
          stage := Function.update s.stage number (.answered key result) }
  /-- A waiting caller takes the answer. -/
  | received {s : Traffic κ α ε} {caller number : Nat} {key : κ} {result : Except ε α}
      (waiting : s.caller caller = .waiting key number)
      (answer : s.flights.result? caller = some result) :
      Step s (.receive caller)
        { s with
          flights := s.flights.leave caller
          caller := Function.update s.caller caller (.received key number result) }
  /-- A waiting caller leaves. -/
  | cancelled {s : Traffic κ α ε} {caller number : Nat} {key : κ}
      (waiting : s.caller caller = .waiting key number) :
      Step s (.cancel caller)
        { s with
          flights := s.flights.leave caller
          caller := Function.update s.caller caller .cancelled }
  /-- The entries change without the lock. -/
  | operated (s : Traffic κ α ε) (operation : Operation κ α) :
      Step s (.operate operation) { s with flights := s.flights.onStore operation.apply }

/-- A run of steps whose events are all among the given ones. -/
def Run (among : Event κ α ε → Prop) : Traffic κ α ε → Traffic κ α ε → Prop :=
  Relation.ReflTransGen fun s t => ∃ e, among e ∧ Step s e t

/-- A run of any steps. -/
def Leads : Traffic κ α ε → Traffic κ α ε → Prop :=
  Run fun _ => True

section Run

variable {among : Event κ α ε → Prop} {s t u : Traffic κ α ε} {e : Event κ α ε}

theorem Run.refl (s : Traffic κ α ε) : Run among s s :=
  Relation.ReflTransGen.refl

theorem Run.step (h : Run among s t) (he : among e) (hstep : Step t e u) : Run among s u :=
  Relation.ReflTransGen.tail h ⟨e, he, hstep⟩

theorem Run.trans (h : Run among s t) (h' : Run among t u) : Run among s u :=
  Relation.ReflTransGen.trans h h'

theorem Run.leads (h : Run among s t) : Leads s t :=
  Relation.ReflTransGen.mono (fun _ _ ⟨e, _, hstep⟩ => ⟨e, trivial, hstep⟩) _ _ h

theorem Leads.refl (s : Traffic κ α ε) : Leads s s :=
  Run.refl s

theorem Leads.step (h : Leads s t) (hstep : Step t e u) : Leads s u :=
  Run.step h trivial hstep

theorem Leads.trans (h : Leads s t) (h' : Leads t u) : Leads s u :=
  Run.trans h h'

/-- What every step keeps holds after a run if it holds before. -/
theorem Leads.invariant {P : Traffic κ α ε → Prop} (h : Leads s t) (before : P s)
    (keeps : ∀ {a e b}, P a → Step a e b → P b) : P t := by
  induction h with
  | refl => exact before
  | tail _ hlast ih =>
      obtain ⟨e, -, hstep⟩ := hlast
      exact keeps ih hstep

/-- What does not hold before a run and holds after it came to hold in one of its steps. -/
theorem Leads.exists_step {P : Traffic κ α ε → Prop} (h : Leads s t) (before : ¬ P s)
    (after : P t) :
    ∃ a e b, Leads s a ∧ Step a e b ∧ Leads b t ∧ ¬ P a ∧ P b := by
  induction h with
  | refl => exact absurd after before
  | @tail a b hrun hlast ih =>
      obtain ⟨e, -, hstep⟩ := hlast
      by_cases ha : P a
      · obtain ⟨a', e', b', ha', hstep', hb', hna, hpb⟩ := ih ha
        exact ⟨a', e', b', ha', hstep', hb'.step hstep, hna, hpb⟩
      · exact ⟨a, e, b, hrun, hstep, .refl b, ha, after⟩

end Run

section Entries

variable {s t : Traffic κ α ε} {e : Event κ α ε}

/-- What a step does to the entries of a store. -/
inductive Touches (s : Traffic κ α ε) : Event κ α ε → Operation κ α → Prop
  /-- A caller looks a key up. -/
  | looked (caller : Nat) (key : κ) (now : Nat) : Touches s (.look caller key now) (.find key now)
  /-- A computation stores its success. -/
  | stored {caller number : Nat} {key : κ} (waiting : s.caller caller = .waiting key number)
      (value : α) (now : Nat) : Touches s (.settle caller (.ok value) now) (.insert key value now)
  /-- The entries change without the lock. -/
  | operated (operation : Operation κ α) : Touches s (.operate operation) operation

theorem Step.touches (hstep : Step s e t) :
    t.flights.store = s.flights.store ∨
      ∃ op, Touches s e op ∧ t.flights.store = op.apply s.flights.store := by
  cases hstep with
  | @found c now key value free absent live => exact .inr ⟨.find key now, .looked c key now, rfl⟩
  | @missed c now key free absent dead => exact .inr ⟨.find key now, .looked c key now, rfl⟩
  | @joined c n key looked admitted =>
      refine .inl ?_
      unfold Flights.enter
      split <;> rfl
  | @started c n key looked admitted =>
      refine .inl ?_
      unfold Flights.enter
      split <;> rfl
  | @settled c n key result now waiting computing =>
      cases result with
      | ok value => exact .inr ⟨.insert key value now, .stored waiting value now, rfl⟩
      | error _ => exact .inl rfl
  | operated op => exact .inr ⟨op, .operated op, rfl⟩
  | _ => exact .inl rfl

/-- A stored value was there before a step, or the step writes it. -/
theorem Step.entry (h : Step s e t) {d : Store.Entry κ α} (hd : d ∈ t.flights.store.entries) :
    (∃ d' ∈ s.flights.store.entries, d'.key = d.key ∧ d'.value = d.value) ∨
      ∃ now, Touches s e (.insert d.key d.value now) := by
  rcases h.touches with heq | ⟨op, htouches, heq⟩
  · rw [heq] at hd
    exact .inl ⟨d, hd, rfl, rfl⟩
  · rw [heq] at hd
    rcases op.entry_of_apply hd with hold | ⟨now, rfl⟩
    · exact .inl hold
    · exact .inr ⟨now, htouches⟩

/-- A caller is answered what is stored. -/
theorem Step.served (h : Step s e t) {c : Nat} {key : κ} {value : α}
    (hserved : t.caller c = .served key value) :
    s.caller c = .served key value ∨ ∃ now, (s.flights.store.find key now).1 = some value := by
  have moved : ∀ {d : Nat} {x : Caller κ α ε}, (∀ k v, x ≠ .served k v) →
      Function.update s.caller d x c = .served key value → s.caller c = .served key value := by
    intro d x hx hupdate
    by_cases hc : c = d
    · subst hc
      exact absurd (by simpa using hupdate) (hx key value)
    · simpa [hc] using hupdate
  cases h with
  | @found d now k v free absent live =>
      by_cases hc : c = d
      · subst hc
        have heq : (Caller.served k v : Caller κ α ε) = .served key value := by simpa using hserved
        cases heq
        exact .inr ⟨now, live⟩
      · exact .inl (by simpa [hc] using hserved)
  | missed | joined | started | received | cancelled => exact .inl (moved (by simp) hserved)
  | resumed | settled | released | answered | operated => exact .inl hserved

/-- What every operation keeps holds of the entries after a run if it holds of them before. -/
theorem Leads.store_invariant {P : Store κ α → Prop} (h : Leads s t) (before : P s.flights.store)
    (keeps : ∀ (op : Operation κ α) {store : Store κ α}, P store → P (op.apply store)) :
    P t.flights.store := by
  refine h.invariant (P := fun u => P u.flights.store) before ?_
  intro a e b ha hstep
  rcases hstep.touches with heq | ⟨op, -, heq⟩
  · rw [heq]
    exact ha
  · rw [heq]
    exact keeps op ha

end Entries

end Traffic
end EntityTrust
