import EntityTrust.Proofs.Store.Coherence

/-!
# One computation at a time

Callers that share a store never have two computations of one key under way, and every caller that
waits gets the result of the one that it waits for.

**Histories.**  `Began` and `Ended` say how a computation that is started or finished in a state
has come there: by which steps, from which caller, and with what found or stored on the way.

**Promise.**  `SingleFlight` is what callers are promised in a state, for all runs that lead to it
and all that leave it.  A caller takes its result in a step of its own, so the promise is that
nothing but its own cancellation ends its wait before (`outcome`), and that no state bars it from
the result (`arrives`).

**Results.**

* The lemmas on `Step` say what a step does to a caller or a computation, from what it is before
  (`Step.of_…`) or after (`Step.to_…`).
* `single_flight` is the promise in every state that is reached from a store without computations.
-/

namespace EntityTrust

variable {κ α ε : Type} [DecidableEq κ]

/-- A store of some capacity holds what was written last. -/
theorem Store.entry?_insert (s : Store κ α) (key : κ) (value : α) (now : Nat)
    (room : 0 < s.settings.maxSize) :
    entry? (s.insert key value now) key = some ⟨key, value, now, now⟩ := by
  have hothers : ∀ k, ((without key s.entries).drop k).find? (fun e => e.key == key) = none := by
    intro k
    rw [List.find?_eq_none]
    intro e he
    have := (List.mem_filter.mp (List.mem_of_mem_drop he)).2
    simpa using this
  have hdrop : (without key s.entries).length + 1 - s.settings.maxSize ≤
      (without key s.entries).length := by
    omega
  simp [insert, trim, lastEntries, entry?, List.drop_append_of_le_length hdrop, List.find?_append,
    hothers]

namespace Traffic

section Steps

variable {s t : Traffic κ α ε} {e : Event κ α ε} {c n : Nat} {key : κ} {r : Except ε α}

/-! ## What a step does to a caller -/

theorem Step.to_looked (hstep : Step s e t) (after : t.caller c = .looked key) :
    s.caller c = .looked key ∨
      ∃ now, e = .look c key now ∧ s.caller c = .absent ∧ (s.flights.store.find key now).1 = none ∧
        t.flights.underWay = s.flights.underWay := by
  cases hstep <;> grind [Function.update_apply, Flights.lookUp]

theorem Step.not_absent (hstep : Step s e t) (before : s.caller c ≠ .absent) :
    t.caller c ≠ .absent := by
  cases hstep <;> grind [Function.update_apply]

theorem Step.of_waiting (h : Coherent s) (hstep : Step s e t)
    (before : s.caller c = .waiting key n) :
    t.caller c = .waiting key n ∨ t.caller c = .cancelled ∨
      ∃ r, s.stage n = .answered key r ∧ t.caller c = .received key n r := by
  cases hstep with
  | @received d m k r waiting answer =>
      have hanswered := (h.result?_eq_some waiting).mp answer
      grind [Function.update_apply]
  | _ => grind [Function.update_apply]

theorem Step.of_received (hstep : Step s e t) (before : s.caller c = .received key n r) :
    t.caller c = .received key n r := by
  cases hstep <;> grind [Function.update_apply]

theorem Step.of_cancelled (hstep : Step s e t) (before : s.caller c = .cancelled) :
    t.caller c = .cancelled := by
  cases hstep <;> grind [Function.update_apply]

/-- Registrations do not change while a caller holds the lock. -/
theorem Step.underWay_eq (h : Coherent s) (hstep : Step s e t) (before : s.caller c = .looked key)
    (after : t.caller c = .looked key) : t.flights.underWay = s.flights.underWay := by
  cases hstep with
  | @joined d m k looked admitted =>
      rw [Flights.enter_of_registered _ (Flights.enter_eq_joined.mp admitted)]
  | @started d m k looked admitted =>
      have hd := h.eq_of_looked before looked
      subst hd
      simp at after
  | @released m k r free settled => exact absurd before (h.not_looked free c key)
  | _ => rfl

/-! ## What a step does to a computation -/

theorem Step.to_started (h : Coherent s) (hstep : Step s e t)
    (after : (t.stage n).key? = some key) :
    (s.stage n).key? = some key ∨
      ∃ c, e = .enter c ∧ s.caller c = .looked key ∧ s.flights.underWay.lookup key = none ∧
        s.stage n = .unstarted ∧ t.stage n = .computing key ∧ t.caller c = .waiting key n := by
  cases hstep with
  | @started c m k looked admitted =>
      obtain ⟨hlookup, rfl⟩ := Flights.enter_eq_started.mp admitted
      have hfresh := (h.fresh s.flights.started).mpr (Nat.le_refl _)
      grind [Function.update_apply, Stage.key?]
  | _ => grind [Function.update_apply, Stage.key?]

theorem Step.to_settled (h : Coherent s) (hstep : Step s e t) (after : t.stage n = .settled key r) :
    s.stage n = .settled key r ∨
      ∃ c now, e = .settle c r now ∧ s.caller c = .waiting key n ∧ s.stage n = .computing key ∧
        t.flights = s.flights.settle key r now := by
  cases hstep with
  | @settled c m k result now waiting computing =>
      by_cases hm : n = m
      · subst hm
        obtain ⟨rfl, rfl⟩ : k = key ∧ result = r := by simpa using after
        have hkey := h.joined c _ n waiting
        rw [computing] at hkey
        cases hkey
        exact .inr ⟨c, now, rfl, waiting, computing, rfl⟩
      · exact .inl (by simpa [hm] using after)
  | _ => grind [Function.update_apply]

theorem Step.to_finished (hstep : Step s e t) (after : (t.stage n).Finished key r) :
    (s.stage n).Finished key r ∨
      e = .release n ∧ s.stage n = .settled key r ∧ t.flights = s.flights.release key := by
  cases hstep <;> grind [Function.update_apply, Stage.Finished]

theorem Step.of_answered (h : Coherent s) (hstep : Step s e t)
    (before : s.stage n = .answered key r) :
    t.stage n = .answered key r := by
  cases hstep with
  | @started c m k looked admitted =>
      obtain ⟨hlookup, rfl⟩ := Flights.enter_eq_started.mp admitted
      have hfresh := (h.fresh s.flights.started).mpr (Nat.le_refl _)
      grind [Function.update_apply]
  | _ => grind [Function.update_apply]

/-- A computation stays as it is until a caller that waits for it brings it to its result. -/
theorem Step.of_computing (h : Coherent s) (hstep : Step s e t)
    (before : s.stage n = .computing key) :
    t.stage n = .computing key ∨
      ∃ c r now, e = .settle c r now ∧ s.caller c = .waiting key n ∧
        t.flights = s.flights.settle key r now := by
  cases hstep with
  | @settled c m k result now waiting computing =>
      have hkey := h.joined c k m waiting
      grind [Function.update_apply, Stage.key?]
  | @started c m k looked admitted =>
      obtain ⟨hlookup, rfl⟩ := Flights.enter_eq_started.mp admitted
      have hfresh := (h.fresh s.flights.started).mpr (Nat.le_refl _)
      grind [Function.update_apply]
  | _ => grind [Function.update_apply]

end Steps

section Histories

/-- A computation of a key has begun on the way from one state to another: a caller took the lock,
found no live entry and no registered computation, and started it before it dropped the lock. -/
def Began (origin s : Traffic κ α ε) (key : κ) (n : Nat) : Prop :=
  ∃ c now a b a' b',
    Leads origin a ∧ Step a (.look c key now) b ∧ Leads b a' ∧ Step a' (.enter c) b' ∧ Leads b' s ∧
      (a.flights.store.find key now).1 = none ∧ a.flights.underWay.lookup key = none ∧
      a'.flights.underWay.lookup key = none ∧
      a'.stage n = .unstarted ∧ b'.stage n = .computing key ∧ b'.caller c = .waiting key n

/-- What the end of a computation of a key does to a store. -/
def Stores (before after : Store κ α) (key : κ) (now : Nat) : Except ε α → Prop
  | .ok value =>
      after = before.insert key value now ∧
        (0 < before.settings.maxSize → after.entry? key = some ⟨key, value, now, now⟩)
  | .error _ => after = before

/-- A computation of a key has ended on the way from one state to another: a caller that waited for
it brought it to its result, which was stored, and its next step left nothing registered. -/
def Ended (origin s : Traffic κ α ε) (key : κ) (n : Nat) (result : Except ε α) : Prop :=
  ∃ c now a b a' b',
    Leads origin a ∧ Step a (.settle c result now) b ∧ Leads b a' ∧ Step a' (.release n) b' ∧
      Leads b' s ∧
      a.caller c = .waiting key n ∧ a.stage n = .computing key ∧
      Stores a.flights.store b.flights.store key now result ∧
      b'.flights.store = a'.flights.store ∧ b'.flights.underWay.lookup key = none

variable {o s t : Traffic κ α ε} {c n : Nat} {key k : κ} {r : Except ε α}

/-- A caller keeps the lock, its key and the registrations from its look-up until it comes in. -/
theorem underWay_of_looked (h : Coherent s) (hrun : Leads s t) (before : s.caller c = .looked key)
    (after : t.caller c = .looked k) :
    k = key ∧ t.flights.underWay = s.flights.underWay := by
  induction hrun generalizing k with
  | refl =>
      rw [before] at after
      cases after
      exact ⟨rfl, rfl⟩
  | @tail u v hrun hlast ih =>
      obtain ⟨e, -, hstep⟩ := hlast
      rcases hstep.to_looked after with hu | ⟨now, -, habsent, -, -⟩
      · obtain ⟨rfl, hway⟩ := ih hu
        exact ⟨rfl, (hstep.underWay_eq (coherent_of_leads h hrun) hu after).trans hway⟩
      -- A caller makes one call: having looked, it cannot be about to look again.
      · have hnot : u.caller c ≠ .absent :=
          Leads.invariant (P := fun u => u.caller c ≠ .absent) hrun (by simp [before])
            fun hc hstep => hstep.not_absent hc
        exact absurd habsent hnot

theorem began_of_leads (h : Coherent o) (fresh : ∀ m, o.stage m = .unstarted)
    (absent : ∀ d, o.caller d = .absent) (hrun : Leads o s)
    (started : (s.stage n).key? = some key) : Began o s key n := by
  -- Backwards: the step that started the computation, then the look-up of the caller that took it.
  obtain ⟨a', e', b', ha', hstep', hb', hbefore, hafter⟩ :=
    hrun.exists_step (P := fun u => (u.stage n).key? = some key) (by simp [fresh, Stage.key?])
      started
  rcases hstep'.to_started (coherent_of_leads h ha') hafter with
    hkey | ⟨c, rfl, hlooked, hnone, hunstarted, hcomputing, hwaiting⟩
  · exact absurd hkey hbefore
  obtain ⟨a, e, b, ha, hstep, hb, hnot, hlook⟩ :=
    ha'.exists_step (P := fun u => u.caller c = .looked key) (by simp [absent]) hlooked
  rcases hstep.to_looked hlook with hlook' | ⟨now, rfl, -, hdead, hway⟩
  · exact absurd hlook' hnot
  have hkept := (underWay_of_looked (coherent_of_leads h (ha.step hstep)) hb hlook hlooked).2
  exact ⟨c, now, a, b, a', b', ha, hstep, hb, hstep', hb', hdead, by rw [← hway, ← hkept, hnone],
    hnone, hunstarted, hcomputing, hwaiting⟩

theorem stores_storeResult (store : Store κ α) (key : κ) (now : Nat) (r : Except ε α) :
    Stores store (Flights.storeResult store key now r) key now r := by
  cases r with
  | ok value => exact ⟨rfl, store.entry?_insert key value now⟩
  | error _ => rfl

theorem ended_of_leads (h : Coherent o) (fresh : ∀ m, o.stage m = .unstarted) (hrun : Leads o s)
    (finished : (s.stage n).Finished key r) : Ended o s key n r := by
  -- Backwards again: the step that dropped the registration, then the one that stored the result.
  obtain ⟨a', e', b', ha', hstep', hb', hbefore, hafter⟩ :=
    hrun.exists_step (P := fun u => (u.stage n).Finished key r) (by simp [fresh, Stage.Finished])
      finished
  rcases hstep'.to_finished hafter with hfinished | ⟨rfl, hsettled, hflights'⟩
  · exact absurd hfinished hbefore
  obtain ⟨a, e, b, ha, hstep, hb, hnot, hsettled'⟩ :=
    ha'.exists_step (P := fun u => u.stage n = .settled key r) (by simp [fresh]) hsettled
  rcases hstep.to_settled (coherent_of_leads h ha) hsettled' with
    hsettled'' | ⟨c, now, rfl, hwaiting, hcomputing, hflights⟩
  · exact absurd hsettled'' hnot
  refine ⟨c, now, a, b, a', b', ha, hstep, hb, hstep', hb', hwaiting, hcomputing, ?_, ?_, ?_⟩
  · rw [hflights]
    exact stores_storeResult a.flights.store key now r
  · rw [hflights']
    rfl
  · rw [hflights', Flights.lookup_release, if_pos rfl]

end Histories

section Waiting

variable {s t : Traffic κ α ε} {c n : Nat} {key : κ} {r : Except ε α}

/-- What has become of a caller that once waited for a computation. -/
theorem outcome_of_leads (h : Coherent s) (hrun : Leads s t)
    (before : s.caller c = .waiting key n) :
    t.caller c = .waiting key n ∨ t.caller c = .cancelled ∨
      ∃ r, t.stage n = .answered key r ∧ t.caller c = .received key n r := by
  refine (hrun.invariant
    (P := fun u => Coherent u ∧ (u.caller c = .waiting key n ∨ u.caller c = .cancelled ∨
      ∃ r, u.stage n = .answered key r ∧ u.caller c = .received key n r)) ⟨h, .inl before⟩ ?_).2
  rintro a e b ⟨ha, hcase⟩ hstep
  refine ⟨coherent_step ha hstep, ?_⟩
  rcases hcase with hwaiting | hcancelled | ⟨r, hanswered, hreceived⟩
  · rcases hstep.of_waiting ha hwaiting with hw | hc | ⟨r, hanswered, hreceived⟩
    · exact .inl hw
    · exact .inr (.inl hc)
    · exact .inr (.inr ⟨r, hstep.of_answered ha hanswered, hreceived⟩)
  · exact .inr (.inl (hstep.of_cancelled hcancelled))
  · exact .inr (.inr ⟨r, hstep.of_answered ha hanswered, hstep.of_received hreceived⟩)

/-- A computation is kept until somebody waits for it. -/
theorem computing_or_waited (h : Coherent s) (hrun : Leads s t)
    (computing : s.stage n = .computing key) :
    t.stage n = .computing key ∨ ∃ u c, Leads s u ∧ Leads u t ∧ u.caller c = .waiting key n := by
  induction hrun with
  | refl => exact .inl computing
  | @tail u v hrun hlast ih =>
      obtain ⟨e, -, hstep⟩ := hlast
      rcases ih with hu | ⟨w, c, hw, hwu, hwaiting⟩
      · rcases hstep.of_computing (coherent_of_leads h hrun) hu with hv | ⟨c, r, now, -, hc, -⟩
        · exact .inl hv
        · exact .inr ⟨u, c, hrun, (Leads.refl u).step hstep, hc⟩
      · exact .inr ⟨w, c, hw, hwu.step hstep, hwaiting⟩

/-- The lock comes free while a caller waits. -/
theorem exists_free (h : Coherent s) (waiting : s.caller c = .waiting key n) :
    ∃ t, Run Event.Patient s t ∧ t.holder = none ∧ t.caller c = .waiting key n ∧
      t.stage n = s.stage n := by
  cases hholder : s.holder with
  | none => exact ⟨s, .refl s, hholder, waiting, rfl⟩
  | some d =>
      obtain ⟨k, looked⟩ := (h.holder d).mp hholder
      have hdc : c ≠ d := by
        rintro rfl
        simp [waiting] at looked
      cases hlookup : s.flights.underWay.lookup k with
      | some m =>
          have hstep := Step.joined looked (Flights.enter_eq_joined.mpr hlookup)
          exact ⟨_, (Run.refl s).step (by simp [Event.Patient]) hstep, rfl, by simp [hdc, waiting],
            rfl⟩
      | none =>
          have hstep := Step.started looked (Flights.enter_eq_started.mpr ⟨hlookup, rfl⟩)
          have hn : n ≠ s.flights.started := by
            rintro rfl
            have hkey := h.joined c key _ waiting
            simp [(h.fresh _).mpr (Nat.le_refl _), Stage.key?] at hkey
          exact ⟨_, (Run.refl s).step (by simp [Event.Patient]) hstep, rfl, by simp [hdc, waiting],
            by simp [hn]⟩

theorem arrives_of_answered (h : Coherent s) (waiting : s.caller c = .waiting key n)
    (answered : s.stage n = .answered key r) :
    ∃ t, Step s (.receive c) t ∧ t.caller c = .received key n r :=
  ⟨_, .received waiting ((h.result?_eq_some waiting).mpr answered), by simp⟩

theorem arrives_of_released (h : Coherent s) (waiting : s.caller c = .waiting key n)
    (released : s.stage n = .released key r) :
    ∃ t, Run Event.Patient s t ∧ t.caller c = .received key n r := by
  have hstep := Step.answered released
  obtain ⟨t, hlast, hreceived⟩ :=
    arrives_of_answered (coherent_step h hstep) waiting (by simp : _ = Stage.answered key r)
  have hrun : Run Event.Patient s _ := (Run.refl s).step (by simp [Event.Patient]) hstep
  exact ⟨t, hrun.step (by simp [Event.Patient]) hlast, hreceived⟩

theorem arrives_of_settled (h : Coherent s) (waiting : s.caller c = .waiting key n)
    (settled : s.stage n = .settled key r) :
    ∃ t, Run Event.Patient s t ∧ t.caller c = .received key n r := by
  obtain ⟨u, hrun, free, hwaiting, hstage⟩ := exists_free h waiting
  have hcoherent := coherent_of_leads h hrun.leads
  have hstep := Step.released free (hstage.trans settled)
  obtain ⟨t, hrest, hreceived⟩ :=
    arrives_of_released (coherent_step hcoherent hstep) hwaiting
      (by simp : _ = Stage.released key r)
  exact ⟨t, (hrun.step (by simp [Event.Patient]) hstep).trans hrest, hreceived⟩

theorem arrives_of_computing (h : Coherent s) (waiting : s.caller c = .waiting key n)
    (computing : s.stage n = .computing key) (r : Except ε α) :
    ∃ t, Run Event.Patient s t ∧ t.caller c = .received key n r := by
  have hstep := Step.settled r 0 waiting computing
  obtain ⟨t, hrest, hreceived⟩ :=
    arrives_of_settled (coherent_step h hstep) waiting (by simp : _ = Stage.settled key r)
  exact ⟨t, ((Run.refl s).step (by simp [Event.Patient]) hstep).trans hrest, hreceived⟩

/-- A caller that waits can come to its result without anybody leaving. -/
theorem exists_arrival (h : Coherent s) (waiting : s.caller c = .waiting key n)
    (result : ∀ r', (s.stage n).result? = some r' → r' = r) :
    ∃ t, Run Event.Patient s t ∧ t.caller c = .received key n r := by
  have hkey := h.joined c key n waiting
  cases hstage : s.stage n with
  | unstarted => simp [hstage, Stage.key?] at hkey
  | computing k =>
      obtain rfl : k = key := by simpa [hstage, Stage.key?] using hkey
      exact arrives_of_computing h waiting hstage r
  | settled k r' =>
      obtain rfl : k = key := by simpa [hstage, Stage.key?] using hkey
      obtain rfl := result r' (by simp [hstage, Stage.result?])
      exact arrives_of_settled h waiting hstage
  | released k r' =>
      obtain rfl : k = key := by simpa [hstage, Stage.key?] using hkey
      obtain rfl := result r' (by simp [hstage, Stage.result?])
      exact arrives_of_released h waiting hstage
  | answered k r' =>
      obtain rfl : k = key := by simpa [hstage, Stage.key?] using hkey
      obtain rfl := result r' (by simp [hstage, Stage.result?])
      obtain ⟨t, hstep, hreceived⟩ := arrives_of_answered h waiting hstage
      exact ⟨t, (Run.refl s).step (by simp [Event.Patient]) hstep, hreceived⟩

end Waiting

section Joining

variable {s t u v : Traffic κ α ε} {c n now : Nat} {key : κ}

/-- A caller that finds no live entry comes to wait for the computation that is under way. -/
theorem joins_of_underWay (h : Coherent s) (underWay : (s.stage n).UnderWay key)
    (hlook : Step s (.look c key now) t) (dead : (s.flights.store.find key now).1 = none)
    (hrun : Leads t u) (henter : Step u (.enter c) v) :
    v.caller c = .waiting key n ∧ v.stage = u.stage := by
  have hlookup := (h.registered key n).mp underWay
  cases hlook with
  | found free absent live =>
      simp [Flights.lookUp, dead] at live
  | missed free absent _ =>
      have hcoherent := coherent_step h (.missed free absent dead)
      have hlooked := Function.update_self c (Caller.looked key) s.caller
      cases henter with
      | @joined _ m k looked admitted =>
          obtain ⟨rfl, hway⟩ := underWay_of_looked hcoherent hrun hlooked looked
          have hm := Flights.enter_eq_joined.mp admitted
          rw [hway] at hm
          obtain rfl : n = m := by simpa [Flights.lookUp, hlookup] using hm
          simp
      | @started _ m k looked admitted =>
          obtain ⟨rfl, hway⟩ := underWay_of_looked hcoherent hrun hlooked looked
          have hnone := (Flights.enter_eq_started.mp admitted).1
          rw [hway] at hnone
          simp [Flights.lookUp, hlookup] at hnone

end Joining

/-- What callers are promised in a state that is reached from an origin. -/
structure SingleFlight (origin s : Traffic κ α ε) : Prop where
  /-- The unfinished computation of a key is the registered one. -/
  registered : ∀ key n, (s.stage n).UnderWay key ↔ s.flights.underWay.lookup key = some n
  /-- A key has at most one unfinished computation. -/
  unique : ∀ key m n, (s.stage m).UnderWay key → (s.stage n).UnderWay key → m = n
  /-- A computation is started only by a caller that found neither a live entry nor a registered
  computation. -/
  began : ∀ key n, (s.stage n).key? = some key → Began origin s key n
  /-- A caller that waits for a computation and is not cancelled waits until it receives the result
  of that computation. -/
  outcome : ∀ c key n, s.caller c = .waiting key n → ∀ t, Leads s t → t.caller c ≠ .cancelled →
    t.caller c = .waiting key n ∨ ∃ r, t.stage n = .answered key r ∧ t.caller c = .received key n r
  /-- An answered result is there for every caller that waits. -/
  delivered : ∀ c key n r, s.caller c = .waiting key n → s.stage n = .answered key r →
    ∃ t, Step s (.receive c) t ∧ t.caller c = .received key n r
  /-- Every caller that waits can come to the result, whichever it is, without anybody being
  cancelled. -/
  arrives : ∀ c key n, s.caller c = .waiting key n →
    ∀ r, (∀ r', (s.stage n).result? = some r' → r' = r) →
      ∃ t, Run Event.Patient s t ∧ t.caller c = .received key n r
  /-- A cancelled caller leaves all computations as they are, and registered. -/
  cancelled : ∀ c t, Step s (.cancel c) t →
    t.stage = s.stage ∧ t.flights.underWay = s.flights.underWay
  /-- A computation that comes to be waited for by nobody is kept until somebody waits for it. -/
  abandoned : ∀ key n, s.stage n = .computing key → ∀ t, Leads s t →
    t.stage n = .computing key ∨ ∃ u c, Leads s u ∧ Leads u t ∧ u.caller c = .waiting key n
  /-- A caller that finds no live entry while a computation is under way starts none: it waits for
  that one and can resume it to any result. -/
  resumed : ∀ key n, (s.stage n).UnderWay key →
    ∀ c now t u v, Step s (.look c key now) t → (s.flights.store.find key now).1 = none →
      Leads t u → Step u (.enter c) v →
        v.caller c = .waiting key n ∧ v.stage = u.stage ∧
          (v.stage n = .computing key → ∀ r later, ∃ w, Step v (.settle c r later) w)
  /-- A finished computation has stored its success, or nothing, and is not registered. -/
  ended : ∀ key n r, (s.stage n).Finished key r →
    Ended origin s key n r ∧ ∀ k, s.flights.underWay.lookup k ≠ some n

/-- Every state that callers and computations reach from a store without computations keeps the
promise of one computation at a time. -/
theorem single_flight (store : Store κ α) {s : Traffic κ α ε} (hrun : Leads (ofStore store) s) :
    SingleFlight (ofStore store) s := by
  have horigin : Coherent (ofStore store : Traffic κ α ε) := coherent_ofStore store
  have h := coherent_of_leads horigin hrun
  refine
    { registered := h.registered
      unique := ?_
      began := fun key n => began_of_leads horigin (fun _ => rfl) (fun _ => rfl) hrun
      outcome := ?_
      delivered := fun c key n r => arrives_of_answered h
      arrives := fun c key n waiting r => exists_arrival h waiting
      cancelled := ?_
      abandoned := fun key n computing t hleads => computing_or_waited h hleads computing
      resumed := ?_
      ended := ?_ }
  · intro key m n hm hn
    have hm' := (h.registered key m).mp hm
    have hn' := (h.registered key n).mp hn
    simpa [hm'] using hn'
  · intro c key n waiting t hleads hnot
    rcases outcome_of_leads h hleads waiting with hw | hc | hr
    · exact .inl hw
    · exact absurd hc hnot
    · exact .inr hr
  · intro c t hstep
    cases hstep
    exact ⟨rfl, rfl⟩
  · intro key n underWay c now t u v hlook dead hleads henter
    obtain ⟨hwaiting, hstage⟩ := joins_of_underWay h underWay hlook dead hleads henter
    exact ⟨hwaiting, hstage, fun hcomputing r later => ⟨_, .settled r later hwaiting hcomputing⟩⟩
  · intro key n r finished
    refine ⟨ended_of_leads horigin (fun _ => rfl) hrun finished, ?_⟩
    intro k hk
    have hway := (h.registered k n).mpr hk
    cases hstage : s.stage n <;> simp [hstage, Stage.UnderWay, Stage.Finished] at hway finished

/-- A store without room, a caller that leaves the computation it has started, and one that takes it
up: the promise holds where the second caller has its result. -/
theorem single_flight_sample :
    ∃ s : Traffic Nat Nat Unit, Leads (ofStore (.empty { maxSize := 0 })) s ∧
      s.caller 0 = .cancelled ∧ s.caller 1 = .received 7 0 (.ok 5) ∧
      SingleFlight (ofStore (.empty { maxSize := 0 })) s := by
  have started := ((Leads.refl (ofStore (.empty { maxSize := 0 }) : Traffic Nat Nat Unit)).step
    (e := .look 0 7 0) (.missed rfl rfl rfl)).step (e := .enter 0) (.started rfl rfl)
  have joined := ((started.step (e := .cancel 0) (.cancelled rfl)).step
    (e := .look 1 7 1) (.missed rfl rfl rfl)).step (e := .enter 1) (.joined rfl rfl)
  have settled := (joined.step (e := .resume 1) (.resumed rfl rfl)).step
    (e := .settle 1 (.ok 5) 2) (.settled (.ok 5) 2 rfl rfl)
  have received := ((settled.step (e := .release 0) (.released rfl rfl)).step
    (e := .answer 0) (.answered rfl)).step (e := .receive 1) (.received rfl rfl)
  exact ⟨_, received, rfl, rfl, single_flight _ received⟩

end Traffic
end EntityTrust
