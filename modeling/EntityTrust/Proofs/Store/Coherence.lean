import EntityTrust.Proofs.Lookup
import EntityTrust.Proofs.Store.Traffic

/-!
# Coherent states

The parts of a state that its steps read are lists: the registered computations, the waiting
callers and the results.  They agree with where each computation and each caller stands.

**Steps.**  A step moves one caller, one computation, or both.  `coherent_of_caller` is the move
of a caller, `coherent_of_stage` that of a computation before its answer, and a caller that starts
a computation first registers it and then waits for it.

**Results.**

* `Coherent` is what holds in every state.
* `coherent_step` carries it over one step and `coherent_of_leads` over a run.
* `Coherent.result?_eq_some` is what a waiting caller takes.
-/

namespace EntityTrust

variable {κ α ε : Type}

namespace Flights

theorem lookup_leave_waiting (f : Flights κ α ε) (caller c : Nat) :
    (f.leave caller).waiting.lookup c = if c = caller then none else f.waiting.lookup c := by
  simp only [leave, lookup_filter_fst (fun c => c != caller)]
  by_cases hc : c = caller <;> simp [hc]

theorem lookup_leave_results (f : Flights κ α ε) (caller number : Nat) :
    (f.leave caller).results.lookup number =
      if (f.leave caller).waiting.any (fun w => w.2 == number) then f.results.lookup number
      else none :=
  lookup_filter_fst (fun n => (f.leave caller).waiting.any fun w => w.2 == n) f.results number

/-- Results that a caller still waits for are kept. -/
theorem lookup_results_of_waiting {f : Flights κ α ε} {caller c number : Nat} (hc : c ≠ caller)
    (h : f.waiting.lookup c = some number) :
    (f.leave caller).results.lookup number = f.results.lookup number := by
  have hmem : (c, number) ∈ (f.leave caller).waiting :=
    mem_of_lookup (by rw [lookup_leave_waiting, if_neg hc, h])
  rw [lookup_leave_results, if_pos (List.any_eq_true.mpr ⟨_, hmem, by simp⟩)]

theorem lookup_results_of_leave {f : Flights κ α ε} {caller number : Nat} {result : Except ε α}
    (h : (f.leave caller).results.lookup number = some result) :
    f.results.lookup number = some result := by
  rw [lookup_leave_results] at h
  split at h
  · exact h
  · cases h

variable [DecidableEq κ]

theorem enter_of_registered {f : Flights κ α ε} {key : κ} {number : Nat} (caller : Nat)
    (h : f.underWay.lookup key = some number) :
    f.enter caller key =
      (.joined number, { f with waiting := f.waiting ++ [(caller, number)] }) := by
  simp [enter, h]

theorem enter_of_not_registered {f : Flights κ α ε} {key : κ} (caller : Nat)
    (h : f.underWay.lookup key = none) :
    f.enter caller key =
      (.started f.started,
        { f with
          underWay := (key, f.started) :: f.underWay
          started := f.started + 1
          waiting := f.waiting ++ [(caller, f.started)] }) := by
  simp [enter, h]

theorem enter_eq_joined {f : Flights κ α ε} {caller number : Nat} {key : κ} :
    (f.enter caller key).1 = .joined number ↔ f.underWay.lookup key = some number := by
  cases h : f.underWay.lookup key with
  | none => simp [enter_of_not_registered caller h]
  | some n => simp [enter_of_registered caller h]

theorem enter_eq_started {f : Flights κ α ε} {caller number : Nat} {key : κ} :
    (f.enter caller key).1 = .started number ↔
      f.underWay.lookup key = none ∧ number = f.started := by
  cases h : f.underWay.lookup key with
  | none => simp [enter_of_not_registered caller h, eq_comm]
  | some n => simp [enter_of_registered caller h]

theorem lookup_release (f : Flights κ α ε) (key k : κ) :
    (f.release key).underWay.lookup k = if k = key then none else f.underWay.lookup k := by
  simp only [release, lookup_filter_fst (fun k => k != key)]
  by_cases hk : k = key <;> simp [hk]

end Flights

/-- What the move of one computation does not change of that one it does not change of any. -/
theorem Stage.iff_update (p : Stage κ α ε → Prop) {f : Nat → Stage κ α ε} {n : Nat}
    {x : Stage κ α ε} (hx : p x ↔ p (f n)) (m : Nat) : p (Function.update f n x m) ↔ p (f m) := by
  by_cases hm : m = n
  · subst hm
    simpa using hx
  · simp [hm]

namespace Traffic

variable [DecidableEq κ]

/-- What holds in every state: the parts of a state that the steps read agree with where
computations and callers stand. -/
structure Coherent (s : Traffic κ α ε) : Prop where
  registered : ∀ key number,
    (s.stage number).UnderWay key ↔ s.flights.underWay.lookup key = some number
  fresh : ∀ number, s.stage number = .unstarted ↔ s.flights.started ≤ number
  waiting : ∀ caller number,
    s.flights.waiting.lookup caller = some number ↔ ∃ key, s.caller caller = .waiting key number
  joined : ∀ caller key number,
    s.caller caller = .waiting key number → (s.stage number).key? = some key
  answers : ∀ number result,
    s.flights.results.lookup number = some result → ∃ key, s.stage number = .answered key result
  kept : ∀ caller key number result,
    s.caller caller = .waiting key number → s.stage number = .answered key result →
      s.flights.results.lookup number = some result
  received : ∀ caller key number result,
    s.caller caller = .received key number result → s.stage number = .answered key result
  holder : ∀ caller, s.holder = some caller ↔ ∃ key, s.caller caller = .looked key

theorem coherent_ofStore (store : Store κ α) : Coherent (ofStore store : Traffic κ α ε) where
  registered := by simp [ofStore, Flights.ofStore, Stage.UnderWay]
  fresh := by simp [ofStore, Flights.ofStore]
  waiting := by simp [ofStore, Flights.ofStore]
  joined := by simp [ofStore]
  answers := by simp [ofStore, Flights.ofStore]
  kept := by simp [ofStore]
  received := by simp [ofStore]
  holder := by simp [ofStore]

section Coherence

variable {s t : Traffic κ α ε} {e : Event κ α ε}

/-- A caller moves, and with it at most its place among the waiting callers, the results that nobody
waits for any more, and the lock. -/
theorem coherent_of_caller (h : Coherent s) {c : Nat} {x : Caller κ α ε} {flights : Flights κ α ε}
    {holder : Option Nat}
    (underWay : flights.underWay = s.flights.underWay)
    (started : flights.started = s.flights.started)
    (others : ∀ d, d ≠ c → flights.waiting.lookup d = s.flights.waiting.lookup d)
    (own : ∀ number, flights.waiting.lookup c = some number ↔ ∃ key, x = .waiting key number)
    (answers : ∀ number result, flights.results.lookup number = some result →
      s.flights.results.lookup number = some result)
    (kept : ∀ d number, d ≠ c → s.flights.waiting.lookup d = some number →
      flights.results.lookup number = s.flights.results.lookup number)
    (joined : ∀ key number, x = .waiting key number → (s.stage number).UnderWay key)
    (received : ∀ key number result,
      x = .received key number result → s.stage number = .answered key result)
    (lock : ∀ d, holder = some d ↔ ∃ key, Function.update s.caller c x d = .looked key) :
    Coherent { s with
      flights := flights, holder := holder, caller := Function.update s.caller c x } where
  registered key number := by
    rw [underWay]
    exact h.registered key number
  fresh number := by
    rw [started]
    exact h.fresh number
  waiting d number := by
    by_cases hd : d = c
    · subst hd
      simpa using own number
    · simpa [hd, others d hd] using h.waiting d number
  joined d key number hd := by
    by_cases hdc : d = c
    · subst hdc
      have hway := joined key number (by simpa using hd)
      cases hstage : s.stage number <;> simp_all [Stage.UnderWay, Stage.key?]
    · exact h.joined d key number (by simpa [hdc] using hd)
  answers number result hr :=
    h.answers number result (answers number result hr)
  kept d key number result hd hstage := by
    by_cases hdc : d = c
    · subst hdc
      have hway := joined key number (by simpa using hd)
      have hstage : s.stage number = .answered key result := hstage
      simp [hstage, Stage.UnderWay] at hway
    · have hd : s.caller d = .waiting key number := by simpa [hdc] using hd
      have hwait := (h.waiting d number).mpr ⟨key, hd⟩
      rw [kept d number hdc hwait]
      exact h.kept d key number result hd hstage
  received d key number result hd := by
    by_cases hdc : d = c
    · subst hdc
      exact received key number result (by simpa using hd)
    · exact h.received d key number result (by simpa [hdc] using hd)
  holder := lock

/-- A computation moves on before its result is answered. -/
theorem coherent_of_stage (h : Coherent s) {n : Nat} {x : Stage κ α ε} {flights : Flights κ α ε}
    (started : flights.started = s.flights.started)
    (waiting : flights.waiting = s.flights.waiting)
    (results : flights.results = s.flights.results)
    (key : x.key? = (s.stage n).key?)
    (unstarted : x = .unstarted ↔ s.stage n = .unstarted)
    (answered : ∀ key result, x = .answered key result ↔ s.stage n = .answered key result)
    (registered : ∀ key number, (Function.update s.stage n x number).UnderWay key ↔
      flights.underWay.lookup key = some number) :
    Coherent { s with flights := flights, stage := Function.update s.stage n x } where
  registered := registered
  fresh m := by
    rw [started, ← h.fresh m]
    exact Stage.iff_update (· = .unstarted) unstarted m
  waiting := by
    rw [waiting]
    exact h.waiting
  joined c k m hc :=
    (Stage.iff_update (fun y => y.key? = some k) (by rw [key]) m).mpr (h.joined c k m hc)
  answers m r hr := by
    rw [results] at hr
    obtain ⟨k, hk⟩ := h.answers m r hr
    exact ⟨k, (Stage.iff_update (· = .answered k r) (answered k r) m).mpr hk⟩
  kept c k m r hc hm := by
    rw [results]
    exact h.kept c k m r hc ((Stage.iff_update (· = .answered k r) (answered k r) m).mp hm)
  received c k m r hc :=
    (Stage.iff_update (· = .answered k r) (answered k r) m).mpr (h.received c k m r hc)
  holder := h.holder

/-- No caller has looked while nobody holds the lock. -/
theorem Coherent.not_looked (h : Coherent s) (free : s.holder = none) (c : Nat) (key : κ) :
    s.caller c ≠ .looked key := by
  intro hc
  have := (h.holder c).mpr ⟨key, hc⟩
  simp [free] at this

/-- The only caller that has looked holds the lock. -/
theorem Coherent.eq_of_looked (h : Coherent s) {c d : Nat} {key k : κ}
    (hc : s.caller c = .looked key) (hd : s.caller d = .looked k) : d = c := by
  have hholder := (h.holder c).mpr ⟨key, hc⟩
  have hholder' := (h.holder d).mpr ⟨k, hd⟩
  simpa [hholder, eq_comm] using hholder'

/-- The lock is free after the move of a caller that ends up without it. -/
theorem Coherent.free_iff (h : Coherent s) {c : Nat} {x : Caller κ α ε}
    (hx : ∀ key, x ≠ .looked key) (free : s.holder = none ∨ ∃ key, s.caller c = .looked key)
    (d : Nat) :
    (none : Option Nat) = some d ↔ ∃ key, Function.update s.caller c x d = .looked key := by
  constructor
  · intro hd
    cases hd
  · rintro ⟨key, hd⟩
    by_cases hdc : d = c
    · subst hdc
      exact absurd (by simpa using hd) (hx key)
    · have hd : s.caller d = .looked key := by simpa [hdc] using hd
      rcases free with free | ⟨k, hc⟩
      · exact absurd hd (h.not_looked free d key)
      · exact absurd (h.eq_of_looked hc hd) hdc

/-- A caller that does not wait is not among the waiting callers. -/
theorem Coherent.lookup_waiting_eq_none (h : Coherent s) {c : Nat}
    (hc : ∀ key number, s.caller c ≠ .waiting key number) :
    s.flights.waiting.lookup c = none := by
  cases hl : s.flights.waiting.lookup c with
  | none => rfl
  | some number =>
      obtain ⟨key, hw⟩ := (h.waiting c number).mp hl
      exact absurd hw (hc key number)

theorem coherent_found (h : Coherent s) {c now : Nat} {key : κ} {value : α}
    (free : s.holder = none) (absent : s.caller c = .absent) :
    Coherent { s with
      flights := (s.flights.lookUp key now).2
      caller := Function.update s.caller c (.served key value) } :=
  coherent_of_caller h rfl rfl (fun _ _ => rfl)
    (by simp [Flights.lookUp, h.lookup_waiting_eq_none (c := c) (by simp [absent])])
    (fun _ _ hr => hr) (fun _ _ _ _ => rfl) (by simp) (by simp)
    (by rw [free]; exact h.free_iff (by simp) (.inl free))

theorem coherent_missed (h : Coherent s) {c now : Nat} {key : κ}
    (free : s.holder = none) (absent : s.caller c = .absent) :
    Coherent { s with
      flights := (s.flights.lookUp key now).2
      holder := some c
      caller := Function.update s.caller c (.looked key) } := by
  refine coherent_of_caller h rfl rfl (fun _ _ => rfl)
    (by simp [Flights.lookUp, h.lookup_waiting_eq_none (c := c) (by simp [absent])])
    (fun _ _ hr => hr) (fun _ _ _ _ => rfl) (by simp) (by simp) ?_
  intro d
  by_cases hd : d = c
  · subst hd
    simp
  · have hnot : ∀ k, s.caller d ≠ .looked k := h.not_looked free d
    simp [hd, hnot, Ne.symm hd]

/-- A caller with the lock comes to wait for a computation that is under way for its key. -/
theorem coherent_waits (h : Coherent s) {c number : Nat} {key : κ}
    (looked : s.caller c = .looked key) (underWay : (s.stage number).UnderWay key) :
    Coherent { s with
      flights := { s.flights with waiting := s.flights.waiting ++ [(c, number)] }
      holder := none
      caller := Function.update s.caller c (.waiting key number) } := by
  have hnone := h.lookup_waiting_eq_none (c := c) (by simp [looked])
  refine coherent_of_caller h rfl rfl ?_ ?_ (fun _ _ hr => hr) (fun _ _ _ _ => rfl) ?_ (by simp)
    (h.free_iff (by simp) (.inr ⟨key, looked⟩))
  · intro d hd
    have hne : (d == c) = false := by simpa using hd
    simp [List.lookup_append, List.lookup_cons, hne]
  · intro m
    simp [List.lookup_append, hnone]
  · intro k m hx
    cases hx
    exact underWay

/-- A caller with the lock registers a new computation of its key. -/
theorem coherent_registers (h : Coherent s) {key : κ}
    (none : s.flights.underWay.lookup key = none) :
    Coherent { s with
      flights := { s.flights with
        underWay := (key, s.flights.started) :: s.flights.underWay
        started := s.flights.started + 1 }
      stage := Function.update s.stage s.flights.started (.computing key) } := by
  -- The next number belongs to no computation yet, so nothing in the state speaks of it.
  have hunstarted : s.stage s.flights.started = .unstarted := (h.fresh _).mpr (Nat.le_refl _)
  exact
    { registered := by
        intro k m
        by_cases hm : m = s.flights.started
        · subst hm
          by_cases hk : k = key
          · subst hk
            simp [Stage.UnderWay]
          · have hne : (k == key) = false := by simpa using hk
            have hnot : ¬ s.flights.underWay.lookup k = some s.flights.started := by
              rw [← h.registered k, hunstarted]
              simp [Stage.UnderWay]
            simp [Stage.UnderWay, List.lookup_cons, hne, hnot, Ne.symm hk]
        · by_cases hk : k = key
          · subst hk
            have hnot := (h.registered k m).not.mpr (by simp [none])
            simp [hm, hnot, Ne.symm hm]
          · have hne : (k == key) = false := by simpa using hk
            simpa [hm, List.lookup_cons, hne] using h.registered k m
      fresh := by
        intro m
        by_cases hm : m = s.flights.started
        · subst hm
          simp
        · have := h.fresh m
          simp only [ne_eq, hm, not_false_eq_true, Function.update_of_ne, this]
          omega
      waiting := h.waiting
      joined := by
        intro c k m hc
        have hkey := h.joined c k m hc
        have hm : m ≠ s.flights.started := by
          rintro rfl
          simp [hunstarted, Stage.key?] at hkey
        simpa [hm] using hkey
      answers := by
        intro m r hr
        obtain ⟨k, hk⟩ := h.answers m r hr
        exact ⟨k, (Stage.iff_update (· = .answered k r) (by simp [hunstarted]) m).mpr hk⟩
      kept := by
        intro c k m r hc hm
        exact h.kept c k m r hc
          ((Stage.iff_update (· = .answered k r) (by simp [hunstarted]) m).mp hm)
      received := by
        intro c k m r hc
        exact (Stage.iff_update (· = .answered k r) (by simp [hunstarted]) m).mpr
          (h.received c k m r hc)
      holder := h.holder }

theorem coherent_settled (h : Coherent s) {n now : Nat} {key : κ} {result : Except ε α}
    (computing : s.stage n = .computing key) :
    Coherent { s with
      flights := s.flights.settle key result now
      stage := Function.update s.stage n (.settled key result) } := by
  refine coherent_of_stage h rfl rfl rfl (by simp [computing, Stage.key?]) (by simp [computing])
    (by simp [computing]) ?_
  intro k m
  rw [show (s.flights.settle key result now).underWay = s.flights.underWay from rfl,
    ← h.registered k m]
  exact Stage.iff_update (Stage.UnderWay k) (by simp [computing, Stage.UnderWay]) m

theorem coherent_released (h : Coherent s) {n : Nat} {key : κ} {result : Except ε α}
    (settled : s.stage n = .settled key result) :
    Coherent { s with
      flights := s.flights.release key
      stage := Function.update s.stage n (.released key result) } := by
  -- The registration that is dropped by its key is the one of this computation.
  have hown : s.flights.underWay.lookup key = some n :=
    (h.registered key n).mp (by simp [settled, Stage.UnderWay])
  refine coherent_of_stage h rfl rfl rfl (by simp [settled, Stage.key?]) (by simp [settled])
    (by simp [settled]) ?_
  intro k m
  rw [Flights.lookup_release]
  by_cases hm : m = n
  · subst hm
    by_cases hk : k = key
    · simp [hk, Stage.UnderWay]
    · have hnot := (h.registered k m).not.mp (by simp [settled, Stage.UnderWay, Ne.symm hk])
      simp [hk, hnot, Stage.UnderWay]
  · by_cases hk : k = key
    · subst hk
      have hnot := (h.registered k m).not.mpr (by simp [hown, Ne.symm hm])
      simp [hm, hnot]
    · simpa [hm, hk] using h.registered k m

theorem coherent_answered (h : Coherent s) {n : Nat} {key : κ} {result : Except ε α}
    (released : s.stage n = .released key result) :
    Coherent { s with
      flights := s.flights.answer n result
      stage := Function.update s.stage n (.answered key result) } where
  registered k m := by
    rw [show (s.flights.answer n result).underWay = s.flights.underWay from rfl, ← h.registered k m]
    exact Stage.iff_update (Stage.UnderWay k) (by simp [released, Stage.UnderWay]) m
  fresh m := by
    rw [show (s.flights.answer n result).started = s.flights.started from rfl, ← h.fresh m]
    exact Stage.iff_update (· = .unstarted) (by simp [released]) m
  waiting := h.waiting
  joined c k m hc :=
    (Stage.iff_update (fun y => y.key? = some k) (by simp [released, Stage.key?]) m).mpr
      (h.joined c k m hc)
  answers m r hr := by
    by_cases hm : m = n
    · subst hm
      have hresult : result = r := by simpa [Flights.answer] using hr
      exact ⟨key, by simp [hresult]⟩
    · have hne : (m == n) = false := by simpa using hm
      obtain ⟨k, hk⟩ := h.answers m r (by simpa [Flights.answer, List.lookup_cons, hne] using hr)
      exact ⟨k, by simpa [hm] using hk⟩
  kept c k m r hc hstage := by
    by_cases hm : m = n
    · subst hm
      have hresult : key = k ∧ result = r := by simpa using hstage
      simp [Flights.answer, hresult.2]
    · have hne : (m == n) = false := by simpa using hm
      have hkept := h.kept c k m r hc (by simpa [hm] using hstage)
      simpa [Flights.answer, List.lookup_cons, hne] using hkept
  received c k m r hc := by
    have hstage := h.received c k m r hc
    have hm : m ≠ n := by
      rintro rfl
      simp [released] at hstage
    simpa [hm] using hstage
  holder := h.holder

/-- A waiting caller stops waiting. -/
theorem coherent_leaves (h : Coherent s) {c number : Nat} {key : κ} {x : Caller κ α ε}
    (waiting : s.caller c = .waiting key number) (idle : ∀ k m, x ≠ .waiting k m)
    (unlocked : ∀ k, x ≠ .looked k)
    (received : ∀ k m r, x = .received k m r → s.stage m = .answered k r) :
    Coherent { s with
      flights := s.flights.leave c
      caller := Function.update s.caller c x } := by
  refine coherent_of_caller h rfl rfl ?_ ?_ (fun _ _ => Flights.lookup_results_of_leave)
    (fun _ _ => Flights.lookup_results_of_waiting) ?_ received ?_
  · intro d hd
    rw [Flights.lookup_leave_waiting, if_neg hd]
  · intro m
    rw [Flights.lookup_leave_waiting, if_pos rfl]
    simp [idle]
  · intro k m hx
    exact absurd hx (idle k m)
  · intro d
    rw [h.holder d]
    by_cases hd : d = c
    · subst hd
      simp [waiting, unlocked]
    · simp [hd]

/-- The answer that a waiting caller can take is the result of its computation. -/
theorem Coherent.result?_eq_some (h : Coherent s) {c number : Nat} {key : κ} {result : Except ε α}
    (waiting : s.caller c = .waiting key number) :
    s.flights.result? c = some result ↔ s.stage number = .answered key result := by
  have hlookup := (h.waiting c number).mpr ⟨key, waiting⟩
  simp only [Flights.result?, hlookup, Option.bind_some]
  constructor
  · intro hr
    obtain ⟨k, hk⟩ := h.answers number result hr
    have hkey := h.joined c key number waiting
    rw [hk] at hkey
    cases hkey
    exact hk
  · exact h.kept c key number result waiting

/-- One step keeps a state coherent. -/
theorem coherent_step (h : Coherent s) (hstep : Step s e t) : Coherent t := by
  cases hstep with
  | found free absent live => exact coherent_found h free absent
  | missed free absent dead => exact coherent_missed h free absent
  | joined looked admitted =>
      have hlookup := Flights.enter_eq_joined.mp admitted
      rw [Flights.enter_of_registered _ hlookup]
      exact coherent_waits h looked ((h.registered _ _).mpr hlookup)
  | started looked admitted =>
      obtain ⟨hlookup, rfl⟩ := Flights.enter_eq_started.mp admitted
      rw [Flights.enter_of_not_registered _ hlookup]
      exact coherent_waits (coherent_registers h hlookup) looked (by simp [Stage.UnderWay])
  | resumed waiting computing => exact h
  | settled result now waiting computing => exact coherent_settled h computing
  | released free settled => exact coherent_released h settled
  | answered released => exact coherent_answered h released
  | received waiting answer =>
      have hanswered := (h.result?_eq_some waiting).mp answer
      refine coherent_leaves h waiting (by simp) (by simp) ?_
      intro k m r hx
      cases hx
      exact hanswered
  | cancelled waiting => exact coherent_leaves h waiting (by simp) (by simp) (by simp)
  | operated operation => exact { h with }

/-- Every state that a run reaches is coherent. -/
theorem coherent_of_leads (h : Coherent s) (hrun : Leads s t) : Coherent t :=
  hrun.invariant h coherent_step

end Coherence

end Traffic
end EntityTrust
