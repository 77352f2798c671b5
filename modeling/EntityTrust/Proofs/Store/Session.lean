import EntityTrust.Store.Timeline

/-!
# Calls one after the other

A session makes calls on a timeline, each when the one before has ended.

**Rounds.**  Each call is a round of its own (`Timeline.run`) with one task.  A caller that starts a
computation waits for it: the clock jumps to the end of the computation, and the caller takes the
result there.  So after each call nothing is under way (`run_quiet`), and what it did is its
`Action.effect`.

**Calls.**  `session` records each call with the store that it met, what it answered, and when it
began and ended.  `session_cons` is the step, and `session_invariant` carries along a session what
each call keeps.
-/

namespace EntityTrust

variable {κ α ε : Type}

/-- What a call gives and leaves behind. -/
structure Effect (κ α ε : Type) where
  outcome : Outcome α ε
  ended : Nat
  store : Store κ α

/-- What a call does when nothing happens beside it. -/
def Action.effect [DecidableEq κ] (s : Store κ α) (now : Nat) : Action κ α ε → Effect κ α ε
  | .advance nanos => ⟨.done, now + nanos, s⟩
  | .find key => ⟨.value (s.find key now).1, now, (s.find key now).2⟩
  | .insert key value => ⟨.done, now, s.insert key value now⟩
  | .remove key => ⟨.value (s.remove key).1, now, (s.remove key).2⟩
  | .evictExpired => ⟨.done, now, s.evictExpired now⟩
  | .clear => ⟨.done, now, s.clear⟩
  | .trim size => ⟨.done, now, s.trim size⟩
  | .resize size => ⟨.done, now, s.resize size⟩
  | .obtain key takes result _ =>
      match s.find key now with
      | (some value, found) => ⟨.obtained (.ok value) false, now, found⟩
      | (none, missed) =>
          ⟨.obtained result true, now + takes,
            Flights.storeResult missed key (now + takes) result⟩

theorem Action.effect_found [DecidableEq κ] {s found : Store κ α} {key : κ} {now takes : Nat}
    {value : α} {result : Except ε α} {patience : Option Nat}
    (h : s.find key now = (some value, found)) :
    (Action.obtain key takes result patience).effect s now =
      ⟨.obtained (.ok value) false, now, found⟩ := by
  simp [effect, h]

theorem Action.effect_missed [DecidableEq κ] {s missed : Store κ α} {key : κ} {now takes : Nat}
    {result : Except ε α} {patience : Option Nat} (h : s.find key now = (none, missed)) :
    (Action.obtain key takes result patience).effect s now =
      ⟨.obtained result true, now + takes,
        Flights.storeResult missed key (now + takes) result⟩ := by
  simp [effect, h]

/-- A call waits until it has its result. -/
def Action.Patient : Action κ α ε → Prop
  | .obtain _ _ _ patience => patience = none
  | _ => True

/-- A call of a session. -/
structure Call (κ α ε : Type) where
  begun : Nat
  before : Store κ α
  action : Action κ α ε
  outcome : Option (Outcome α ε)
  ended : Nat

namespace Timeline

section Rounds

variable {now due begun n : Nat} {store store' : Store κ α} {key : κ} {takes : Nat}
  {value : α} {result : Except ε α} {a : Action κ α ε} {timers : List Timer}

/-- A timeline on which nothing is under way. -/
def quiet (now : Nat) (store : Store κ α) (started : Nat) : Timeline κ α ε :=
  ⟨now, ⟨store, [], started, [], []⟩, [], []⟩

/-- The round of a single task that has just started. -/
def alone (line : Timeline κ α ε) : Round κ α ε :=
  ⟨line, line.now, [], [], [], [], []⟩

/-- The round of a caller that waits for a computation which it has started. -/
def driving (now due begun : Nat) (store : Store κ α) (n : Nat) (key : κ) (result : Except ε α)
    (timers : List Timer) (ready : List Nat) : Round κ α ε :=
  ⟨⟨now, ⟨store, [(key, n)], n + 1, [(0, n)], []⟩, [⟨n, key, due, result⟩], timers⟩,
    begun, [], ready, [], [0], []⟩

/-- The round in which a computation has ended with its caller. -/
def driven (now begun : Nat) (store : Store κ α) (n : Nat) (result : Except ε α) : Round κ α ε :=
  ⟨quiet now store (n + 1), begun, [], [], [], [0],
    [(0, ⟨.obtained result true, now - begun, store.size⟩)]⟩

theorem withTimer_due {wake : Wake} (h : due ≤ now) :
    (driving now due begun store n key result [] []).withTimer due wake =
      driving now due begun store n key result [] [] :=
  if_pos h

theorem withTimer_early {wake : Wake} (h : now < due) :
    (driving now due begun store n key result [] []).withTimer due wake =
      driving now due begun store n key result [⟨due, wake⟩] [] :=
  if_neg (Nat.not_le.mpr h)

variable [DecidableEq κ]

theorem perform_found (h : store.find key now = (some value, store')) :
    (quiet now store n).alone.perform 0 (.obtain key takes result none) =
      (quiet now store' n).alone.report 0 (.obtained (.ok value) false) := by
  simp [Round.perform, Round.enter, Flights.arrive, Flights.lookUp, alone, quiet, h]

theorem perform_missed (h : store.find key now = (none, store')) :
    (quiet now store n).alone.perform 0 (.obtain key takes result none) =
      ((driving now (now + takes) now store' n key result [] []).withTimer (now + takes)
        (.computation n)).look 0 := by
  simp [Round.perform, Round.enter, Flights.arrive, Flights.lookUp, Flights.enter, alone, quiet,
    driving, h]

theorem look_due (h : due ≤ now) :
    (driving now due begun store n key result [] []).look 0 =
      driven now begun (Flights.storeResult store key now result) n result := by
  simp [Round.look, driving, driven, quiet, Round.report, Flights.result?, Flights.complete,
    Flights.settle, Flights.release, Flights.answer, Flights.leave, h]

theorem look_early (h : now < due) :
    (driving now due begun store n key result timers []).look 0 =
      driving now due begun store n key result timers [] := by
  simp [Round.look, driving, Flights.result?, Nat.not_le.mpr h]

theorem move_early (h : now < due) :
    (driving now due begun store n key result [⟨due, .computation n⟩] []).move =
      driving due due begun store n key result [] [0] := by
  have hmax : max now due = due := by omega
  simp [Round.move, Round.jump, Round.awaken, Round.woken, Flights.callersOf, driving, hmax]

theorem move_due :
    (driving due due begun store n key result [] [0]).move =
      driven due begun (Flights.storeResult store key due result) n result := by
  rw [← look_due (Nat.le_refl due)]
  rfl

theorem finish_succ {r : Round κ α ε} {m : Nat} (h : r.reports = []) :
    r.finish 1 (m + 1) = r.move.finish 1 m := by
  simp [Round.finish, h]

theorem finish_driven {m : Nat} :
    (driven now begun store n result).finish 1 m = driven now begun store n result := by
  cases m <;> rfl

/-- A caller that starts a computation is there when it ends. -/
theorem finish_missed (h : store.find key now = (none, store')) :
    ((quiet now store n).alone.perform 0 (.obtain key takes result none)).finish 1 11 =
      driven (now + takes) now (Flights.storeResult store' key (now + takes) result) n result := by
  rw [perform_missed h]
  rcases Nat.eq_zero_or_pos takes with rfl | hpos
  · rw [Nat.add_zero, withTimer_due (Nat.le_refl now), look_due (Nat.le_refl now), finish_driven]
  · -- The look finds nothing, the clock jumps, and the next look ends the computation.
    have hearly : now < now + takes := Nat.lt_add_of_pos_right hpos
    rw [withTimer_early hearly, look_early hearly]
    rw [finish_succ rfl, move_early hearly, finish_succ rfl, move_due, finish_driven]

theorem run_of_finish {r : Round κ α ε} {later m : Nat} {report : Report α ε}
    (h : ((quiet now store n).alone.perform 0 a).finish 1 11 = r)
    (hreports : r.reports = [(0, report)]) (hline : r.line = quiet later store' m) :
    (quiet now store n).run [⟨0, a⟩] = ([report], quiet later store' m) := by
  -- A single task on a quiet timeline has twelve moves, and the first of them starts it.
  have hrun : (quiet now store n).run [⟨0, a⟩] =
      ((List.range 1).filterMap fun i => r.reports.lookup i,
        { r.line with timers := r.line.timers.filter r.line.timesComputation }) := by
    rw [← h]
    rfl
  rw [hrun, hreports, hline]
  rfl

/-- A call beside which nothing happens has its effect and leaves nothing under way. -/
theorem run_quiet (now : Nat) (store : Store κ α) (n : Nat) (h : a.Patient) :
    ∃ m, (quiet now store n).run [⟨0, a⟩] =
      ([⟨(a.effect store now).outcome, (a.effect store now).ended - now,
          (a.effect store now).store.size⟩],
        quiet (a.effect store now).ended (a.effect store now).store m) := by
  cases a with
  | obtain key takes result patience =>
      obtain rfl : patience = none := h
      rcases hfind : store.find key now with ⟨_ | value, store'⟩
      · rw [Action.effect_missed hfind]
        exact ⟨n + 1, run_of_finish (finish_missed hfind) rfl rfl⟩
      · rw [Action.effect_found hfind]
        exact ⟨n, run_of_finish (by rw [perform_found hfind]) rfl rfl⟩
  | _ => exact ⟨n, rfl⟩

end Rounds

variable [DecidableEq κ]

/-- Makes calls one after the other; answers them and the timeline at the end. -/
def session (line : Timeline κ α ε) :
    List (Action κ α ε) → List (Call κ α ε) × Timeline κ α ε
  | [] => ([], line)
  | a :: rest =>
      let (reports, next) := line.run [⟨0, a⟩]
      let (calls, last) := next.session rest
      (⟨line.now, line.flights.store, a, reports.head?.map Report.outcome, next.now⟩ :: calls, last)

/-- The call of an action on a store beside which nothing happens. -/
def callOn (store : Store κ α) (now : Nat) (a : Action κ α ε) : Call κ α ε :=
  ⟨now, store, a, some (a.effect store now).outcome, (a.effect store now).ended⟩

theorem session_cons (now : Nat) (store : Store κ α) (n : Nat) {a : Action κ α ε}
    (h : a.Patient) (rest : List (Action κ α ε)) :
    ∃ m, (quiet now store n).session (a :: rest) =
      (callOn store now a ::
          ((quiet (a.effect store now).ended (a.effect store now).store m).session rest).1,
        ((quiet (a.effect store now).ended (a.effect store now).store m).session rest).2) := by
  obtain ⟨m, hrun⟩ := run_quiet now store n h
  refine ⟨m, ?_⟩
  simp only [session, hrun]
  rfl

/-- What each call of a kind keeps holds after a session of such calls if it holds before. -/
theorem session_invariant {P : Nat → Store κ α → List (Call κ α ε) → Prop}
    {kind : Action κ α ε → Prop} {among : Call κ α ε → Prop} (past : List (Call κ α ε))
    (patient : ∀ {a}, kind a → a.Patient)
    (keeps : ∀ {now store past a}, kind a → among (callOn store now a) → P now store past →
      P (a.effect store now).ended (a.effect store now).store (past ++ [callOn store now a]))
    {actions : List (Action κ α ε)} (hkind : ∀ a ∈ actions, kind a) {now n : Nat}
    {store : Store κ α}
    (hamong : ∀ c ∈ ((quiet now store n).session actions).1, among c)
    (before : P now store past) :
    ∃ later store' m, ((quiet now store n).session actions).2 = quiet later store' m ∧
      P later store' (past ++ ((quiet now store n).session actions).1) := by
  induction actions generalizing now store n past with
  | nil => exact ⟨now, store, n, rfl, by simpa [session] using before⟩
  | cons a rest ih =>
      have ha := hkind a List.mem_cons_self
      obtain ⟨m, hcons⟩ := session_cons now store n (patient ha) rest
      rw [hcons] at hamong ⊢
      have hnext := keeps ha (hamong _ List.mem_cons_self) before
      obtain ⟨later, store', m', hlast, hP⟩ := ih _ (fun b hb => hkind b (List.mem_cons_of_mem a hb))
        (fun c hc => hamong c (List.mem_cons_of_mem _ hc)) hnext
      exact ⟨later, store', m', hlast, by simpa using hP⟩

end Timeline
end EntityTrust
