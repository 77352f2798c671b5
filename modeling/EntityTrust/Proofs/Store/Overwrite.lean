import EntityTrust.Fetch.Client
import EntityTrust.Proofs.Store.Entries
import EntityTrust.Proofs.Store.SingleFlight

/-!
# How long a write lasts

A write and the computations of its key know nothing of each other.

**Entries.**  `Holds` says that a store has the entry of a write, and `Loses` lists what takes the
value of a key away.  `holds_or_loses` is the step lemma: an operation keeps the entry of a write
unless it is one of those.

**Runs.**  `Lost` is such an operation somewhere on a run.  A computation that was under way at the
write is among the causes: whatever it comes to later replaces the written value, and only a failure
leaves it (`Lasting.completed`).

**Forced requests.**  `WritesBack` says what a forced request does to a store.  Its last access is
the same write that callers make themselves, so all this holds of it too.
-/

namespace EntityTrust

variable {κ α ε : Type} [DecidableEq κ]

theorem Operation.distinct_apply (op : Operation κ α) {s : Store κ α} (h : s.Distinct) :
    (op.apply s).Distinct := by
  cases op with
  | find key now => exact Store.distinct_find h
  | insert key value now => exact Store.distinct_insert h
  | remove key => exact Store.distinct_remove h
  | evictExpired now => exact Store.distinct_evictExpired h
  | clear => exact Store.distinct_empty s.settings
  | trim size => exact Store.distinct_of_sublist h (Store.trim_sublist s size)
  | resize size => exact Store.distinct_of_sublist h (Store.trim_sublist _ size)

namespace Store

variable {s : Store κ α} {key : κ} {value : α} {written now : Nat}

/-- A store has the entry of a write. -/
def Holds (s : Store κ α) (key : κ) (value : α) (written : Nat) : Prop :=
  ∃ e ∈ s.entries, e.key = key ∧ e.value = value ∧ e.written = written

/-- An operation takes the value of a key away. -/
inductive Loses (s : Store κ α) (key : κ) : Operation κ α → Prop
  /-- The key is written again. -/
  | overwritten (value : α) (now : Nat) : Loses s key (.insert key value now)
  /-- The entry has to give way to that of another key. -/
  | crowded {k : κ} {value : α} {now : Nat} (other : k ≠ key)
      (full : Drops { s with entries := without k s.entries ++ [⟨k, value, now, now⟩] }
        s.settings.maxSize key) : Loses s key (.insert k value now)
  | removed : Loses s key (.remove key)
  | cleared : Loses s key .clear
  | trimmed {size : Nat} (small : s.Drops size key) : Loses s key (.trim size)
  | resized {size : Nat} (small : s.Drops size key) : Loses s key (.resize size)
  | dropped {now : Nat} (expired : s.Expired key now) : Loses s key (.find key now)
  | swept {now : Nat} (expired : s.Expired key now) : Loses s key (.evictExpired now)

theorem holds_insert (room : 0 < s.settings.maxSize) :
    Holds (s.insert key value now) key value now := by
  have hentry := entry?_insert s key value now room
  obtain ⟨hmem, -⟩ := mem_of_entry? hentry
  exact ⟨_, hmem, rfl, rfl, rfl⟩

theorem holds_find (h : Distinct s) (k : κ) (now : Nat) (holds : Holds s key value written) :
    Holds (s.find k now).2 key value written ∨ k = key ∧ s.Expired key now := by
  obtain ⟨e, he, rfl, rfl, rfl⟩ := holds
  rcases find_cases s k now with ⟨hnone, hfind⟩ | ⟨d, hd, hkey, ⟨hexpired, hfind⟩ | ⟨hlive, hfind⟩⟩
  · rw [hfind]
    exact .inl ⟨e, he, rfl, rfl, rfl⟩
  · by_cases hk : e.key = k
    · exact .inr ⟨hk.symm, d, hd, hkey.trans hk.symm, hexpired⟩
    · rw [hfind]
      exact .inl ⟨e, mem_without.mpr ⟨he, hk⟩, rfl, rfl, rfl⟩
  · rw [hfind]
    by_cases hk : e.key = k
    · obtain rfl := h.eq_of_mem he hd (hk.trans hkey.symm)
      exact .inl ⟨{ e with accessed := now }, by simp, rfl, rfl, rfl⟩
    · exact .inl ⟨e, List.mem_append_left _ (mem_without.mpr ⟨he, hk⟩), rfl, rfl, rfl⟩

/-- An operation keeps the entry of a write or takes the value of its key away. -/
theorem holds_or_loses (h : Distinct s) (holds : Holds s key value written) (op : Operation κ α) :
    Holds (op.apply s) key value written ∨ Loses s key op := by
  cases op with
  | find k now =>
      rcases holds_find h k now holds with hkept | ⟨rfl, hexpired⟩
      · exact .inl hkept
      · exact .inr (.dropped hexpired)
  | insert k v now =>
      by_cases hk : k = key
      · subst hk
        exact .inr (.overwritten v now)
      obtain ⟨e, he, rfl, rfl, rfl⟩ := holds
      have hmem : e ∈ without k s.entries ++ [⟨k, v, now, now⟩] :=
        List.mem_append_left _ (mem_without.mpr ⟨he, Ne.symm hk⟩)
      by_cases hkept : e ∈ (s.insert k v now).entries
      · exact .inl ⟨e, hkept, rfl, rfl, rfl⟩
      · exact .inr (.crowded hk (drops_of_not_mem hmem hkept))
  | remove k =>
      by_cases hk : k = key
      · subst hk
        exact .inr .removed
      obtain ⟨e, he, rfl, rfl, rfl⟩ := holds
      exact .inl ⟨e, mem_without.mpr ⟨he, Ne.symm hk⟩, rfl, rfl, rfl⟩
  | evictExpired now =>
      obtain ⟨e, he, rfl, rfl, rfl⟩ := holds
      cases hexpired : s.settings.expired now e with
      | false => exact .inl ⟨e, mem_evictExpired.mpr ⟨he, hexpired⟩, rfl, rfl, rfl⟩
      | true => exact .inr (.swept ⟨e, he, rfl, hexpired⟩)
  | clear => exact .inr .cleared
  | trim size =>
      obtain ⟨e, he, rfl, rfl, rfl⟩ := holds
      by_cases hkept : e ∈ (s.trim size).entries
      · exact .inl ⟨e, hkept, rfl, rfl, rfl⟩
      · exact .inr (.trimmed (drops_of_not_mem he hkept))
  | resize size =>
      obtain ⟨e, he, rfl, rfl, rfl⟩ := holds
      by_cases hkept : e ∈ (s.trim size).entries
      · exact .inl ⟨e, hkept, rfl, rfl, rfl⟩
      · exact .inr (.resized (drops_of_not_mem he hkept))

/-- The value of a write is answered unless its entry is expired. -/
theorem Distinct.find_of_holds (h : Distinct s) (holds : Holds s key value written) (now : Nat) :
    (s.find key now).1 = some value ∨ s.Expired key now := by
  obtain ⟨e, he, hkey, hvalue, -⟩ := holds
  cases hexpired : s.settings.expired now e with
  | false => exact .inl (h.find_eq_some.mpr ⟨e, he, hkey, hexpired, hvalue⟩)
  | true => exact .inr ⟨e, he, hkey, hexpired⟩

end Store

namespace Fetch.Client

/-- What a forced request does to a store: a look-up at most, and then the write of its success. -/
def WritesBack {σ : Type} (c : Client (StateM σ)) (url : String) (pages : Pages) (world : σ) :
    Prop :=
  ∃ earlier, (earlier = pages ∨ ∃ now, earlier = pages.onStore (Operation.find url now).apply) ∧
    match (((c.refresh url).run pages).run world).1 with
    | (.ok fresh, later) => ∃ now, later = earlier.onStore (Operation.insert url fresh now).apply
    | (.error _, later) => later = earlier

variable {σ : Type} (c : Client (StateM σ)) (url : String)

theorem run_bind {α β : Type} (x : Fetching (StateM σ) α) (f : α → Fetching (StateM σ) β)
    (pages : Pages) (world : σ) :
    ((x >>= f).run pages).run world =
      ((f ((x.run pages).run world).1.1).run ((x.run pages).run world).1.2).run
        ((x.run pages).run world).2 :=
  rfl

theorem run_stored (pages : Pages) (world : σ) :
    ∃ found now world', ((c.stored url).run pages).run world =
      ((found, pages.onStore (Operation.find url now).apply), world') :=
  ⟨_, _, _, rfl⟩

theorem run_remote (previous : Option Fetched) (pages : Pages) (world : σ) :
    ∃ result world', ((c.remote url previous).run pages).run world = ((result, pages), world') :=
  ⟨_, _, rfl⟩

theorem run_keep (statement : Fetched) (pages : Pages) (world : σ) :
    ∃ now world', ((c.keep url statement).run pages).run world =
      (((), pages.onStore (Operation.insert url statement now).apply), world') :=
  ⟨_, _, rfl⟩

/-- After the previous statement has been read, only a success touches the store. -/
theorem writes_of_remote (previous : Option Fetched) (earlier : Pages) (world : σ) :
    match ((((do
        match ← c.remote url previous with
        | .ok fresh => do
            c.keep url fresh
            pure (.ok fresh)
        | .error e => pure (.error e)) :
      Fetching (StateM σ) (Except FetchError Fetched)).run earlier).run world).1 with
    | (.ok fresh, later) => ∃ now, later = earlier.onStore (Operation.insert url fresh now).apply
    | (.error _, later) => later = earlier := by
  obtain ⟨result, world', hremote⟩ := c.run_remote url previous earlier world
  rw [run_bind, hremote]
  cases result with
  | ok fresh =>
      obtain ⟨now, world'', hkeep⟩ := c.run_keep url fresh earlier world'
      simp only [run_bind, hkeep]
      exact ⟨now, rfl⟩
  | error e => rfl

theorem writesBack (pages : Pages) (world : σ) : c.WritesBack url pages world := by
  unfold WritesBack refresh
  cases c.settings.validate with
  | true =>
      obtain ⟨found, now, world', hstored⟩ := c.run_stored url pages world
      refine ⟨_, .inr ⟨now, rfl⟩, ?_⟩
      rw [if_pos rfl, run_bind, hstored]
      exact c.writes_of_remote url found _ world'
  | false => exact ⟨pages, .inl rfl, c.writes_of_remote url none pages world⟩

end Fetch.Client

namespace Traffic

section Writes

variable {o s t a : Traffic κ α ε} {key : κ} {value : α} {written n : Nat}

theorem distinct_of_leads (h : o.flights.store.Distinct) (hrun : Leads o s) :
    s.flights.store.Distinct :=
  hrun.store_invariant h fun op _ => op.distinct_apply

/-- A step on the way from one state to another takes the value of a key away. -/
def Lost (s t : Traffic κ α ε) (key : κ) : Prop :=
  ∃ a e b op, Leads s a ∧ Step a e b ∧ Leads b t ∧ Touches a e op ∧ a.flights.store.Loses key op

theorem holds_or_lost (h : s.flights.store.Distinct) (hrun : Leads s t)
    (holds : s.flights.store.Holds key value written) :
    t.flights.store.Holds key value written ∨ Lost s t key := by
  by_cases after : t.flights.store.Holds key value written
  · exact .inl after
  -- The step in which the entry went is the last one that found it there.
  obtain ⟨a, e, b, ha, hstep, hb, hbefore, hgone⟩ :=
    hrun.exists_step (P := fun u => ¬ u.flights.store.Holds key value written)
      (not_not.mpr holds) after
  have hholds := not_not.mp hbefore
  rcases hstep.touches with heq | ⟨op, htouches, heq⟩
  · exact absurd (heq ▸ hholds) hgone
  rcases Store.holds_or_loses (distinct_of_leads h ha) hholds op with hkept | hloses
  · exact absurd (heq ▸ hkept) hgone
  · exact .inr ⟨a, e, b, op, ha, hstep, hb, htouches, hloses⟩

theorem completed_of_leads (h : Coherent s) (hrun : Leads s t)
    (computing : s.stage n = .computing key) :
    t.stage n = .computing key ∨
      ∃ c r now a b, Leads s a ∧ Step a (.settle c r now) b ∧ Leads b t ∧
        a.caller c = .waiting key n ∧ Stores a.flights.store b.flights.store key now r := by
  by_cases after : t.stage n = .computing key
  · exact .inl after
  obtain ⟨a, e, b, ha, hstep, hb, hbefore, hended⟩ :=
    hrun.exists_step (P := fun u => u.stage n ≠ .computing key) (not_not.mpr computing) after
  rcases hstep.of_computing (coherent_of_leads h ha) (not_not.mp hbefore) with
    hsame | ⟨c, r, now, rfl, hwaiting, hflights⟩
  · exact absurd hsame hended
  refine .inr ⟨c, r, now, a, b, ha, hstep, hb, hwaiting, ?_⟩
  rw [hflights]
  exact stores_storeResult a.flights.store key now r

end Writes

/-- What is promised of a write between two states, in a state after it. -/
structure Lasting (before after s : Traffic κ α ε) (key : κ) (value : α) : Prop where
  /-- A computation of the key that was under way at the write still runs, or has come to its
  result since: a success has replaced what was there, a failure has left it. -/
  completed : ∀ n, before.stage n = .computing key →
    s.stage n = .computing key ∨
      ∃ c r now a b, Leads after a ∧ Step a (.settle c r now) b ∧ Leads b s ∧
        a.caller c = .waiting key n ∧ Stores a.flights.store b.flights.store key now r
  /-- The value is answered unless it is expired, there was no room for it, or something on the way
  has taken it away. -/
  answered : ∀ now, (s.flights.store.find key now).1 = some value ∨
    s.flights.store.Expired key now ∨ before.flights.store.settings.maxSize = 0 ∨ Lost after s key

/-- A write lasts until a later operation takes it away, be it the success of a computation that
was under way before; a forced request ends in such a write. -/
theorem write_lasts (settings : Store.Settings) {s a t : Traffic κ α ε} {key : κ} {value : α}
    {written : Nat} (hrun : Leads (ofStore (.empty settings)) s)
    (hwrite : Step s (.operate (.insert key value written)) a) (hlater : Leads a t) :
    Lasting s a t key value ∧
      ∀ (σ : Type) (c : Fetch.Client (StateM σ)) (url : String) (pages : Fetch.Pages) (world : σ),
        c.WritesBack url pages world := by
  have horigin : Coherent (ofStore (.empty settings) : Traffic κ α ε) := coherent_ofStore _
  have hcoherent := coherent_of_leads horigin (hrun.step hwrite)
  have hdistinct : a.flights.store.Distinct :=
    distinct_of_leads (Store.distinct_empty settings) (hrun.step hwrite)
  refine ⟨⟨?_, ?_⟩, fun σ c => c.writesBack⟩
  · intro n computing
    cases hwrite
    exact completed_of_leads hcoherent hlater computing
  · intro now
    by_cases room : s.flights.store.settings.maxSize = 0
    · exact .inr (.inr (.inl room))
    have hholds : a.flights.store.Holds key value written := by
      cases hwrite
      exact Store.holds_insert (Nat.pos_of_ne_zero room)
    rcases holds_or_lost hdistinct hlater hholds with hkept | hlost
    · rcases (distinct_of_leads hdistinct hlater).find_of_holds hkept now with hfound | hexpired
      · exact .inl hfound
      · exact .inr (.inl hexpired)
    · exact .inr (.inr (.inr hlost))

/-- A caller can start a computation in a store without entries. -/
theorem exists_computing (settings : Store.Settings) (key : κ) :
    ∃ s : Traffic κ α ε, Leads (ofStore (.empty settings)) s ∧ s.stage 0 = .computing key ∧
      s.caller 0 = .waiting key 0 ∧ s.flights.store = .empty settings := by
  have looked : Step (ofStore (.empty settings) : Traffic κ α ε) (.look 0 key 0) _ :=
    .missed rfl rfl rfl
  have hlooked : Function.update (fun _ => Caller.absent) 0 (.looked key) 0 =
      (.looked key : Caller κ α ε) := Function.update_self ..
  have entered := ((Leads.refl _).step looked).step (e := .enter 0) (.started hlooked rfl)
  exact ⟨_, entered, rfl, rfl, rfl⟩

/-- A computation that fails after the write of its key leaves the written value. -/
theorem write_lasts_sample :
    ∃ s a t : Traffic Nat Nat Unit, Leads (ofStore (.empty {})) s ∧ s.stage 0 = .computing 7 ∧
      Step s (.operate (.insert 7 2 1)) a ∧ Step a (.settle 0 (.error ()) 2) t ∧
      (t.flights.store.find 7 3).1 = some 2 ∧ Lasting s a t 7 2 := by
  obtain ⟨s, started, computing, waiting, store⟩ := exists_computing {} 7
  have written := Step.operated s (.insert 7 2 1)
  have lasting := write_lasts {} started written
    ((Leads.refl _).step (e := .settle 0 (.error ()) 2) (.settled (.error ()) 2 waiting computing))
  refine ⟨s, _, _, started, computing, written, .settled (.error ()) 2 waiting computing, ?_,
    lasting.1⟩
  simp only [Flights.settle, Flights.onStore, store]
  rfl

/-- A computation that succeeds after the write of its key replaces the written value, although it
was started before. -/
theorem stale_result_replaces :
    ∃ s a t : Traffic Nat Nat Unit, Leads (ofStore (.empty {})) s ∧ s.stage 0 = .computing 7 ∧
      Step s (.operate (.insert 7 2 1)) a ∧ (a.flights.store.find 7 2).1 = some 2 ∧
      Step a (.settle 0 (.ok 5) 2) t ∧ (t.flights.store.find 7 3).1 = some 5 := by
  obtain ⟨s, started, computing, waiting, store⟩ := exists_computing {} 7
  refine ⟨s, _, _, started, computing, .operated s _, ?_, .settled (.ok 5) 2 waiting computing, ?_⟩
  · simp only [Flights.onStore, store]
    rfl
  · simp only [Flights.settle, Flights.onStore, store]
    rfl

end Traffic
end EntityTrust
