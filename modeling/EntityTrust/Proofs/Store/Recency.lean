import EntityTrust.Proofs.Store.Traffic
import EntityTrust.Proofs.Store.Entries

/-!
# The order of last use

Callers may come in any order and the clock may stand still, but it does not run backwards.  Then
the entries of a store stand in the order of their last use, and what has to give way is what was
used least recently.

**Clocks.**  Look-ups and writes read the clock while they hold the entries.  A sweep of the expired
entries reads it before, so that its instant may lie back.  `Clocked` is a run of steps on such a
clock, with a record of the uses of each key, latest first: every write of a key and every look-up
that finds it is a use.

**Results.**

* `InOrder` says of entries that their keys are distinct, that their instants are those of the
  record, and that they stand in its order.  `Orderly` adds the bound on their number.
* `InOrder.append` is the step of a use, `InOrder.sublist` that of everything else.
* `orderly_apply` is the step of an operation and `orderly_of_clocked` the run.
* `Evicts` lists the ways in which a key has to give way for lack of room, and
  `used_before_kept` says that the keys which stay were used no earlier.
-/

namespace EntityTrust

variable {κ α ε : Type}

/-- The clock shows an instant when an operation reads it, if the operation holds the entries then;
a sweep reads the clock before. -/
def Operation.Timely (clock : Nat) : Operation κ α → Prop
  | .find _ now | .insert _ _ now => now = clock
  | .evictExpired now => now ≤ clock
  | .remove _ | .clear | .trim _ | .resize _ => True

variable [DecidableEq κ]

/-- The uses of keys by an operation: what it writes, and what it looks up and finds. -/
def Operation.uses (s : Store κ α) : Operation κ α → List (κ × Nat)
  | .find key now => if (s.find key now).1.isSome then [(key, now)] else []
  | .insert key _ now => [(key, now)]
  | .remove _ | .evictExpired _ | .clear | .trim _ | .resize _ => []

namespace Store

/-- Entries of distinct keys in the order of their last use, by a record of uses. -/
structure InOrder (es : List (Entry κ α)) (now : Nat) (uses : List (κ × Nat)) : Prop where
  distinct : (es.map Entry.key).Nodup
  written : ∀ e ∈ es, e.written ≤ e.accessed
  accessed : ∀ e ∈ es, e.accessed ≤ now
  used : ∀ e ∈ es, uses.lookup e.key = some e.accessed
  ordered : es.Pairwise fun e d => e.accessed ≤ d.accessed

/-- A store within its capacity, with its entries in the order of their last use. -/
structure Orderly (s : Store κ α) (now : Nat) (uses : List (κ × Nat)) : Prop
    extends InOrder s.entries now uses where
  size_le : s.size ≤ s.settings.maxSize

/-- A key has to give way for lack of room. -/
inductive Evicts (s : Store κ α) (k : κ) : Operation κ α → Prop
  /-- A value is written into a full store. -/
  | stored {key : κ} {value : α} {now : Nat}
      (full : Drops { s with entries := without key s.entries ++ [⟨key, value, now, now⟩] }
        s.settings.maxSize k) : Evicts s k (.insert key value now)
  | trimmed {size : Nat} (small : s.Drops size k) : Evicts s k (.trim size)
  | resized {size : Nat} (small : s.Drops size k) : Evicts s k (.resize size)

section InOrder

variable {es ds : List (Entry κ α)} {now clock size : Nat} {uses : List (κ × Nat)} {key k : κ}
  {d : Entry κ α} {s : Store κ α}

theorem InOrder.sublist (h : InOrder es now uses) (hsub : ds.Sublist es) (hle : now ≤ clock) :
    InOrder ds clock uses where
  distinct := h.distinct.sublist (hsub.map Entry.key)
  written e he := h.written e (hsub.subset he)
  accessed e he := Nat.le_trans (h.accessed e (hsub.subset he)) hle
  used e he := h.used e (hsub.subset he)
  ordered := h.ordered.sublist hsub

theorem lookup_cons_of_ne {e : Entry κ α} (hne : e.key ≠ key) (instant : Nat) :
    ((key, instant) :: uses).lookup e.key = uses.lookup e.key := by
  have hfalse : (e.key == key) = false := by simpa using hne
  rw [List.lookup_cons, hfalse]

/-- The entry of the key that is used goes to the end. -/
theorem InOrder.append (h : InOrder es now uses) (hle : now ≤ clock) (hkey : d.key = key)
    (hwritten : d.written ≤ clock) (haccessed : d.accessed = clock) :
    InOrder (without key es ++ [d]) clock ((key, clock) :: uses) := by
  have hothers : InOrder (without key es) clock uses := h.sublist (without_sublist key es) hle
  refine ⟨distinct_append h.distinct hkey, ?_, ?_, ?_, ?_⟩
  · intro e he
    rcases List.mem_append.mp he with he | he
    · exact hothers.written e he
    · rw [List.mem_singleton.mp he, haccessed]
      exact hwritten
  · intro e he
    rcases List.mem_append.mp he with he | he
    · exact hothers.accessed e he
    · rw [List.mem_singleton.mp he]
      exact Nat.le_of_eq haccessed
  · intro e he
    rcases List.mem_append.mp he with he | he
    · rw [lookup_cons_of_ne (mem_without.mp he).2]
      exact hothers.used e he
    · rw [List.mem_singleton.mp he, hkey, haccessed, List.lookup_cons_self]
  · rw [List.pairwise_append]
    refine ⟨hothers.ordered, List.pairwise_singleton _ _, ?_⟩
    intro e he d' hd
    rw [List.mem_singleton.mp hd, haccessed]
    exact hothers.accessed e he

/-- Entries that a trim drops stand before those that it keeps. -/
theorem InOrder.accessed_le_of_dropped (h : InOrder s.entries now uses) {e : Entry κ α}
    (he : e ∈ s.entries) (hgone : e ∉ (s.trim size).entries) (hd : d ∈ (s.trim size).entries) :
    e.accessed ≤ d.accessed := by
  have hordered := h.ordered
  rw [← List.take_append_drop (s.entries.length - size) s.entries] at hordered he
  rcases List.mem_append.mp he with he | he
  · exact (List.pairwise_append.mp hordered).2.2 e he d hd
  · exact absurd he hgone

/-- The key of an entry that a trim drops was used no later than those of the entries it keeps. -/
theorem InOrder.used_before_kept (h : InOrder s.entries now uses) (hdrops : s.Drops size k)
    (hd : d ∈ (s.trim size).entries) :
    ∃ i j, uses.lookup k = some i ∧ uses.lookup d.key = some j ∧ i ≤ j := by
  obtain ⟨e, he, rfl, hgone⟩ := hdrops
  have hkept : d ∈ s.entries := (trim_sublist s size).subset hd
  exact ⟨e.accessed, d.accessed, h.used e he, h.used d hkept, h.accessed_le_of_dropped he hgone hd⟩

end InOrder

section Orderly

variable {s : Store κ α} {now clock size : Nat} {uses : List (κ × Nat)} {key k : κ} {value : α}

theorem orderly_empty (settings : Settings) (now : Nat) :
    (empty settings : Store κ α).Orderly now [] where
  distinct := List.nodup_nil
  written _ he := nomatch he
  accessed _ he := nomatch he
  used _ he := nomatch he
  ordered := .nil
  size_le := Nat.zero_le _

theorem Orderly.later (h : s.Orderly now uses) (hle : now ≤ clock) : s.Orderly clock uses :=
  ⟨h.toInOrder.sublist (.refl _) hle, h.size_le⟩

theorem Orderly.sublist (h : s.Orderly now uses) {es : List (Entry κ α)}
    (hsub : es.Sublist s.entries) : ({ s with entries := es } : Store κ α).Orderly now uses :=
  ⟨h.toInOrder.sublist hsub (Nat.le_refl _), Nat.le_trans hsub.length_le h.size_le⟩

theorem orderly_find (h : s.Orderly clock uses) (key : κ) :
    (s.find key clock).2.Orderly clock ((Operation.find key clock).uses s ++ uses) := by
  rcases find_cases s key clock with ⟨-, hfind⟩ | ⟨e, he, hkey, ⟨-, hfind⟩ | ⟨-, hfind⟩⟩
  · simpa [Operation.uses, hfind] using h
  · simpa [Operation.uses, hfind] using h.sublist (without_sublist key s.entries)
  · have hwritten : e.written ≤ clock := Nat.le_trans (h.written e he) (h.accessed e he)
    have hmoved : InOrder (without key s.entries ++ [{ e with accessed := clock }]) clock
        ((key, clock) :: uses) := h.append (Nat.le_refl _) hkey hwritten rfl
    have hlength : (without key s.entries).length < s.entries.length :=
      List.length_filter_lt_length_iff_exists.mpr ⟨e, he, by simpa using hkey⟩
    have hsize := h.size_le
    simp only [Operation.uses, hfind]
    refine ⟨hmoved, ?_⟩
    simp only [Store.size, List.length_append, List.length_singleton] at hsize ⊢
    omega

theorem orderly_insert (h : s.Orderly clock uses) (key : κ) (value : α) :
    (s.insert key value clock).Orderly clock ((key, clock) :: uses) := by
  have hwritten : InOrder (without key s.entries ++ [⟨key, value, clock, clock⟩]) clock
      ((key, clock) :: uses) := h.append (Nat.le_refl _) rfl (Nat.le_refl _) rfl
  exact ⟨hwritten.sublist (trim_sublist _ _) (Nat.le_refl _), size_trim_le _ _⟩

/-- An operation keeps the order of last use and the bound on the number of entries. -/
theorem orderly_apply (h : s.Orderly now uses) (hle : now ≤ clock) (op : Operation κ α)
    (timely : op.Timely clock) : (op.apply s).Orderly clock (op.uses s ++ uses) := by
  have hclock := h.later hle
  cases op with
  | find key now =>
      obtain rfl : now = clock := timely
      exact orderly_find hclock key
  | insert key value now =>
      obtain rfl : now = clock := timely
      exact orderly_insert hclock key value
  | remove key => exact hclock.sublist (without_sublist key s.entries)
  | evictExpired now => exact hclock.sublist List.filter_sublist
  | clear => exact hclock.sublist (List.nil_sublist _)
  | trim size => exact hclock.sublist (trim_sublist s size)
  | resize size =>
      exact ⟨hclock.toInOrder.sublist (trim_sublist s size) (Nat.le_refl _), size_trim_le _ _⟩

/-- What has to give way was used no later than what stays. -/
theorem Evicts.used_before_kept (h : s.Orderly now uses) (hle : now ≤ clock) {op : Operation κ α}
    (timely : op.Timely clock) (hevicts : s.Evicts k op) {d : Entry κ α}
    (hd : d ∈ (op.apply s).entries) :
    ∃ i j, (op.uses s ++ uses).lookup k = some i ∧ (op.uses s ++ uses).lookup d.key = some j ∧
      i ≤ j := by
  have hclock := h.later hle
  cases hevicts with
  | @stored key value now full =>
      obtain rfl : now = clock := timely
      have hwritten : InOrder (without key s.entries ++ [⟨key, value, now, now⟩]) now
          ((key, now) :: uses) := hclock.append (Nat.le_refl _) rfl (Nat.le_refl _) rfl
      exact hwritten.used_before_kept full hd
  | trimmed small => exact hclock.used_before_kept small hd
  | resized small => exact hclock.used_before_kept small hd

end Orderly
end Store

namespace Traffic

variable {s t : Traffic κ α ε} {e : Event κ α ε} {op : Operation κ α} {now : Nat}
  {uses : List (κ × Nat)}

/-- A run from an origin on a clock that does not run backwards, with a record of uses. -/
inductive Clocked (origin : Traffic κ α ε) : Nat → List (κ × Nat) → Traffic κ α ε → Prop
  | start (now : Nat) : Clocked origin now [] origin
  /-- A step that leaves the entries alone. -/
  | aside {now clock : Nat} {uses : List (κ × Nat)} {s t : Traffic κ α ε} {e : Event κ α ε}
      (before : Clocked origin now uses s) (later : now ≤ clock) (step : Step s e t)
      (idle : ∀ op, ¬ Touches s e op) : Clocked origin clock uses t
  /-- A step that does something to the entries. -/
  | touching {now clock : Nat} {uses : List (κ × Nat)} {s t : Traffic κ α ε} {e : Event κ α ε}
      {op : Operation κ α} (before : Clocked origin now uses s) (later : now ≤ clock)
      (step : Step s e t) (touches : Touches s e op) (timely : op.Timely clock) :
      Clocked origin clock (op.uses s.flights.store ++ uses) t

theorem Touches.store_eq (h : Touches s e op) (hstep : Step s e t) :
    t.flights.store = op.apply s.flights.store := by
  cases h with
  | looked c key now => cases hstep <;> rfl
  | stored waiting value now =>
      cases hstep with
      | settled result now waiting' computing =>
          cases waiting.symm.trans waiting'
          rfl
  | operated op =>
      cases hstep
      rfl

theorem Step.store_eq_of_idle (hstep : Step s e t) (idle : ∀ op, ¬ Touches s e op) :
    t.flights.store = s.flights.store :=
  hstep.touches.resolve_right fun ⟨op, htouches, _⟩ => idle op htouches

theorem orderly_of_clocked {settings : Store.Settings} {origin : Traffic κ α ε}
    (h : origin.flights.store = .empty settings)
    (hrun : Clocked origin now uses s) : s.flights.store.Orderly now uses := by
  induction hrun with
  | start now =>
      rw [h]
      exact Store.orderly_empty settings now
  | aside before later step idle ih =>
      rw [step.store_eq_of_idle idle]
      exact ih.later later
  | touching before later step touches timely ih =>
      rw [touches.store_eq step]
      exact Store.orderly_apply ih later _ timely

/-- The entries of a store are in the order of their last use, and what has to give way in the next
step was used no later than what stays. -/
theorem order_of_last_use (settings : Store.Settings)
    (hrun : Clocked (ofStore (.empty settings)) now uses s) :
    s.flights.store.Orderly now uses ∧
      ∀ clock e t op k, now ≤ clock → Step s e t → Touches s e op → op.Timely clock →
        s.flights.store.Evicts k op → ∀ d ∈ t.flights.store.entries,
          ∃ i j, (op.uses s.flights.store ++ uses).lookup k = some i ∧
            (op.uses s.flights.store ++ uses).lookup d.key = some j ∧ i ≤ j := by
  have horderly : s.flights.store.Orderly now uses := orderly_of_clocked rfl hrun
  refine ⟨horderly, ?_⟩
  intro clock e t op k hle hstep htouches timely hevicts d hd
  rw [htouches.store_eq hstep] at hd
  exact hevicts.used_before_kept horderly hle timely hd

/-- A computed value that is looked up again after another value was written. -/
theorem exists_clocked :
    ∃ s : Traffic Nat Nat Unit,
      Clocked (ofStore (.empty { maxSize := 2 })) 4 [(7, 4), (8, 3), (7, 2)] s ∧
        s.flights.store = ⟨{ maxSize := 2 }, [⟨8, 6, 3, 3⟩, ⟨7, 5, 2, 4⟩]⟩ := by
  have origin : Clocked (ofStore (.empty { maxSize := 2 }) : Traffic Nat Nat Unit) 0 [] _ :=
    .start 0
  have started := (origin.touching (e := .look 0 7 1) (Nat.zero_le 1) (.missed rfl rfl rfl)
    (.looked 0 7 1) rfl).aside (e := .enter 0) (Nat.le_refl 1) (.started rfl rfl) nofun
  have settled := started.touching (e := .settle 0 (.ok 5) 2) (show 1 ≤ 2 by decide)
    (.settled (.ok 5) 2 rfl rfl) (.stored rfl 5 2) rfl
  have written := settled.touching (show 2 ≤ 3 by decide) (.operated _ (.insert 8 6 3))
    (.operated _) rfl
  have looked := written.touching (show 3 ≤ 4 by decide) (.operated _ (.find 7 4)) (.operated _)
    rfl
  exact ⟨_, looked, rfl⟩

/-- The value that was looked up stays when a third one is written, and the other one gives way. -/
theorem order_of_last_use_sample :
    ∃ s t : Traffic Nat Nat Unit,
      Clocked (ofStore (.empty { maxSize := 2 })) 4 [(7, 4), (8, 3), (7, 2)] s ∧
        s.flights.store.Orderly 4 [(7, 4), (8, 3), (7, 2)] ∧ Step s (.operate (.insert 9 1 5)) t ∧
        t.flights.store.entries.map Store.Entry.key = [7, 9] ∧
        ∃ i j, [(9, 5), (7, 4), (8, 3), (7, 2)].lookup 8 = some i ∧
          [(9, 5), (7, 4), (8, 3), (7, 2)].lookup 7 = some j ∧ i ≤ j := by
  obtain ⟨s, looked, hstore⟩ := exists_clocked
  have last := Step.operated s (.insert 9 1 5)
  have order := order_of_last_use { maxSize := 2 } looked
  have hevicts : s.flights.store.Evicts 8 (.insert 9 1 5) := by
    rw [hstore]
    exact .stored ⟨⟨8, 6, 3, 3⟩, by decide, rfl, by decide⟩
  refine ⟨s, _, looked, order.1, last, ?_, ?_⟩
  · simp only [Flights.onStore, hstore]
    rfl
  · refine order.2 5 _ _ _ 8 (by decide) last (.operated _) rfl hevicts ⟨7, 5, 2, 4⟩ ?_
    simp only [Flights.onStore, hstore]
    decide

end Traffic
end EntityTrust
