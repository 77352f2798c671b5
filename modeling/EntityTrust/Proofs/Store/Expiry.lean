import EntityTrust.Proofs.Store.Recall

/-!
# Stores as maps with expiry

A store in which no entry has to give way to another is a map whose values expire.

**Answers.**  After any calls, a look-up answers the last value written if the history of the key
recalls it (`Store.Recalled`), and nothing otherwise.

**Sweeps.**  Dropping the expired entries early is seen by nobody who looks a key up: a store and
its swept copy (`Store.Pruned`) differ in entries that are expired, and a look-up drops those itself.
Only a removal answers whatever entry is there, expired or not, and so tells the two apart
(`Call.Agrees`).
-/

namespace EntityTrust

variable {κ α ε : Type}

/-- A second list has counterparts of the items of a first one, in their order, and items of another
kind anywhere between them. -/
inductive Interspersed {β γ : Type} (same : β → γ → Prop) (other : γ → Prop) :
    List β → List γ → Prop
  | nil : Interspersed same other [] []
  | same {b : β} {c : γ} {bs : List β} {cs : List γ} (h : same b c)
      (rest : Interspersed same other bs cs) : Interspersed same other (b :: bs) (c :: cs)
  | other {c : γ} {bs : List β} {cs : List γ} (h : other c)
      (rest : Interspersed same other bs cs) : Interspersed same other bs (c :: cs)

/-- Two calls are the same at the same time and have the same answer, unless they are removals of an
expired entry and the second one finds it swept away. -/
structure Call.Agrees (c d : Call κ α ε) : Prop where
  action : d.action = c.action
  begun : d.begun = c.begun
  ended : d.ended = c.ended
  outcome : d.outcome = c.outcome ∨ ∃ key value, c.action = .remove key ∧
    c.before.Expired key c.begun ∧ c.outcome = some (.value (some value)) ∧
      d.outcome = some (.value none)

namespace Store

/-- A store has the entries of another one less some expired ones. -/
structure Pruned (s t : Store κ α) (now : Nat) : Prop where
  settings : t.settings = s.settings
  sublist : t.entries.Sublist s.entries
  expired : ∀ e ∈ s.entries, e ∉ t.entries → s.settings.expired now e = true

section Pruned

variable {s t : Store κ α} {now later : Nat} {key : κ}

theorem Pruned.refl (s : Store κ α) (now : Nat) : Pruned s s now :=
  ⟨rfl, .refl _, fun _ he hnot => absurd he hnot⟩

theorem Pruned.mono (h : Pruned s t now) (hle : now ≤ later) : Pruned s t later :=
  ⟨h.settings, h.sublist, fun e he hnot => Settings.expired_mono (h.expired e he hnot) hle⟩

theorem Pruned.mem_of_live {e : Entry κ α} (h : Pruned s t now) (he : e ∈ s.entries)
    (hlive : s.settings.expired now e = false) : e ∈ t.entries := by
  by_contra hnot
  rw [h.expired e he hnot] at hlive
  cases hlive

theorem Pruned.live (h : Pruned s t now) : t.Live key now → s.Live key now := by
  rintro ⟨e, he, hkey, hlive⟩
  rw [h.settings] at hlive
  exact ⟨e, h.sublist.subset he, hkey, hlive⟩

/-- An early sweep drops only expired entries. -/
theorem Pruned.sweep (h : Pruned s t now) : Pruned s (t.evictExpired now) now := by
  refine ⟨h.settings, List.filter_sublist.trans h.sublist, ?_⟩
  intro e he hnot
  by_contra hlive
  have hlive : s.settings.expired now e = false := by simpa using hlive
  exact hnot (mem_evictExpired.mpr ⟨h.mem_of_live he hlive, by rw [h.settings, hlive]⟩)

theorem Pruned.evictExpired (h : Pruned s t now) :
    Pruned (s.evictExpired now) (t.evictExpired now) now := by
  refine ⟨h.settings, ?_, ?_⟩
  · rw [Store.evictExpired, Store.evictExpired, h.settings]
    exact h.sublist.filter _
  · intro e he hnot
    obtain ⟨he, hlive⟩ := mem_evictExpired.mp he
    exact absurd (mem_evictExpired.mpr ⟨h.mem_of_live he hlive, by rw [h.settings, hlive]⟩) hnot

variable [DecidableEq κ]

/-- Both stores put the same entries in the place of those of a key. -/
theorem Pruned.replace (h : Pruned s t now) (key : κ) (es : List (Entry κ α)) :
    Pruned { s with entries := without key s.entries ++ es }
      { t with entries := without key t.entries ++ es } now := by
  refine ⟨h.settings, (h.sublist.filter _).append (.refl es), ?_⟩
  intro e he hnot
  rw [List.mem_append, not_or] at hnot
  rcases List.mem_append.mp he with he | he
  · obtain ⟨hmem, hkey⟩ := mem_without.mp he
    exact h.expired e hmem fun ht => hnot.1 (mem_without.mpr ⟨ht, hkey⟩)
  · exact absurd he hnot.2

theorem Pruned.without (h : Pruned s t now) (key : κ) :
    Pruned { s with entries := Store.without key s.entries }
      { t with entries := Store.without key t.entries } now := by
  simpa using h.replace key []

theorem Pruned.find (h : Pruned s t now) (hs : s.Distinct) (key : κ) :
    (t.find key now).1 = (s.find key now).1 ∧ Pruned (s.find key now).2 (t.find key now).2 now := by
  have ht : t.Distinct := distinct_of_sublist hs h.sublist
  by_cases live : s.Live key now
  · obtain ⟨e, he, hkey, hlive⟩ := live
    rw [hs.find_of_live he hkey hlive,
      ht.find_of_live (h.mem_of_live he hlive) hkey (by rw [h.settings, hlive])]
    exact ⟨rfl, h.replace key _⟩
  · rw [find_of_not_live live, find_of_not_live fun hlive => live (h.live hlive)]
    exact ⟨rfl, h.without key⟩

theorem Pruned.insert (h : Pruned s t now) {value : α}
    (room : (Store.without key s.entries).length + 1 ≤ s.settings.maxSize) :
    Pruned (s.insert key value now) (t.insert key value now) now := by
  have hlength : (Store.without key t.entries).length ≤ (Store.without key s.entries).length :=
    (h.sublist.filter _).length_le
  have hsettings : t.settings.maxSize = s.settings.maxSize := by rw [h.settings]
  rw [insert_of_room value now room, insert_of_room value now (by omega)]
  exact h.replace key _

theorem Pruned.remove (h : Pruned s t now) (hs : s.Distinct) (key : κ) :
    (t.remove key).1 = (s.remove key).1 ∨
      ∃ value, s.Expired key now ∧ (s.remove key).1 = some value ∧ (t.remove key).1 = none := by
  have ht : t.Distinct := distinct_of_sublist hs h.sublist
  cases hentry : s.entry? key with
  | none =>
      have hnone := entry_none_iff.mp hentry
      have hentry' : t.entry? key = none :=
        entry_none_iff.mpr fun e he => hnone e (h.sublist.subset he)
      exact .inl (by simp [Store.remove, hentry, hentry'])
  | some e =>
      obtain ⟨he, hkey⟩ := mem_of_entry? hentry
      by_cases hkept : e ∈ t.entries
      · have hentry' : t.entry? key = some e := ht.entry_some_iff.mpr ⟨hkept, hkey⟩
        exact .inl (by simp [Store.remove, hentry, hentry'])
      · have hentry' : t.entry? key = none := by
          refine entry_none_iff.mpr ?_
          intro d hd hdkey
          obtain rfl := hs.eq_of_mem (h.sublist.subset hd) he (hdkey.trans hkey.symm)
          exact hkept hd
        exact .inr ⟨e.value, ⟨e, he, hkey, h.expired e he hkept⟩, by simp [Store.remove, hentry],
          by simp [Store.remove, hentry']⟩

end Pruned
end Store

variable [DecidableEq κ]

section Calls

variable {s t : Store κ α} {now : Nat} {a : Action κ α ε}

theorem Store.Pruned.storeResult (h : Pruned s t now) {key : κ} (result : Except ε α)
    (room : ∀ value, result = .ok value →
      (Store.without key s.entries).length + 1 ≤ s.settings.maxSize) :
    Pruned (Flights.storeResult s key now result) (Flights.storeResult t key now result) now := by
  cases result with
  | ok value => exact h.insert (room value rfl)
  | error _ => exact h

theorem agrees_obtain (h : s.Pruned t now) (hs : s.Distinct) {key : κ} {takes : Nat}
    {result : Except ε α} (roomy : (Timeline.callOn s now (.obtain key takes result none)).Roomy) :
    (Timeline.callOn s now (.obtain key takes result none)).Agrees
        (Timeline.callOn t now (.obtain key takes result none)) ∧
      ((Action.obtain key takes result none).effect s now).store.Pruned
        ((Action.obtain key takes result none).effect t now).store
        ((Action.obtain key takes result none).effect s now).ended := by
  obtain ⟨hanswer, hstores⟩ := h.find hs key
  rcases hfind : s.find key now with ⟨_ | value, s'⟩ <;>
    rcases hfind' : t.find key now with ⟨_ | value', t'⟩ <;>
      simp only [hfind, hfind'] at hanswer hstores
  · simp only [Timeline.callOn, Action.effect_missed hfind, Action.effect_missed hfind']
    refine ⟨⟨rfl, rfl, rfl, .inl rfl⟩, ?_⟩
    refine (hstores.mono (Nat.le_add_right now takes)).storeResult result ?_
    rintro value rfl
    have hroom := roomy (key, value)
      (by simp [Call.written?, Timeline.callOn, Action.effect_missed hfind])
    obtain rfl := Store.eq_of_find_eq_none hfind
    rw [Store.without_without]
    exact hroom
  · cases hanswer
  · cases hanswer
  · cases hanswer
    simp only [Timeline.callOn, Action.effect_found hfind, Action.effect_found hfind']
    exact ⟨⟨rfl, rfl, rfl, .inl rfl⟩, hstores⟩

/-- A plain call on a store and on its swept copy. -/
theorem agrees_effect (h : s.Pruned t now) (hs : s.Distinct) (plain : a.Plain)
    (roomy : (Timeline.callOn s now a).Roomy) :
    (Timeline.callOn s now a).Agrees (Timeline.callOn t now a) ∧
      (a.effect s now).store.Pruned (a.effect t now).store (a.effect s now).ended := by
  cases a with
  | advance nanos => exact ⟨⟨rfl, rfl, rfl, .inl rfl⟩, h.mono (Nat.le_add_right now nanos)⟩
  | find key =>
      obtain ⟨hanswer, hstores⟩ := h.find hs key
      exact ⟨⟨rfl, rfl, rfl, .inl (by simp [Timeline.callOn, Action.effect, hanswer])⟩, hstores⟩
  | insert key value =>
      exact ⟨⟨rfl, rfl, rfl, .inl rfl⟩, h.insert (roomy (key, value) rfl)⟩
  | remove key =>
      refine ⟨⟨rfl, rfl, rfl, ?_⟩, h.without key⟩
      rcases h.remove hs key with hsame | ⟨value, hexpired, hsome, hnone⟩
      · exact .inl (by simp [Timeline.callOn, Action.effect, hsame])
      · exact .inr ⟨key, value, rfl, hexpired, by simp [Timeline.callOn, Action.effect, hsome],
          by simp [Timeline.callOn, Action.effect, hnone]⟩
  | evictExpired => exact ⟨⟨rfl, rfl, rfl, .inl rfl⟩, h.evictExpired⟩
  | clear => exact ⟨⟨rfl, rfl, rfl, .inl rfl⟩, ⟨h.settings, .refl _, fun e he => by cases he⟩⟩
  | trim size => cases plain
  | resize size => cases plain
  | obtain key takes result patience =>
      obtain rfl : patience = none := plain
      exact agrees_obtain h hs roomy

end Calls

namespace Timeline

/-- The entries at the end of a session of plain calls are what the histories of the keys say. -/
theorem tracks_session (settings : Store.Settings) {actions : List (Action κ α ε)}
    (plain : ∀ a ∈ actions, a.Plain)
    (roomy : ∀ c ∈ ((ofStore (.empty settings)).session actions).1, c.Roomy) :
    ∃ now store n, ((ofStore (.empty settings)).session actions).2 = quiet now store n ∧
      store.Distinct ∧ store.settings = settings ∧
        ∀ key, store.Tracks now key
          (Call.history key ((ofStore (.empty settings)).session actions).1) := by
  refine session_invariant []
    (P := fun now store past => store.Distinct ∧ store.settings = settings ∧
      ∀ key, store.Tracks now key (Call.history key past))
    Action.Plain.patient ?_ plain roomy
    ⟨Store.distinct_empty settings, rfl, Store.tracks_empty settings⟩
  rintro now store past a ha hroomy ⟨hdistinct, hsettings, htracks⟩
  refine ⟨a.distinct_effect hdistinct, ha.settings_effect.trans hsettings, ?_⟩
  intro key
  have hnext := tracks_effect (htracks key) hdistinct ha hroomy
  simpa [Call.history] using hnext

/-- Sweeps anywhere in a session of plain calls. -/
theorem agrees_session {actions swept : List (Action κ α ε)} {s t : Store κ α} {now m n : Nat}
    (hsweeps : Interspersed (· = ·) (· = .evictExpired) actions swept)
    (h : s.Pruned t now) (hs : s.Distinct) (plain : ∀ a ∈ actions, a.Plain)
    (roomy : ∀ c ∈ ((quiet now s m).session actions).1, c.Roomy) :
    Interspersed Call.Agrees (fun c => c.action = .evictExpired)
      ((quiet now s m).session actions).1 ((quiet now t n).session swept).1 := by
  induction hsweeps generalizing now s t m n with
  | nil => exact .nil
  | @same a b rest rest' hab _ ih =>
      obtain rfl := hab
      have ha := plain a List.mem_cons_self
      obtain ⟨m', hcons⟩ := session_cons now s m ha.patient rest
      obtain ⟨n', hcons'⟩ := session_cons now t n ha.patient rest'
      rw [hcons] at roomy ⊢
      rw [hcons']
      obtain ⟨hagrees, hpruned⟩ := agrees_effect h hs ha (roomy _ List.mem_cons_self)
      refine .same hagrees ?_
      have hended : (a.effect t now).ended = (a.effect s now).ended := hagrees.ended
      rw [hended]
      exact ih hpruned (a.distinct_effect hs) (fun b hb => plain b (List.mem_cons_of_mem a hb))
        fun c hc => roomy c (List.mem_cons_of_mem _ hc)
  | @other b rest rest' hb _ ih =>
      obtain rfl := hb
      obtain ⟨n', hcons'⟩ := session_cons (a := .evictExpired) now t n trivial rest'
      rw [hcons']
      exact .other rfl (ih h.sweep hs plain roomy)

/-- When no entry has to give way to another, a look-up answers what the history of its key recalls,
and sweeps of the expired entries are seen by removals of expired entries alone. -/
theorem map_with_expiry (settings : Store.Settings) {actions : List (Action κ α ε)}
    {calls : List (Call κ α ε)} {line : Timeline κ α ε} (plain : ∀ a ∈ actions, a.Plain)
    (made : (ofStore (.empty settings)).session actions = (calls, line))
    (roomy : ∀ c ∈ calls, c.Roomy) :
    (∀ key value,
      (line.run [⟨0, .find key⟩]).1.head?.map Report.outcome = some (.value (some value)) ↔
        Store.Recalled settings (Call.history key calls) value line.now) ∧
    ∀ swept, Interspersed (· = ·) (· = .evictExpired) actions swept →
      Interspersed Call.Agrees (fun c => c.action = .evictExpired) calls
        ((ofStore (.empty settings)).session swept).1 := by
  obtain rfl : ((ofStore (.empty settings)).session actions).1 = calls := by rw [made]
  obtain rfl : ((ofStore (.empty settings)).session actions).2 = line := by rw [made]
  constructor
  · intro key value
    obtain ⟨now, store, n, hline, hdistinct, hsettings, htracks⟩ :=
      tracks_session settings plain roomy
    obtain ⟨m, hrun⟩ := run_quiet (a := .find key) now store n trivial
    have hfind : (store.find key now).1 = some value ↔ _ := (htracks key).find_iff hdistinct
    rw [hsettings] at hfind
    rw [hline, hrun]
    exact Iff.trans (by simp [Action.effect]) hfind
  · intro swept hsweeps
    exact agrees_session hsweeps (.refl _ 0) (Store.distinct_empty settings) plain roomy

/-- A value that is computed and then looked up often enough, next to one that is written. -/
theorem map_with_expiry_sample :
    let settings : Store.Settings :=
      { maxSize := 2, afterWrite := some (.ofNanos 20), afterAccess := some (.ofNanos 8) }
    let actions : List (Action Nat Nat Unit) :=
      [.obtain 1 3 (.ok 5) none, .advance 6, .find 1, .insert 2 7, .advance 6]
    let session := (ofStore (.empty settings)).session actions
    (∀ a ∈ actions, a.Plain) ∧ (∀ c ∈ session.1, c.Roomy) ∧
      Store.Recalled settings (Call.history 1 session.1) 5 session.2.now := by
  have plain : ∀ a ∈ ([.obtain 1 3 (.ok 5) none, .advance 6, .find 1, .insert 2 7, .advance 6] :
      List (Action Nat Nat Unit)), a.Plain := by decide
  refine ⟨plain, by decide, ?_⟩
  exact ((map_with_expiry _ plain rfl (by decide)).1 1 5).mp rfl

/-- A sweep before the removal of an expired entry changes what the removal answers. -/
theorem removal_sees_sweep :
    let settings : Store.Settings := { afterWrite := some (.ofNanos 10) }
    let actions : List (Action Nat Nat Unit) := [.insert 1 5, .advance 20, .remove 1]
    let swept : List (Action Nat Nat Unit) :=
      [.insert 1 5, .advance 20, .evictExpired, .remove 1]
    Interspersed (· = ·) (· = .evictExpired) actions swept ∧ (∀ a ∈ actions, a.Plain) ∧
      (∀ c ∈ ((ofStore (.empty settings)).session actions).1, c.Roomy) ∧
      (((ofStore (.empty settings)).session actions).1.getLast?.bind Call.outcome =
        some (.value (some 5))) ∧
      ((ofStore (.empty settings)).session swept).1.getLast?.bind Call.outcome =
        some (.value none) :=
  ⟨.same rfl (.same rfl (.other rfl (.same rfl .nil))), by decide, by decide, rfl, rfl⟩

end Timeline
end EntityTrust
