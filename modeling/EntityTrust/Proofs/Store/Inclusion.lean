import EntityTrust.Proofs.Store.Recall

/-!
# Stores of different capacities

A larger store never misses where a smaller one hits.

**Keys.**  Without expiry, what a store hits is its list of keys in the order of last use, and every
call does one of three things to that list: a key is used (`used`), which may drop keys from the
front, a key is removed, or all keys are.

**Two lists.**  `Covers` relates the lists of the smaller and the larger store: the first one is a
sublist of the second one, and the larger store does not exceed the smaller one by more keys than
its capacity does.  The second part is what lets the larger store drop a key only when the smaller
one drops it too.  The lists go different ways when only the larger store hits: its key moves to the
end there (`Covers.used_larger`), and if the smaller store computes a value, the key is used in both
(`Covers.used_both`).

**Results.**  `Includes` says of two stores that one covers the other, `covered_effect` is the step
of a call, and `larger_store_hits` is the run.
-/

namespace EntityTrust

variable {κ α ε : Type}

/-- A stored value was found, not computed for the call. -/
def Outcome.Hit : Outcome α ε → Prop
  | .value (some _) | .obtained (.ok _) false => True
  | _ => False

theorem Outcome.not_hit_started {result : Except ε α} : ¬ (Outcome.obtained result true).Hit := by
  cases result <;> exact id

/-- The keys of a store in the order of their last use. -/
def Store.keys (s : Store κ α) : List κ :=
  s.entries.map Entry.key

/-- A call on a store, and the same call on a store that has more keys in the same order and hits
whenever the first one does. -/
structure Call.Covered (c d : Call κ α ε) : Prop where
  action : d.action = c.action
  keys : c.before.keys.Sublist d.before.keys
  hit : ∀ o ∈ c.outcome, o.Hit → ∃ o' ∈ d.outcome, o'.Hit

namespace Store

/-- Nothing expires. -/
structure Settings.Lasting (s : Settings) : Prop where
  afterWrite : s.afterWrite = none
  afterAccess : s.afterAccess = none

theorem Settings.Lasting.not_expired {settings : Settings} (h : settings.Lasting) (now : Nat)
    (e : Entry κ α) : settings.expired now e = false := by
  rw [expired, h.afterWrite, h.afterAccess]
  rfl

/-- The keys of the smaller one of two stores are among those of the larger one, in the same order,
and the larger one has at most as many more as its capacity allows for. -/
structure Covers (s l : Nat) (small large : List κ) : Prop where
  sublist : small.Sublist large
  nodup : large.Nodup
  small_le : small.length ≤ s
  large_le : large.length ≤ l
  excess : large.length + s ≤ small.length + l

theorem evictExpired_eq_self {s : Store κ α} (lasting : s.settings.Lasting) (now : Nat) :
    s.evictExpired now = s := by
  simp [evictExpired, lasting.not_expired]

section Keys

variable {s l : Nat} {small large ks : List κ} {key : κ}

theorem covers_nil (h : s ≤ l) : Covers s l ([] : List κ) [] :=
  ⟨.slnil, .nil, Nat.zero_le _, Nat.zero_le _, by simpa using h⟩

variable [DecidableEq κ]

/-- The keys after one of them is used, the last ones of them as many as there is room for. -/
def used (capacity : Nat) (key : κ) (ks : List κ) : List κ :=
  (ks.filter (· != key) ++ [key]).drop ((ks.filter (· != key)).length + 1 - capacity)

theorem length_used : (used l key ks).length = min ((ks.filter (· != key)).length + 1) l := by
  simp only [used, List.length_drop, List.length_append, List.length_singleton]
  omega

theorem length_filter_of_mem (h : ks.Nodup) (hkey : key ∈ ks) :
    (ks.filter (· != key)).length + 1 = ks.length := by
  have hpos : 0 < ks.length := List.length_pos_of_mem hkey
  rw [← h.erase_eq_filter, List.length_erase_of_mem hkey]
  omega

theorem filter_of_not_mem (hkey : key ∉ ks) : ks.filter (· != key) = ks := by
  rw [List.filter_eq_self]
  intro k hk
  have hne : k ≠ key := fun heq => hkey (heq ▸ hk)
  simpa using hne

/-- Using a key that is there drops nothing. -/
theorem used_of_mem (h : ks.Nodup) (hkey : key ∈ ks) (hle : ks.length ≤ l) :
    used l key ks = ks.filter (· != key) ++ [key] := by
  have hlength := length_filter_of_mem h hkey
  have hdrop : (ks.filter (· != key)).length + 1 - l = 0 := by omega
  rw [used, hdrop, List.drop_zero]

theorem Covers.removed (h : Covers s l small large) (key : κ) :
    Covers s l (small.filter (· != key)) (large.filter (· != key)) := by
  refine ⟨h.sublist.filter _, h.nodup.filter _,
    Nat.le_trans (List.length_filter_le _ _) h.small_le,
    Nat.le_trans (List.length_filter_le _ _) h.large_le, ?_⟩
  have hexcess := h.excess
  by_cases hlarge : key ∈ large
  · have hlength := length_filter_of_mem h.nodup hlarge
    by_cases hsmall : key ∈ small
    · have hlength' := length_filter_of_mem (h.nodup.sublist h.sublist) hsmall
      omega
    · rw [filter_of_not_mem hsmall]
      omega
  · rw [filter_of_not_mem hlarge, filter_of_not_mem fun hsmall => hlarge (h.sublist.subset hsmall)]
    exact hexcess

theorem nodup_filter_append (h : ks.Nodup) (key : κ) : (ks.filter (· != key) ++ [key]).Nodup := by
  rw [List.nodup_append]
  refine ⟨h.filter _, List.nodup_singleton key, ?_⟩
  intro a ha b hb
  rw [List.mem_singleton.mp hb]
  simpa using (List.mem_filter.mp ha).2

/-- Both stores use a key, and the larger one drops no key that the smaller one keeps. -/
theorem Covers.used_both (h : Covers s l small large) (key : κ) :
    Covers s l (used s key small) (used l key large) := by
  have hothers := h.removed key
  have hexcess := hothers.excess
  have happend : (small.filter (· != key) ++ [key]).Sublist (large.filter (· != key) ++ [key]) :=
    hothers.sublist.append (.refl _)
  refine ⟨?_, ?_, ?_, ?_, ?_⟩
  · have hdrops : (large.filter (· != key)).length + 1 - l ≤
        (small.filter (· != key)).length + 1 - s := by omega
    exact (List.drop_sublist_drop_left _ hdrops).trans (happend.drop _)
  · exact (nodup_filter_append h.nodup key).sublist (List.drop_sublist _ _)
  · rw [length_used]
    omega
  · rw [length_used]
    omega
  · rw [length_used, length_used]
    omega

/-- Only the larger store uses a key. -/
theorem Covers.used_larger (h : Covers s l small large) (hsmall : key ∉ small)
    (hlarge : key ∈ large) : Covers s l small (used l key large) := by
  have hlength := length_filter_of_mem h.nodup hlarge
  have hexcess := h.excess
  have hbound := h.large_le
  rw [used_of_mem h.nodup hlarge hbound]
  refine ⟨?_, nodup_filter_append h.nodup key, h.small_le, ?_, ?_⟩
  · have hothers := (h.removed key).sublist
    rw [filter_of_not_mem hsmall] at hothers
    exact hothers.trans (List.sublist_append_left _ _)
  · simp only [List.length_append, List.length_singleton]
    omega
  · simp only [List.length_append, List.length_singleton]
    omega

end Keys

section Entries

variable [DecidableEq κ] {s t : Store κ α} {key : κ} {now : Nat}

theorem keys_without (key : κ) (es : List (Entry κ α)) :
    (without key es).map Entry.key = (es.map Entry.key).filter (· != key) := by
  rw [without, List.filter_map]
  rfl

theorem keys_insert (s : Store κ α) (key : κ) (value : α) (now : Nat) :
    (s.insert key value now).keys = used s.settings.maxSize key s.keys := by
  have hlength := congrArg List.length (keys_without key s.entries)
  rw [List.length_map] at hlength
  simp only [keys, insert, trim, lastEntries, used, List.map_drop, List.map_append, keys_without,
    List.map_singleton, List.length_append, List.length_singleton, hlength]

theorem find_of_not_mem (hkey : key ∉ s.keys) (now : Nat) : s.find key now = (none, s) := by
  rcases find_cases s key now with ⟨-, hfind⟩ | ⟨e, he, rfl, -⟩
  · exact hfind
  · exact absurd (List.mem_map_of_mem he) hkey

/-- A look-up of a key that is there answers a value and uses the key. -/
theorem find_of_mem (lasting : s.settings.Lasting) (distinct : s.keys.Nodup)
    (size_le : s.keys.length ≤ s.settings.maxSize) (hkey : key ∈ s.keys) (now : Nat) :
    ∃ value t, s.find key now = (some value, t) ∧ t.settings = s.settings ∧
      t.keys = used s.settings.maxSize key s.keys := by
  obtain ⟨e, he, hekey⟩ := List.mem_map.mp hkey
  rcases find_cases s key now with ⟨hnone, -⟩ | ⟨d, hd, hdkey, ⟨hexpired, -⟩ | ⟨-, hfind⟩⟩
  · exact absurd hekey (hnone e he)
  · rw [lasting.not_expired] at hexpired
    cases hexpired
  · refine ⟨d.value, _, hfind, rfl, ?_⟩
    rw [used_of_mem distinct hkey size_le]
    simp only [keys, List.map_append, keys_without, List.map_singleton, hdkey]

end Entries

/-- Nothing expires in two stores, and the second one covers the keys of the first one. -/
structure Includes (s t : Store κ α) : Prop where
  small : s.settings.Lasting
  large : t.settings.Lasting
  covers : Covers s.settings.maxSize t.settings.maxSize s.keys t.keys

section Includes

variable {s t s' t' : Store κ α} {key : κ} {now later : Nat}

theorem includes_empty {small large : Settings} (hsmall : small.Lasting) (hlarge : large.Lasting)
    (hle : small.maxSize ≤ large.maxSize) : Includes (empty small : Store κ α) (empty large) :=
  ⟨hsmall, hlarge, covers_nil hle⟩

theorem Includes.with_keys (h : Includes s t) (hs : s'.settings = s.settings)
    (ht : t'.settings = t.settings)
    (covers : Covers s.settings.maxSize t.settings.maxSize s'.keys t'.keys) : Includes s' t' := by
  refine ⟨?_, ?_, ?_⟩
  · rw [hs]
    exact h.small
  · rw [ht]
    exact h.large
  · rw [hs, ht]
    exact covers

theorem Includes.evictExpired (h : Includes s t) (now later : Nat) :
    Includes (s.evictExpired now) (t.evictExpired later) := by
  rw [evictExpired_eq_self h.small, evictExpired_eq_self h.large]
  exact h

theorem Includes.clear (h : Includes s t) : Includes s.clear t.clear := by
  have hexcess := h.covers.excess
  have hsub := h.covers.sublist.length_le
  refine h.with_keys rfl rfl (covers_nil ?_)
  omega

variable [DecidableEq κ]

theorem Includes.insert (h : Includes s t) (key : κ) (value value' : α) (now later : Nat) :
    Includes (s.insert key value now) (t.insert key value' later) := by
  refine h.with_keys rfl rfl ?_
  rw [keys_insert, keys_insert]
  exact h.covers.used_both key

theorem Includes.remove (h : Includes s t) (key : κ) :
    Includes (s.remove key).2 (t.remove key).2 := by
  refine h.with_keys rfl rfl ?_
  simp only [Store.remove, keys, keys_without]
  exact h.covers.removed key

theorem Includes.remove_isSome (h : Includes s t) {value : α}
    (hsome : (s.remove key).1 = some value) : ∃ value', (t.remove key).1 = some value' := by
  simp only [Store.remove, Option.map_eq_some_iff] at hsome ⊢
  obtain ⟨e, hentry, -⟩ := hsome
  obtain ⟨he, hkey⟩ := mem_of_entry? hentry
  have hlarge : e.key ∈ t.keys := h.covers.sublist.subset (List.mem_map_of_mem he)
  obtain ⟨d, hd, hdkey⟩ := List.mem_map.mp hlarge
  cases hentry' : t.entry? key with
  | none => exact absurd (hdkey.trans hkey) (entry_none_iff.mp hentry' d hd)
  | some d => exact ⟨d.value, d, rfl, rfl⟩

/-- All that a look-up does in two stores: both find the key, or only the larger one does, or
neither does. -/
theorem Includes.find_cases (h : Includes s t) (key : κ) (now later : Nat) :
    (∃ value value' s' t', s.find key now = (some value, s') ∧
        t.find key later = (some value', t') ∧ Includes s' t') ∨
      (∃ value t', s.find key now = (none, s) ∧ t.find key later = (some value, t') ∧
        Includes s t' ∧ ∀ new ended, Includes (s.insert key new ended) t') ∨
      s.find key now = (none, s) ∧ t.find key later = (none, t) := by
  have hsmall : s.keys.Nodup := h.covers.nodup.sublist h.covers.sublist
  by_cases hlarge : key ∈ t.keys
  · obtain ⟨value', t', hfind', ht, hused'⟩ :=
      find_of_mem h.large h.covers.nodup h.covers.large_le hlarge later
    by_cases hkey : key ∈ s.keys
    · obtain ⟨value, s', hfind, hs, hused⟩ :=
        find_of_mem h.small hsmall h.covers.small_le hkey now
      refine .inl ⟨value, value', s', t', hfind, hfind', h.with_keys hs ht ?_⟩
      rw [hused, hused']
      exact h.covers.used_both key
    · refine .inr (.inl ⟨value', t', find_of_not_mem hkey now, hfind', h.with_keys rfl ht ?_, ?_⟩)
      · rw [hused']
        exact h.covers.used_larger hkey hlarge
      · intro new ended
        refine h.with_keys rfl ht ?_
        rw [hused', keys_insert]
        exact h.covers.used_both key
  · have hkey : key ∉ s.keys := fun hkey => hlarge (h.covers.sublist.subset hkey)
    exact .inr (.inr ⟨find_of_not_mem hkey now, find_of_not_mem hlarge later⟩)

end Includes
end Store

variable [DecidableEq κ] {s t : Store κ α} {now later : Nat} {a : Action κ α ε}

open Timeline (callOn)

theorem Store.Includes.covered (h : s.Includes t)
    (hit : (a.effect s now).outcome.Hit → (a.effect t later).outcome.Hit) :
    (callOn s now a).Covered (callOn t later a) := by
  refine ⟨rfl, h.covers.sublist, ?_⟩
  rintro o ⟨⟩ ho
  exact ⟨_, rfl, hit ho⟩

theorem covered_obtain (h : s.Includes t) (key : κ) (takes : Nat) (result : Except ε α) :
    (callOn s now (.obtain key takes result none)).Covered
        (callOn t later (.obtain key takes result none)) ∧
      ((Action.obtain key takes result none).effect s now).store.Includes
        ((Action.obtain key takes result none).effect t later).store := by
  rcases h.find_cases key now later with ⟨value, value', s', t', hfind, hfind', hstores⟩ |
    ⟨value', t', hfind, hfind', hstores, hcomputed⟩ | ⟨hfind, hfind'⟩
  · refine ⟨h.covered fun _ => ?_, ?_⟩
    · rw [Action.effect_found hfind']
      trivial
    · rw [Action.effect_found hfind, Action.effect_found hfind']
      exact hstores
  · refine ⟨h.covered fun _ => ?_, ?_⟩
    · rw [Action.effect_found hfind']
      trivial
    · rw [Action.effect_missed hfind, Action.effect_found hfind']
      cases result with
      | ok value => exact hcomputed value _
      | error _ => exact hstores
  · refine ⟨h.covered fun hhit => ?_, ?_⟩
    · rw [Action.effect_missed hfind] at hhit
      exact absurd hhit Outcome.not_hit_started
    · rw [Action.effect_missed hfind, Action.effect_missed hfind']
      cases result with
      | ok value => exact h.insert key value value _ _
      | error _ => exact h

/-- A plain call on two stores. -/
theorem covered_effect (h : s.Includes t) (plain : a.Plain) (now later : Nat) :
    (callOn s now a).Covered (callOn t later a) ∧
      (a.effect s now).store.Includes (a.effect t later).store := by
  cases a with
  | advance nanos => exact ⟨h.covered id, h⟩
  | find key =>
      rcases h.find_cases key now later with ⟨value, value', s', t', hfind, hfind', hstores⟩ |
        ⟨value', t', hfind, hfind', hstores, -⟩ | ⟨hfind, hfind'⟩ <;>
        simp only [Action.effect, hfind, hfind']
      · exact ⟨h.covered fun _ => by simp [Action.effect, hfind', Outcome.Hit], hstores⟩
      · exact ⟨h.covered fun _ => by simp [Action.effect, hfind', Outcome.Hit], hstores⟩
      · exact ⟨h.covered fun hhit => by simp [Action.effect, hfind, Outcome.Hit] at hhit, h⟩
  | insert key value => exact ⟨h.covered id, h.insert key value value now later⟩
  | remove key =>
      refine ⟨h.covered fun hhit => ?_, h.remove key⟩
      cases hvalue : (s.remove key).1 with
      | none => simp [Action.effect, hvalue, Outcome.Hit] at hhit
      | some value =>
          obtain ⟨value', hvalue'⟩ := h.remove_isSome hvalue
          simp [Action.effect, hvalue', Outcome.Hit]
  | evictExpired => exact ⟨h.covered id, h.evictExpired now later⟩
  | clear => exact ⟨h.covered id, h.clear⟩
  | trim size => cases plain
  | resize size => cases plain
  | obtain key takes result patience =>
      obtain rfl : patience = none := plain
      exact covered_obtain h key takes result

namespace Timeline

/-- Two sessions of the same calls. -/
theorem covered_session {actions : List (Action κ α ε)} (plain : ∀ a ∈ actions, a.Plain)
    (h : s.Includes t) (m n : Nat) :
    List.Forall₂ Call.Covered ((quiet now s m).session actions).1
        ((quiet later t n).session actions).1 ∧
      ((quiet now s m).session actions).2.flights.store.Includes
        ((quiet later t n).session actions).2.flights.store := by
  induction actions generalizing now later s t m n with
  | nil => exact ⟨.nil, h⟩
  | cons a rest ih =>
      have ha := plain a List.mem_cons_self
      obtain ⟨m', hcons⟩ := session_cons now s m ha.patient rest
      obtain ⟨n', hcons'⟩ := session_cons later t n ha.patient rest
      obtain ⟨hcall, hstores⟩ := covered_effect h ha now later
      rw [hcons, hcons', List.forall₂_cons, and_assoc]
      exact ⟨hcall, ih (fun b hb => plain b (List.mem_cons_of_mem a hb)) hstores m' n'⟩

/-- Where nothing expires, the larger one of two stores has all keys of the smaller one in the same
order after any calls, and hits whenever the smaller one does. -/
theorem larger_store_hits {small large : Store.Settings} {actions : List (Action κ α ε)}
    (hsmall : small.Lasting) (hlarge : large.Lasting) (hle : small.maxSize ≤ large.maxSize)
    (plain : ∀ a ∈ actions, a.Plain) :
    List.Forall₂ Call.Covered ((ofStore (.empty small)).session actions).1
        ((ofStore (.empty large)).session actions).1 ∧
      ((ofStore (.empty small)).session actions).2.flights.store.keys.Sublist
        ((ofStore (.empty large)).session actions).2.flights.store.keys := by
  obtain ⟨hcalls, hstores⟩ := covered_session plain
    (Store.includes_empty (α := α) hsmall hlarge hle) 0 0
  exact ⟨hcalls, hstores.covers.sublist⟩

/-- A key that only the larger store still has is looked up, and the other one is removed. -/
theorem larger_store_hits_sample :
    let actions : List (Action Nat Nat Unit) :=
      [.insert 1 5, .obtain 2 3 (.ok 6) none, .find 1, .remove 2, .obtain 1 4 (.error ()) none]
    let small := (ofStore (.empty { maxSize := 1 })).session actions
    let large := (ofStore (.empty { maxSize := 2 })).session actions
    List.Forall₂ Call.Covered small.1 large.1 ∧
      small.2.flights.store.keys.Sublist large.2.flights.store.keys ∧
        small.1.map (fun c => c.before.keys) = [[], [1], [2], [2], []] ∧
        large.1.map (fun c => c.before.keys) = [[], [1], [1, 2], [2, 1], [1]] := by
  have lasting : ∀ size, ({ maxSize := size } : Store.Settings).Lasting := fun _ => ⟨rfl, rfl⟩
  have covered := larger_store_hits (lasting 1) (lasting 2) (by decide)
    (show ∀ a ∈ ([.insert 1 5, .obtain 2 3 (.ok 6) none, .find 1, .remove 2,
      .obtain 1 4 (.error ()) none] : List (Action Nat Nat Unit)), a.Plain by decide)
  exact ⟨covered.1, covered.2, rfl, rfl⟩

end Timeline
end EntityTrust
