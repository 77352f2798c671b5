import EntityTrust.Proofs.Store.Entries
import EntityTrust.Proofs.Store.Session
import Mathlib.Data.List.Chain
import Mathlib.Data.List.Induction

/-!
# What a store recalls

What a store answers for a key depends on the history of that key alone, as long as nothing has to
give way to other keys.

**Histories.**  The calls of a session use a key: they write it, look it up, or drop it
(`Call.uses`).  `Recalled` says of such a history that its last write is still answered: nothing but
look-ups came after it, the time since it is short enough, and so is every gap from it through the
look-ups up to now.

**Entries.**  `Tracks` ties the entries of a store to a history.  An entry of the key is that of the
last write, was last used at the last look-up, and no gap before that was too long; and if there is
none, then whatever was written last will not be answered again.

**Results.**

* `tracks_…` are the steps, by what they do to the key.  `tracks_effect` is a whole call.
* `Tracks.find_iff` reads the answer off the history.
-/

namespace EntityTrust

variable {κ α ε : Type}

/-- What is done with a key. -/
inductive Use (α : Type)
  | wrote (value : α) (instant : Nat)
  | looked (instant : Nat)
  | dropped

/-- The key and the value that a call stores. -/
def Call.written? (c : Call κ α ε) : Option (κ × α) :=
  match c.action, c.outcome with
  | .insert key value, _ => some (key, value)
  | .obtain key _ _ _, some (.obtained (.ok value) true) => some (key, value)
  | _, _ => none

/-- There is room for what a call stores beside the entries of the other keys. -/
def Call.Roomy [DecidableEq κ] (c : Call κ α ε) : Prop :=
  ∀ w ∈ c.written?,
    (Store.without w.1 c.before.entries).length + 1 ≤ c.before.settings.maxSize
  deriving Decidable

/-- A call is none that changes the capacity or trims, and waits until it has its result. -/
def Action.Plain : Action κ α ε → Prop
  | .trim _ | .resize _ => False
  | .obtain _ _ _ patience => patience = none
  | _ => True

instance (a : Action κ α ε) : Decidable a.Plain :=
  match a with
  | .trim _ | .resize _ => isFalse id
  | .obtain _ _ _ patience => inferInstanceAs (Decidable (patience = none))
  | .advance _ | .find _ | .insert _ _ | .remove _ | .evictExpired | .clear => isTrue trivial

theorem Action.Plain.patient {a : Action κ α ε} (h : a.Plain) : a.Patient := by
  cases a <;> first | exact h | trivial

section Uses

variable [DecidableEq κ]

/-- The write of a key by a call. -/
def Call.writes (key : κ) (c : Call κ α ε) : List (Use α) :=
  match c.written? with
  | some (k, value) => if k = key then [.wrote value c.ended] else []
  | none => []

/-- What a call does with a key. -/
def Call.uses (key : κ) (c : Call κ α ε) : List (Use α) :=
  match c.action with
  | .find k => if k = key then [.looked c.begun] else []
  | .obtain k _ _ _ => if k = key then .looked c.begun :: c.writes key else []
  | .insert _ _ => c.writes key
  | .remove k => if k = key then [.dropped] else []
  | .clear => [.dropped]
  | .advance _ | .evictExpired | .trim _ | .resize _ => []

/-- What some calls do with a key, one after the other. -/
def Call.history (key : κ) (calls : List (Call κ α ε)) : List (Use α) :=
  calls.flatMap (Call.uses key)

end Uses

namespace Store

/-- After the write of a value, a history has nothing but look-ups. -/
def LastWrite (history : List (Use α)) (value : α) (written : Nat) (lookups : List Nat) : Prop :=
  ∃ before, history = before ++ .wrote value written :: lookups.map .looked

/-- No gap from a write through the look-ups up to an instant is too long. -/
def Settings.Unbroken (settings : Settings) (instants : List Nat) : Prop :=
  instants.IsChain (Within settings.afterAccess)

/-- A value is still answered at an instant: its write is the last one and is recent enough, and it
was looked up often enough since. -/
def Recalled (settings : Settings) (history : List (Use α)) (value : α) (now : Nat) : Prop :=
  ∃ written lookups, LastWrite history value written lookups ∧
    Within settings.afterWrite written now ∧ settings.Unbroken (written :: lookups ++ [now])

section Histories

variable {history : List (Use α)} {value v : α} {written w now later : Nat}
  {lookups ls : List Nat} {settings : Settings}

theorem lastWrite_append {use : Use α} :
    LastWrite (history ++ [use]) value written lookups ↔
      use = .wrote value written ∧ lookups = [] ∨
        ∃ now ls, use = .looked now ∧ lookups = ls ++ [now] ∧ LastWrite history value written ls := by
  constructor
  · rintro ⟨before, h⟩
    rcases List.eq_nil_or_concat lookups with rfl | ⟨ls, now, rfl⟩
    · obtain ⟨-, huse⟩ := List.append_inj' h rfl
      exact .inl ⟨by simpa using huse, rfl⟩
    · have hsplit : history ++ [use] =
          (before ++ .wrote value written :: ls.map .looked) ++ [.looked now] := by
        simpa using h
      obtain ⟨hhistory, huse⟩ := List.append_inj' hsplit rfl
      exact .inr ⟨now, ls, by simpa using huse, List.concat_eq_append, before, hhistory⟩
  · rintro (⟨rfl, rfl⟩ | ⟨now, ls, rfl, rfl, before, rfl⟩)
    · exact ⟨history, rfl⟩
    · exact ⟨before, by simp⟩

theorem lastWrite_wrote :
    LastWrite (history ++ [.wrote v w]) value written lookups ↔
      v = value ∧ w = written ∧ lookups = [] := by
  simp [lastWrite_append, and_assoc]

theorem lastWrite_looked :
    LastWrite (history ++ [.looked now]) value written lookups ↔
      ∃ ls, lookups = ls ++ [now] ∧ LastWrite history value written ls := by
  simp [lastWrite_append]

theorem not_lastWrite_dropped : ¬ LastWrite (history ++ [.dropped]) value written lookups := by
  simp [lastWrite_append]

theorem LastWrite.unique (h : LastWrite history value written lookups)
    (h' : LastWrite history v w ls) : value = v ∧ written = w ∧ lookups = ls := by
  induction history using List.reverseRecOn generalizing lookups ls with
  | nil =>
      obtain ⟨before, hnil⟩ := h
      simp at hnil
  | append_singleton history use ih =>
      rcases lastWrite_append.mp h with ⟨rfl, rfl⟩ | ⟨now, l, rfl, rfl, hl⟩
      · obtain ⟨rfl, rfl, rfl⟩ := lastWrite_wrote.mp h'
        exact ⟨rfl, rfl, rfl⟩
      · obtain ⟨l', rfl, hl'⟩ := lastWrite_looked.mp h'
        obtain ⟨rfl, rfl, rfl⟩ := ih hl hl'
        exact ⟨rfl, rfl, rfl⟩

/-- A last instant is joined to a chain of uses by the gap from the last of them. -/
theorem unbroken_append {last : Nat} (h : (written :: lookups).getLast? = some last) :
    settings.Unbroken (written :: lookups ++ [now]) ↔
      settings.Unbroken (written :: lookups) ∧ Within settings.afterAccess last now := by
  rw [Settings.Unbroken, List.isChain_append, h]
  simp [Settings.Unbroken]

/-- What is answered after a look-up was answered by it. -/
theorem recalled_of_looked (h : Recalled settings (history ++ [.looked now]) value later)
    (hle : now ≤ later) : Recalled settings history value now := by
  obtain ⟨written, lookups, hlast, hwrite, hchain⟩ := h
  obtain ⟨ls, rfl, hlast'⟩ := lastWrite_looked.mp hlast
  refine ⟨written, ls, hlast', hwrite.mono hle, ?_⟩
  rw [← List.cons_append] at hchain
  exact hchain.left_of_append

end Histories

/-- The entries of a store are what the history of a key says. -/
structure Tracks (s : Store κ α) (now : Nat) (key : κ) (history : List (Use α)) : Prop where
  present : ∀ e ∈ s.entries, e.key = key → ∃ lookups,
    LastWrite history e.value e.written lookups ∧ s.settings.Unbroken (e.written :: lookups) ∧
      (e.written :: lookups).getLast? = some e.accessed
  absent : (∀ e ∈ s.entries, e.key ≠ key) →
    ∀ value later, now ≤ later → ¬ Recalled s.settings history value later

section Tracks

variable {s t : Store κ α} {now later : Nat} {key : κ} {history : List (Use α)} {value : α}
  {e : Entry κ α}

/-- What is recalled of a key with an entry is the value of that entry, unless it is expired. -/
theorem Tracks.recalled_iff (h : Tracks s now key history) (he : e ∈ s.entries)
    (hkey : e.key = key) :
    Recalled s.settings history value later ↔
      e.value = value ∧ s.settings.expired later e = false := by
  obtain ⟨lookups, hlast, hchain, haccessed⟩ := h.present e he hkey
  constructor
  · rintro ⟨written, ls, hlast', hwrite, hchain'⟩
    obtain ⟨rfl, rfl, rfl⟩ := hlast.unique hlast'
    exact ⟨rfl, Settings.expired_eq_false.mpr ⟨hwrite, ((unbroken_append haccessed).mp hchain').2⟩⟩
  · rintro ⟨rfl, hlive⟩
    obtain ⟨hwrite, haccess⟩ := Settings.expired_eq_false.mp hlive
    exact ⟨e.written, lookups, hlast, hwrite, (unbroken_append haccessed).mpr ⟨hchain, haccess⟩⟩

theorem Tracks.mono (h : Tracks s now key history) (hle : now ≤ later) :
    Tracks s later key history where
  present := h.present
  absent hnone v l hl := h.absent hnone v l (Nat.le_trans hle hl)

/-- A key is tracked on where only the entry of another one is touched. -/
theorem Tracks.of_same (h : Tracks s now key history) {k : κ} (hk : k ≠ key)
    (hsettings : t.settings = s.settings)
    (same : ∀ e : Entry κ α, e.key ≠ k → (e ∈ t.entries ↔ e ∈ s.entries)) :
    Tracks t now key history := by
  have hown : ∀ e : Entry κ α, e.key = key → (e ∈ t.entries ↔ e ∈ s.entries) :=
    fun e hkey => same e fun hek => hk (hek.symm.trans hkey)
  constructor
  · intro e he hkey
    rw [hsettings]
    exact h.present e ((hown e hkey).mp he) hkey
  · intro hnone
    rw [hsettings]
    exact h.absent fun e he hkey => hnone e ((hown e hkey).mpr he) hkey

/-- Without a live entry nothing is recalled. -/
theorem Tracks.not_recalled (h : Tracks s now key history) (dead : ¬ s.Live key now)
    (hle : now ≤ later) : ¬ Recalled s.settings history value later := by
  intro hrecalled
  by_cases hnone : ∀ e ∈ s.entries, e.key ≠ key
  · exact h.absent hnone value later hle hrecalled
  · push Not at hnone
    obtain ⟨e, he, hkey⟩ := hnone
    have hlive := ((h.recalled_iff he hkey).mp hrecalled).2
    rw [Settings.expired_mono (expired_of_not_live dead he hkey) hle] at hlive
    cases hlive

theorem tracks_empty (settings : Settings) (key : κ) :
    Tracks (empty settings : Store κ α) 0 key [] where
  present e he := by cases he
  absent := by
    rintro - v l - ⟨written, lookups, ⟨before, hnil⟩, -⟩
    simp at hnil

theorem tracks_dropped (hnone : ∀ e ∈ s.entries, e.key ≠ key) :
    Tracks s now key (history ++ [.dropped]) where
  present e he hkey := absurd hkey (hnone e he)
  absent := by
    rintro - v l - ⟨written, lookups, hlast, -⟩
    exact not_lastWrite_dropped hlast

theorem tracks_evictExpired (h : Tracks s now key history) :
    Tracks (s.evictExpired now) now key history where
  present e he := h.present e (mem_evictExpired.mp he).1
  absent hnone v l hle := by
    refine h.not_recalled ?_ hle
    rintro ⟨e, he, hkey, hlive⟩
    exact hnone e (mem_evictExpired.mpr ⟨he, hlive⟩) hkey

variable [DecidableEq κ]

/-- The answer of a look-up is what its history recalls. -/
theorem Tracks.find_iff (h : Tracks s now key history) (hdistinct : s.Distinct) :
    (s.find key now).1 = some value ↔ Recalled s.settings history value now := by
  by_cases live : s.Live key now
  · obtain ⟨e, he, hkey, hlive⟩ := live
    rw [hdistinct.find_of_live he hkey hlive, h.recalled_iff he hkey]
    simp [hlive]
  · rw [find_of_not_live live]
    exact iff_of_false (by simp) (h.not_recalled live (Nat.le_refl now))

theorem tracks_find (h : Tracks s now key history) (hdistinct : s.Distinct) :
    Tracks (s.find key now).2 now key (history ++ [.looked now]) := by
  by_cases live : s.Live key now
  · obtain ⟨e, he, hkey, hlive⟩ := live
    rw [hdistinct.find_of_live he hkey hlive]
    obtain ⟨lookups, hlast, hchain, haccessed⟩ := h.present e he hkey
    have haccess := (Settings.expired_eq_false.mp hlive).2
    refine ⟨?_, fun hnone => absurd hkey (hnone { e with accessed := now } (by simp))⟩
    intro d hd hdkey
    rcases List.mem_append.mp hd with hd | hd
    · exact absurd hdkey (mem_without.mp hd).2
    obtain rfl := List.mem_singleton.mp hd
    refine ⟨lookups ++ [now], lastWrite_looked.mpr ⟨lookups, rfl, hlast⟩,
      (unbroken_append haccessed).mpr ⟨hchain, haccess⟩, ?_⟩
    rw [← List.cons_append, List.getLast?_concat]
  · rw [find_of_not_live live]
    refine ⟨fun d hd hdkey => absurd hdkey (mem_without.mp hd).2, ?_⟩
    intro _ v l hle hrecalled
    exact h.not_recalled live (Nat.le_refl now) (recalled_of_looked hrecalled hle)

theorem tracks_insert (room : (without key s.entries).length + 1 ≤ s.settings.maxSize) :
    Tracks (s.insert key value now) now key (history ++ [.wrote value now]) := by
  rw [insert_of_room value now room]
  refine ⟨?_, fun hnone => absurd rfl (hnone ⟨key, value, now, now⟩ (by simp))⟩
  intro d hd hdkey
  rcases List.mem_append.mp hd with hd | hd
  · exact absurd hdkey (mem_without.mp hd).2
  obtain rfl := List.mem_singleton.mp hd
  exact ⟨[], lastWrite_wrote.mpr ⟨rfl, rfl, rfl⟩, List.isChain_singleton _, rfl⟩

theorem Tracks.of_find (h : Tracks s now key history) {k : κ} (hk : k ≠ key) :
    Tracks (s.find k now).2 now key history := by
  refine h.of_same hk settings_find ?_
  intro e hne
  rcases find_cases s k now with ⟨-, hfind⟩ | ⟨d, -, hd, ⟨-, hfind⟩ | ⟨-, hfind⟩⟩
  · rw [hfind]
  · simp [hfind, mem_without, hne]
  · have hed : e ≠ { d with accessed := now } := by
      rintro rfl
      exact hne hd
    simp [hfind, mem_without, hne, hed]

theorem Tracks.of_insert (h : Tracks s now key history) {k : κ} (hk : k ≠ key)
    (room : (without k s.entries).length + 1 ≤ s.settings.maxSize) :
    Tracks (s.insert k value now) now key history := by
  refine h.of_same hk rfl ?_
  intro e hne
  have hed : e ≠ ⟨k, value, now, now⟩ := by
    rintro rfl
    exact hne rfl
  rw [insert_of_room value now room]
  simp [mem_without, hne, hed]

theorem Tracks.of_remove (h : Tracks s now key history) {k : κ} (hk : k ≠ key) :
    Tracks (s.remove k).2 now key history := by
  refine h.of_same hk rfl ?_
  intro e hne
  simp [remove, mem_without, hne]

end Tracks
end Store

section Calls

variable [DecidableEq κ] {s : Store κ α} {now : Nat} {key : κ} {history : List (Use α)}
  {a : Action κ α ε}

theorem Store.distinct_storeResult (h : s.Distinct) (result : Except ε α) :
    (Flights.storeResult s key now result).Distinct := by
  cases result with
  | ok value => exact distinct_insert h
  | error _ => exact h

theorem Action.distinct_effect (a : Action κ α ε) (h : s.Distinct) :
    (a.effect s now).store.Distinct := by
  cases a with
  | advance nanos => exact h
  | find k => exact Store.distinct_find h
  | insert k value => exact Store.distinct_insert h
  | remove k => exact Store.distinct_remove h
  | evictExpired => exact Store.distinct_evictExpired h
  | clear => exact Store.distinct_empty s.settings
  | trim size => exact Store.distinct_of_sublist h (Store.trim_sublist s size)
  | resize size => exact Store.distinct_of_sublist h (Store.trim_sublist _ size)
  | obtain k takes result patience =>
      have hdistinct : (s.find k now).2.Distinct := Store.distinct_find h
      rcases hfind : s.find k now with ⟨_ | value, s'⟩
      · rw [effect_missed hfind]
        rw [hfind] at hdistinct
        exact Store.distinct_storeResult hdistinct result
      · rw [effect_found hfind]
        rw [hfind] at hdistinct
        exact hdistinct

theorem Action.Plain.settings_effect (h : a.Plain) : (a.effect s now).store.settings = s.settings := by
  cases a with
  | find k => exact Store.settings_find
  | trim size => cases h
  | resize size => cases h
  | obtain k takes result patience =>
      have hsettings : (s.find k now).2.settings = s.settings := Store.settings_find
      rcases hfind : s.find k now with ⟨_ | value, s'⟩
      · rw [effect_missed hfind]
        rw [hfind] at hsettings
        cases result <;> exact hsettings
      · rw [effect_found hfind]
        rw [hfind] at hsettings
        exact hsettings
  | _ => rfl

theorem Store.tracks_looks (h : s.Tracks now key history) (hdistinct : s.Distinct) (k : κ) :
    (s.find k now).2.Tracks now key (history ++ if k = key then [.looked now] else []) := by
  by_cases hk : k = key
  · subst hk
    simpa using tracks_find h hdistinct
  · simpa [hk] using h.of_find hk

theorem Store.tracks_writes (value : α) (h : s.Tracks now key history) {k : κ}
    (room : (without k s.entries).length + 1 ≤ s.settings.maxSize) :
    (s.insert k value now).Tracks now key
      (history ++ if k = key then [.wrote value now] else []) := by
  by_cases hk : k = key
  · subst hk
    simpa using tracks_insert room
  · simpa [hk] using h.of_insert hk room

theorem Store.tracks_removes (h : s.Tracks now key history) (k : κ) :
    (s.remove k).2.Tracks now key (history ++ if k = key then [.dropped] else []) := by
  by_cases hk : k = key
  · subst hk
    rw [if_pos rfl]
    exact tracks_dropped fun e he => (mem_without.mp he).2
  · simpa [hk] using h.of_remove hk

/-- A caller looks its key up, and writes it only if it has a value computed. -/
theorem tracks_obtain (h : s.Tracks now key history) (hdistinct : s.Distinct) {k : κ}
    {takes : Nat} {result : Except ε α}
    (roomy : (Timeline.callOn s now (.obtain k takes result none)).Roomy) :
    ((Action.obtain k takes result none).effect s now).store.Tracks
      ((Action.obtain k takes result none).effect s now).ended key
      (history ++ (Timeline.callOn s now (.obtain k takes result none)).uses key) := by
  have hlooked := Store.tracks_looks h hdistinct k
  rcases hfind : s.find k now with ⟨_ | value, s'⟩
  · have hlater := hlooked.mono (Nat.le_add_right now takes)
    rw [hfind] at hlater
    rw [Action.effect_missed hfind]
    cases result with
    | ok value =>
        have hroom := roomy (k, value)
          (by simp [Call.written?, Timeline.callOn, Action.effect_missed hfind])
        obtain rfl := Store.eq_of_find_eq_none hfind
        have hroom' : (Store.without k (Store.without k s.entries)).length + 1 ≤
            s.settings.maxSize := by
          rw [Store.without_without]
          exact hroom
        have hwritten := Store.tracks_writes value hlater hroom'
        rw [List.append_assoc] at hwritten
        simp only [Call.uses, Call.writes, Call.written?, Timeline.callOn,
          Action.effect_missed hfind]
        by_cases hk : k = key
        · simp only [if_pos hk] at hwritten ⊢
          exact hwritten
        · simp only [if_neg hk] at hwritten ⊢
          exact hwritten
    | error e =>
        simpa [Call.uses, Call.writes, Call.written?, Timeline.callOn,
          Action.effect_missed hfind, Flights.storeResult] using hlater
  · rw [hfind] at hlooked
    rw [Action.effect_found hfind]
    simpa [Call.uses, Call.writes, Call.written?, Timeline.callOn, Action.effect_found hfind]
      using hlooked

/-- A plain call leaves the entries that the histories with it tell. -/
theorem tracks_effect (h : s.Tracks now key history) (hdistinct : s.Distinct) (plain : a.Plain)
    (roomy : (Timeline.callOn s now a).Roomy) :
    (a.effect s now).store.Tracks (a.effect s now).ended key
      (history ++ (Timeline.callOn s now a).uses key) := by
  cases a with
  | advance nanos =>
      rw [show (Timeline.callOn s now (.advance nanos)).uses key = [] from rfl, List.append_nil]
      exact h.mono (Nat.le_add_right now nanos)
  | find k => exact Store.tracks_looks h hdistinct k
  | insert k value => exact Store.tracks_writes value h (roomy (k, value) rfl)
  | remove k => exact Store.tracks_removes h k
  | evictExpired =>
      rw [show (Timeline.callOn s now .evictExpired).uses key = [] from rfl, List.append_nil]
      exact Store.tracks_evictExpired h
  | clear => exact Store.tracks_dropped fun e he => by cases he
  | trim size => cases plain
  | resize size => cases plain
  | obtain k takes result patience =>
      obtain rfl : patience = none := plain
      exact tracks_obtain h hdistinct roomy

end Calls
end EntityTrust
