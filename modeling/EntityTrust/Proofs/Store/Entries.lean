import EntityTrust.Store.Basic
import Mathlib.Data.List.Nodup

/-!
# The entries of a store

What the operations on a store do to its entries, as a set: which ones are kept, which one is new.

**Keys.**  A store is `Distinct` when no two of its entries have the same key.  Every operation
keeps it so, and then the entry of a key is the one that is there.

**Look-ups.**  `find_cases` says all that a look-up does: there is no entry, or the entry is expired
and dropped, or it is answered and becomes the most recently used one.
-/

namespace EntityTrust
namespace Store

variable {κ α : Type} {s : Store κ α} {key k : κ} {e : Entry κ α} {now size : Nat}

/-- No two entries have the same key. -/
def Distinct (s : Store κ α) : Prop :=
  (s.entries.map Entry.key).Nodup

/-- A store has an entry of a key that is expired at an instant. -/
def Expired (s : Store κ α) (key : κ) (now : Nat) : Prop :=
  ∃ e ∈ s.entries, e.key = key ∧ s.settings.expired now e = true

/-- A store has an entry of a key that is not expired at an instant. -/
def Live (s : Store κ α) (key : κ) (now : Nat) : Prop :=
  ∃ e ∈ s.entries, e.key = key ∧ s.settings.expired now e = false

/-- A set time has not passed since an instant. -/
def Within (time : Option Duration) (since now : Nat) : Prop :=
  ∀ d, time = some d → now - since < d.nanos

/-- Trimming to a size drops the entry of a key. -/
def Drops (s : Store κ α) (size : Nat) (key : κ) : Prop :=
  ∃ e ∈ s.entries, e.key = key ∧ e ∉ (s.trim size).entries

theorem Distinct.eq_of_mem (h : Distinct s) {e d : Entry κ α} (he : e ∈ s.entries)
    (hd : d ∈ s.entries) (hkey : e.key = d.key) : e = d :=
  List.inj_on_of_nodup_map h he hd hkey

theorem distinct_of_sublist {t : Store κ α} (h : Distinct s) (hsub : t.entries.Sublist s.entries) :
    Distinct t :=
  h.sublist (hsub.map Entry.key)

theorem distinct_empty (settings : Settings) : Distinct (empty settings : Store κ α) :=
  List.nodup_nil

theorem trim_sublist (s : Store κ α) (size : Nat) : (s.trim size).entries.Sublist s.entries :=
  List.drop_sublist _ _

theorem size_trim_le (s : Store κ α) (size : Nat) : (s.trim size).size ≤ size := by
  simp only [Store.size, trim, lastEntries, List.length_drop]
  omega

theorem trim_eq_self (h : s.entries.length ≤ size) : s.trim size = s := by
  have hdrop : s.entries.length - size = 0 := by omega
  simp [trim, lastEntries, hdrop]

theorem drops_of_not_mem (he : e ∈ s.entries) (h : e ∉ (s.trim size).entries) :
    s.Drops size e.key :=
  ⟨e, he, rfl, h⟩

theorem mem_evictExpired :
    e ∈ (s.evictExpired now).entries ↔ e ∈ s.entries ∧ s.settings.expired now e = false := by
  simp [evictExpired]

theorem distinct_evictExpired (h : Distinct s) : Distinct (s.evictExpired now) :=
  distinct_of_sublist h List.filter_sublist

theorem Within.mono {time : Option Duration} {since later : Nat} (h : Within time since later)
    (hle : now ≤ later) : Within time since now := by
  intro d hd
  have := h d hd
  omega

theorem within_iff {time : Option Duration} {since : Nat} :
    Within time since now ↔ elapsed now since time = false := by
  cases time <;> simp [Within, elapsed]

theorem Settings.expired_eq_false {settings : Settings} :
    settings.expired now e = false ↔
      Within settings.afterWrite e.written now ∧ Within settings.afterAccess e.accessed now := by
  rw [expired, Bool.or_eq_false_iff, within_iff, within_iff]

/-- An expired entry stays expired. -/
theorem Settings.expired_mono {settings : Settings} {later : Nat} (h : settings.expired now e = true)
    (hle : now ≤ later) : settings.expired later e = true := by
  rw [← Bool.not_eq_false, expired_eq_false] at h ⊢
  exact fun hlater => h ⟨hlater.1.mono hle, hlater.2.mono hle⟩

theorem expired_of_not_live (h : ¬ s.Live key now) (he : e ∈ s.entries) (hkey : e.key = key) :
    s.settings.expired now e = true := by
  by_contra hlive
  exact h ⟨e, he, hkey, by simpa using hlive⟩

variable [DecidableEq κ]

theorem mem_without {es : List (Entry κ α)} : e ∈ without key es ↔ e ∈ es ∧ e.key ≠ key := by
  simp [without]

theorem without_sublist (key : κ) (es : List (Entry κ α)) : (without key es).Sublist es :=
  List.filter_sublist

theorem without_eq_self {es : List (Entry κ α)} (h : ∀ e ∈ es, e.key ≠ key) :
    without key es = es := by
  rw [without, List.filter_eq_self]
  intro e he
  simpa using h e he

theorem without_without (key : κ) (es : List (Entry κ α)) :
    without key (without key es) = without key es :=
  without_eq_self fun _ he => (mem_without.mp he).2

theorem mem_of_entry? (h : s.entry? key = some e) : e ∈ s.entries ∧ e.key = key := by
  have hkey := List.find?_some h
  exact ⟨List.mem_of_find?_eq_some h, by simpa using hkey⟩

theorem entry_none_iff : s.entry? key = none ↔ ∀ e ∈ s.entries, e.key ≠ key := by
  unfold entry?
  simp

theorem Distinct.entry_some_iff (h : Distinct s) :
    s.entry? key = some e ↔ e ∈ s.entries ∧ e.key = key := by
  constructor
  · exact mem_of_entry?
  · rintro ⟨he, rfl⟩
    cases hentry : s.entry? e.key with
    | none => exact absurd rfl (entry_none_iff.mp hentry e he)
    | some d =>
        obtain ⟨hd, hkey⟩ := mem_of_entry? hentry
        rw [h.eq_of_mem hd he hkey]

/-- All that a look-up does. -/
theorem find_cases (s : Store κ α) (key : κ) (now : Nat) :
    (∀ e ∈ s.entries, e.key ≠ key) ∧ s.find key now = (none, s) ∨
      ∃ e ∈ s.entries, e.key = key ∧
        (s.settings.expired now e = true ∧
            s.find key now = (none, { s with entries := without key s.entries }) ∨
          s.settings.expired now e = false ∧
            s.find key now = (some e.value,
              { s with entries := without key s.entries ++ [{ e with accessed := now }] })) := by
  cases hentry : s.entry? key with
  | none => exact .inl ⟨entry_none_iff.mp hentry, by simp [find, hentry]⟩
  | some e =>
      obtain ⟨he, hkey⟩ := mem_of_entry? hentry
      refine .inr ⟨e, he, hkey, ?_⟩
      cases hexpired : s.settings.expired now e with
      | true => exact .inl ⟨rfl, by simp [find, hentry, hexpired]⟩
      | false => exact .inr ⟨rfl, by simp [find, hentry, hexpired]⟩

/-- A look-up that finds no live entry leaves none of the key. -/
theorem find_of_not_live (h : ¬ s.Live key now) :
    s.find key now = (none, { s with entries := without key s.entries }) := by
  rcases find_cases s key now with ⟨hnone, hfind⟩ | ⟨e, he, hkey, ⟨-, hfind⟩ | ⟨hlive, -⟩⟩
  · rw [hfind, without_eq_self hnone]
  · exact hfind
  · exact absurd ⟨e, he, hkey, hlive⟩ h

theorem eq_of_find_eq_none {t : Store κ α} (h : s.find key now = (none, t)) :
    t = { s with entries := without key s.entries } := by
  rcases find_cases s key now with ⟨hnone, hfind⟩ | ⟨e, -, -, ⟨-, hfind⟩ | ⟨-, hfind⟩⟩
  · rw [hfind] at h
    rw [without_eq_self hnone]
    exact (Prod.mk.inj h).2.symm
  · rw [hfind] at h
    exact (Prod.mk.inj h).2.symm
  · rw [hfind] at h
    cases (Prod.mk.inj h).1

/-- A look-up that finds a live entry answers it and makes it the most recently used one. -/
theorem Distinct.find_of_live (h : Distinct s) (he : e ∈ s.entries) (hkey : e.key = key)
    (hlive : s.settings.expired now e = false) :
    s.find key now = (some e.value,
      { s with entries := without key s.entries ++ [{ e with accessed := now }] }) := by
  rcases find_cases s key now with ⟨hnone, -⟩ | ⟨d, hd, hdkey, hcase⟩
  · exact absurd hkey (hnone e he)
  obtain rfl := h.eq_of_mem he hd (hkey.trans hdkey.symm)
  rcases hcase with ⟨hexpired, -⟩ | ⟨-, hfind⟩
  · rw [hexpired] at hlive
    cases hlive
  · exact hfind

/-- A look-up answers the entry that is there and not expired. -/
theorem Distinct.find_eq_some (h : Distinct s) {value : α} :
    (s.find key now).1 = some value ↔
      ∃ e ∈ s.entries, e.key = key ∧ s.settings.expired now e = false ∧ e.value = value := by
  by_cases live : s.Live key now
  · obtain ⟨e, he, hkey, hlive⟩ := live
    rw [h.find_of_live he hkey hlive]
    constructor
    · intro hvalue
      exact ⟨e, he, hkey, hlive, Option.some.inj hvalue⟩
    · rintro ⟨d, hd, hdkey, -, rfl⟩
      rw [h.eq_of_mem hd he (hdkey.trans hkey.symm)]
  · rw [find_of_not_live live]
    refine iff_of_false (by simp) ?_
    rintro ⟨e, he, hkey, hlive, -⟩
    exact live ⟨e, he, hkey, hlive⟩

theorem mem_of_find {value : α} (h : (s.find key now).1 = some value) :
    ∃ e ∈ s.entries, e.key = key ∧ e.value = value := by
  rcases find_cases s key now with ⟨-, hfind⟩ | ⟨e, he, hkey, ⟨-, hfind⟩ | ⟨-, hfind⟩⟩ <;>
    rw [hfind] at h
  · cases h
  · cases h
  · exact ⟨e, he, hkey, Option.some.inj h⟩

theorem distinct_append {es : List (Entry κ α)} (h : (es.map Entry.key).Nodup) (hkey : e.key = key) :
    ((without key es ++ [e]).map Entry.key).Nodup := by
  have hwithout : ((without key es).map Entry.key).Nodup :=
    h.sublist ((without_sublist key es).map Entry.key)
  rw [List.map_append, List.map_singleton, List.nodup_append]
  refine ⟨hwithout, List.nodup_singleton _, ?_⟩
  intro a ha b hb
  obtain ⟨d, hd, rfl⟩ := List.mem_map.mp ha
  rw [List.mem_singleton.mp hb, hkey]
  exact (mem_without.mp hd).2

theorem distinct_find (h : Distinct s) : Distinct (s.find key now).2 := by
  rcases find_cases s key now with ⟨-, hfind⟩ | ⟨e, -, hkey, ⟨-, hfind⟩ | ⟨-, hfind⟩⟩
  · rw [hfind]
    exact h
  · rw [hfind]
    exact distinct_of_sublist h (without_sublist key s.entries)
  · rw [hfind]
    exact distinct_append h hkey

theorem distinct_insert (h : Distinct s) {value : α} : Distinct (s.insert key value now) := by
  refine distinct_of_sublist ?_ (trim_sublist _ _)
  exact distinct_append h rfl

/-- Nothing is trimmed when there is room for what is written. -/
theorem insert_of_room (value : α) (now : Nat)
    (room : (without key s.entries).length + 1 ≤ s.settings.maxSize) :
    s.insert key value now =
      { s with entries := without key s.entries ++ [⟨key, value, now, now⟩] } :=
  trim_eq_self (by simpa using room)

theorem distinct_remove (h : Distinct s) : Distinct (s.remove key).2 :=
  distinct_of_sublist h (without_sublist key s.entries)

@[simp] theorem settings_find : (s.find key now).2.settings = s.settings := by
  rcases find_cases s key now with ⟨-, hfind⟩ | ⟨e, -, -, ⟨-, hfind⟩ | ⟨-, hfind⟩⟩ <;> rw [hfind]

end Store
end EntityTrust
