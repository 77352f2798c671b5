import EntityTrust.Duration

/-!
# Bounded stores with expiry

A store keeps entries in the order of their last use, least recently used first.

* `Store.find` answers the value of a key and makes its entry the most recently used one; an expired
  entry is dropped instead.
* `Store.insert` writes a value as the most recently used entry and then drops the least recently
  used ones until the store is within its capacity.
* An entry is expired when its last write or its last use lies back by the set time or more.

Instants are nanoseconds on a clock that does not run backwards.
-/

namespace EntityTrust

/-- Capacity of a store and the times after which entries expire. -/
structure Store.Settings where
  maxSize : Nat := 1000
  afterWrite : Option Duration := none
  afterAccess : Option Duration := none
  deriving DecidableEq

namespace Store.Settings

open Json Record

/-- Reads settings. -/
def ofJson : As Settings :=
  let standard : Settings := {}
  Record.read "CacheConfig"
    (Settings.mk <$> defaulted "max_size" (asNatural Numeral.maxWord64 "usize") standard.maxSize <*>
      defaulted "expire_after_write" (optional Duration.ofJson) none <*>
      defaulted "expire_after_access" (optional Duration.ofJson) none)

/-- Written settings. -/
def toJson (s : Settings) : Json :=
  .object [("expire_after_access", s.afterAccess.elim .null Duration.toJson),
    ("expire_after_write", s.afterWrite.elim .null Duration.toJson),
    ("max_size", .integer s.maxSize)]

end Store.Settings

/-- A stored value with the instants of its last write and its last use. -/
structure Store.Entry (κ α : Type) where
  key : κ
  value : α
  written : Nat
  accessed : Nat
  deriving DecidableEq

/-- A store; its entries stand in the order of their last use. -/
structure Store (κ α : Type) where
  settings : Store.Settings
  entries : List (Store.Entry κ α)
  deriving DecidableEq

namespace Store

variable {κ α : Type}

/-- The store without entries. -/
def empty (settings : Settings) : Store κ α :=
  ⟨settings, []⟩

/-- Number of entries, expired ones included. -/
def size (s : Store κ α) : Nat :=
  s.entries.length

/-- Whether a time since an instant has passed. -/
def elapsed (now since : Nat) : Option Duration → Bool
  | none => false
  | some d => decide (d.nanos ≤ now - since)

/-- Whether an entry is expired. -/
def Settings.expired (s : Settings) (now : Nat) (e : Entry κ α) : Bool :=
  elapsed now e.written s.afterWrite || elapsed now e.accessed s.afterAccess

/-- The last entries of a list, at most so many. -/
def lastEntries (size : Nat) (es : List (Entry κ α)) : List (Entry κ α) :=
  es.drop (es.length - size)

/-- Drops least recently used entries until at most `size` are left. -/
def trim (s : Store κ α) (size : Nat) : Store κ α :=
  { s with entries := lastEntries size s.entries }

/-- Changes the capacity. -/
def resize (s : Store κ α) (size : Nat) : Store κ α :=
  trim { s with settings := { s.settings with maxSize := size } } size

/-- Drops all expired entries. -/
def evictExpired (s : Store κ α) (now : Nat) : Store κ α :=
  { s with entries := s.entries.filter fun e => !s.settings.expired now e }

/-- Drops all entries. -/
def clear (s : Store κ α) : Store κ α :=
  { s with entries := [] }

variable [DecidableEq κ]

/-- The entry of a key. -/
def entry? (s : Store κ α) (key : κ) : Option (Entry κ α) :=
  s.entries.find? fun e => e.key == key

/-- The entries of all other keys. -/
def without (key : κ) (es : List (Entry κ α)) : List (Entry κ α) :=
  es.filter fun e => e.key != key

/-- The unexpired value of a key; its entry is then the most recently used one. -/
def find (s : Store κ α) (key : κ) (now : Nat) : Option α × Store κ α :=
  match s.entry? key with
  | none => (none, s)
  | some e =>
      let others := without key s.entries
      if s.settings.expired now e then (none, { s with entries := others })
      else (some e.value, { s with entries := others ++ [{ e with accessed := now }] })

/-- Writes a value. -/
def insert (s : Store κ α) (key : κ) (value : α) (now : Nat) : Store κ α :=
  trim { s with entries := without key s.entries ++ [⟨key, value, now, now⟩] } s.settings.maxSize

/-- Removes a key and answers its value, expired or not. -/
def remove (s : Store κ α) (key : κ) : Option α × Store κ α :=
  ((s.entry? key).map Entry.value, { s with entries := without key s.entries })

end Store
end EntityTrust
