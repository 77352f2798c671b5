import EntityTrust.Json.Record

/-!
# Durations

A duration is a whole number of nanoseconds below `2^64` seconds.  Arithmetic that would leave this
range stays at its end.

**Written form.**  An object with the whole seconds and the nanoseconds left over.  On reading, more
than a second of nanoseconds is carried into the seconds.
-/

namespace EntityTrust

/-- Nanoseconds of a second. -/
def nanosPerSecond : Nat := 1000000000

/-- Nanoseconds of the longest duration. -/
def Duration.maxNanos : Nat := (Numeral.maxWord64 + 1) * nanosPerSecond - 1

/-- A stretch of time. -/
structure Duration where
  nanos : Nat
  le_max : nanos ≤ Duration.maxNanos
  deriving DecidableEq

namespace Duration

/-- The duration of so many nanoseconds, or the longest one. -/
def ofNanos (n : Nat) : Duration :=
  ⟨min n maxNanos, Nat.min_le_right n maxNanos⟩

/-- The duration of so many seconds, or the longest one. -/
def ofSeconds (n : Nat) : Duration :=
  ofNanos (n * nanosPerSecond)

/-- The duration of so many milliseconds, or the longest one. -/
def ofMillis (n : Nat) : Duration :=
  ofNanos (n * 1000000)

/-- A multiple of a duration, or the longest one. -/
def scale (d : Duration) (factor : Nat) : Duration :=
  ofNanos (d.nanos * factor)

theorem nanos_scale (d : Duration) (k : Nat) : (d.scale k).nanos = min (d.nanos * k) maxNanos := rfl

open Json Record

/-- The duration of so many seconds and nanoseconds. -/
def ofParts (seconds nanos : Nat) : Except Issue Duration :=
  if h : seconds * nanosPerSecond + nanos ≤ maxNanos then .ok ⟨_, h⟩
  else .error (.overflow "Duration")

/-- The parts of a written duration. -/
def parts : Record (Nat × Nat) :=
  Prod.mk <$> required "secs" (asNatural Numeral.maxWord64 "u64") <*>
    required "nanos" (asNatural Numeral.maxWord32 "u32")

/-- Reads a duration. -/
def ofJson : As Duration
  | .object ms => do
      let (seconds, nanos) ← parts.readClosed ms
      ofParts seconds nanos
  | .array items => do
      let ((seconds, nanos), rest) ←
        parts.ofItems (fun i => .wrongLength i "struct Duration") 0 items
      let d ← ofParts seconds nanos
      if rest.isEmpty then pure d
      else .error (.wrongLength items.length "fewer elements in array")
  | v => mismatch "struct Duration" v

/-- A written duration. -/
def toJson (d : Duration) : Json :=
  .object [("nanos", .integer (d.nanos % nanosPerSecond : Nat)),
    ("secs", .integer (d.nanos / nanosPerSecond : Nat))]

end Duration
end EntityTrust
