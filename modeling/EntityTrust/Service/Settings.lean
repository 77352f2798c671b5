import EntityTrust.Discovery.Resolution
import EntityTrust.Fetch.Settings
import EntityTrust.Store.Basic
import EntityTrust.Text.Numeral

/-!
# Settings of the service

**From the environment.**  Every variable changes one setting and the others keep their standard
values.  The variables are read in the order of `allVariables`, and the first one that cannot be
read is reported.
-/

namespace EntityTrust
namespace Service

/-- Settings of the service. -/
structure Settings where
  port : Nat := 8080
  trustAnchors : List String := []
  resolver : Discovery.Settings := {}
  http : Fetch.Settings := {}
  cache : Store.Settings := {}
  deriving DecidableEq

/-- A variable that cannot be read. -/
structure SettingsError where
  name : String
  reason : String
  deriving DecidableEq

/-- The wording of a failure. -/
def SettingsError.message (e : SettingsError) : String :=
  e.name ++ " is invalid: " ++ e.reason

namespace Settings

open Json Record

/-- Reads settings. -/
def ofJson : As Settings :=
  Record.read "ServerConfig"
    (Settings.mk <$> required "port" (asNatural Numeral.maxWord16 "u16") <*>
      required "trust_anchors" (asList asText) <*>
      required "resolver" Discovery.Settings.ofJson <*>
      required "http" Fetch.Settings.ofJson <*> required "cache" Store.Settings.ofJson)

/-- Written settings. -/
def toJson (s : Settings) : Json :=
  .object [("cache", s.cache.toJson), ("http", s.http.toJson), ("port", .integer s.port),
    ("resolver", s.resolver.toJson), ("trust_anchors", Json.texts s.trustAnchors)]

/-- A variable and how its text changes the settings. -/
structure Variable where
  name : String
  apply : String → Settings → Except Numeral.Refusal Settings

/-- A variable that holds a number up to a bound, blanks around it aside. -/
def numeric (name : String) (bound : Nat) (change : Nat → Settings → Settings) : Variable :=
  ⟨name, fun text s => (Numeral.parse bound (Text.trimBlank text)).map fun n => change n s⟩

/-- The anchors in a list separated by commas. -/
def anchorsIn (text : String) : List String :=
  ((Text.fields ',' text).map Text.trimBlank).filter fun a => !a.isEmpty

/-- All variables, in the order in which they are read. -/
def allVariables : List Variable :=
  [numeric "FEDERATION_PORT" Numeral.maxWord16 fun n s => { s with port := n },
    ⟨"FEDERATION_TRUST_ANCHORS", fun text s => .ok { s with trustAnchors := anchorsIn text }⟩,
    numeric "FEDERATION_MAX_DEPTH" Numeral.maxWord64 fun n s => { s with resolver := ⟨n⟩ },
    numeric "FEDERATION_HTTP_RETRIES" Numeral.maxWord32 fun n s =>
      { s with http := { s.http with maxAttempts := n } },
    numeric "FEDERATION_HTTP_TIMEOUT_SECS" Numeral.maxWord64 fun n s =>
      { s with http := { s.http with timeout := .ofSeconds n } },
    numeric "FEDERATION_CACHE_MAX_SIZE" Numeral.maxWord64 fun n s =>
      { s with cache := { s.cache with maxSize := n } },
    numeric "FEDERATION_CACHE_TTL_SECS" Numeral.maxWord64 fun n s =>
      { s with cache := { s.cache with afterWrite := some (.ofSeconds n) } }]

/-- Applies a variable. -/
def applyVariable (lookup : String → Option String) (s : Settings) (v : Variable) :
    Except SettingsError Settings :=
  match lookup v.name with
  | none => .ok s
  | some text => (v.apply text s).mapError fun r => ⟨v.name, r.message⟩

/-- The settings that an environment asks for. -/
def ofEnvironment (lookup : String → Option String) : Except SettingsError Settings :=
  allVariables.foldlM (applyVariable lookup) {}

end Settings
end Service
end EntityTrust
