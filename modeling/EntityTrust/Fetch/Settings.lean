import EntityTrust.Duration
import EntityTrust.Version

/-!
# Settings of a fetching client

* `Settings.backoff` is the delay after a number of failed attempts: the base delay, doubled with
  every further failure up to a factor of one less than `2^32`.
* `Strategy` says how the store of fetched statements takes part in a request.
-/

namespace EntityTrust
namespace Fetch

/-- How a request consults the store. -/
inductive Strategy
  | cacheOnly
  | forceRemote
  | cacheFirst
  deriving DecidableEq

namespace Strategy

/-- Written names of strategies. -/
def names : List (String × Strategy) :=
  [("CACHE_ONLY", cacheOnly), ("FORCE_REMOTE", forceRemote), ("CACHE_FIRST", cacheFirst)]

/-- Reads a strategy. -/
def ofJson : Json.As Strategy :=
  Json.asCase names

/-- The written name of a strategy. -/
def name : Strategy → String
  | cacheOnly => "CACHE_ONLY"
  | forceRemote => "FORCE_REMOTE"
  | cacheFirst => "CACHE_FIRST"

end Strategy

/-- Settings of a client; `validate` sends the validators of stored responses. -/
structure Settings where
  maxAttempts : Nat := 3
  baseBackoff : Duration := .ofSeconds 1
  timeout : Duration := .ofSeconds 10
  validate : Bool := true
  userAgent : String := "federation-client/" ++ version
  deriving DecidableEq

namespace Settings

open Json Record

/-- The members of written settings, none of which has to be present. -/
def record : Record Settings :=
  let standard : Settings := {}
  Settings.mk <$>
    defaulted "max_retries" (asNatural Numeral.maxWord32 "u32") standard.maxAttempts <*>
    defaulted "base_backoff" Duration.ofJson standard.baseBackoff <*>
    defaulted "request_timeout" Duration.ofJson standard.timeout <*>
    defaulted "enable_http_caching" asBool standard.validate <*>
    defaulted "user_agent" asText standard.userAgent

/-- Reads settings. -/
def ofJson : As Settings :=
  Record.read "HttpResolverConfig" record

/-- Written settings. -/
def toJson (s : Settings) : Json :=
  .object [("base_backoff", s.baseBackoff.toJson), ("enable_http_caching", .bool s.validate),
    ("max_retries", .integer s.maxAttempts), ("request_timeout", s.timeout.toJson),
    ("user_agent", .string s.userAgent)]

/-- Attempts that a request may take; at least one is made. -/
def attempts (s : Settings) : Nat :=
  max 1 s.maxAttempts

/-- What the base delay is multiplied by after a number of failed attempts. -/
def factor (failed : Nat) : Nat :=
  if failed ≤ 32 then Nat.pow 2 (failed - 1) else Numeral.maxWord32

/-- The delay after a number of failed attempts. -/
def backoff (s : Settings) (failed : Nat) : Duration :=
  s.baseBackoff.scale (factor failed)

end Settings
end Fetch
end EntityTrust
