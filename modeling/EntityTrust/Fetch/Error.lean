import EntityTrust.Error

/-!
# Failures of fetching

* `FetchError.isTransient` holds of the failures after which the same request may succeed.
-/

namespace EntityTrust

/-- Why a statement could not be fetched. -/
inductive FetchError
  | statement (cause : StatementError)
  | transport (text : String)
  | unexpectedStatus (status : Nat) (url : String)
  | invalidUrl (text : String)
  | notCached
  | configuration (text : String)
  deriving DecidableEq

namespace FetchError

/-- The wording of a failure. -/
def message : FetchError → String
  | statement e => e.message
  | transport t => "HTTP error: " ++ t
  | unexpectedStatus s url => "Unexpected HTTP status " ++ toString s ++ " from " ++ url
  | invalidUrl t => "Invalid URL: " ++ t
  | notCached => "no cached value available"
  | configuration t => "Configuration error: " ++ t

/-- Whether another attempt at the same request could succeed. -/
def isTransient : FetchError → Bool
  | transport _ => true
  | unexpectedStatus s _ => s ≥ 500 || s == 429
  | _ => false

end FetchError
end EntityTrust
