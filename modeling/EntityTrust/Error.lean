/-!
# Faults of statements

The kinds of failure that decoding a statement, looking up a key and checking a signature can have.
Each carries the text of its cause.
-/

namespace EntityTrust

/-- Why a statement, a key or a signature is refused. -/
inductive StatementError
  | malformedToken (text : String)
  | missingClaim (text : String)
  | invalidClaim (text : String)
  | keyNotFound (text : String)
  | unsupportedAlgorithm (text : String)
  | invalidSignature (text : String)
  | invalidIdentifier (text : String)
  | serialization (text : String)
  deriving DecidableEq

namespace StatementError

/-- The wording of a failure. -/
def message : StatementError → String
  | malformedToken t => "Malformed JWT: " ++ t
  | missingClaim t => "Missing required claim: " ++ t
  | invalidClaim t => "Invalid claim: " ++ t
  | keyNotFound t => "Key not found: " ++ t
  | unsupportedAlgorithm t => "Unsupported algorithm: " ++ t
  | invalidSignature t => "Invalid signature: " ++ t
  | invalidIdentifier t => "Invalid entity identifier: " ++ t
  | serialization t => "Serialization error: " ++ t

end StatementError
end EntityTrust
