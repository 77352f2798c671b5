import EntityTrust.Base64
import EntityTrust.Json.Streamed
import EntityTrust.Key.Basic

/-!
# Protected headers

**Input.**  A compact token.

**Algorithm.**  The header segment is all that stands before the last dot but one, so more than
three segments do not hinder it.  Its octets are read as a streamed record.

**Results.**
* `Header.ofCompact`: the header, or the cause why there is none.
* `HeaderError.toStatement`: the statement failure that a cause amounts to.
-/

namespace EntityTrust

/-- The protected header of a token. -/
structure Header where
  tokenType : Option String
  algorithm : Algorithm
  contentType : Option String
  keySetUrl : Option String
  key : Option Jwk
  keyId : Option String
  certificateUrl : Option String
  certificates : Option (List String)
  thumbprint : Option String
  thumbprint256 : Option String
  deriving DecidableEq

/-- Failures of reading a token or of preparing a signature check. -/
inductive TokenError
  | invalidToken
  | invalidSignature
  | invalidEcdsaKey
  | invalidRsaKey (detail : String)
  | rsaFailedSigning
  | invalidAlgorithmName
  | invalidKeyFormat
  | missingRequiredClaim (name : String)
  | expiredSignature
  | invalidIssuer
  | invalidAudience
  | invalidSubject
  | immatureSignature
  | invalidAlgorithm
  | missingAlgorithm
  | base64 (text : String)
  | json (text : String)
  | utf8 (text : String)
  | crypto (text : String)
  deriving DecidableEq

namespace TokenError

/-- The wording of a failure. -/
def message : TokenError → String
  | invalidToken => "InvalidToken"
  | invalidSignature => "InvalidSignature"
  | invalidEcdsaKey => "InvalidEcdsaKey"
  | invalidRsaKey d => "RSA key invalid: " ++ d
  | rsaFailedSigning => "RsaFailedSigning"
  | invalidAlgorithmName => "InvalidAlgorithmName"
  | invalidKeyFormat => "InvalidKeyFormat"
  | missingRequiredClaim c => "Missing required claim: " ++ c
  | expiredSignature => "ExpiredSignature"
  | invalidIssuer => "InvalidIssuer"
  | invalidAudience => "InvalidAudience"
  | invalidSubject => "InvalidSubject"
  | immatureSignature => "ImmatureSignature"
  | invalidAlgorithm => "InvalidAlgorithm"
  | missingAlgorithm => "MissingAlgorithm"
  | base64 t => "Base64 error: " ++ t
  | json t => "JSON error: " ++ t
  | utf8 t => "UTF-8 error: " ++ t
  | crypto t => "Crypto error: " ++ t

/-- The statement failure that a token failure amounts to. -/
def toStatement (e : TokenError) : StatementError :=
  match e with
  | invalidSignature => .invalidSignature e.message
  | invalidAlgorithm | invalidAlgorithmName => .unsupportedAlgorithm e.message
  | invalidKeyFormat | invalidRsaKey _ | invalidEcdsaKey =>
      .invalidClaim ("unusable JWK: " ++ e.message)
  | _ => .malformedToken e.message

end TokenError

namespace Header

open Json Record

/-- The members of a header. -/
def record : Record Header :=
  Header.mk <$> nullable "typ" asText <*> required "alg" (asCase Algorithm.cases) <*>
    nullable "cty" asText <*> nullable "jku" asText <*> nullable "jwk" Jwk.ofJson <*>
    nullable "kid" asText <*> nullable "x5u" asText <*> nullable "x5c" (asList asText) <*>
    nullable "x5t" asText <*> nullable "x5t#S256" asText

/-- The readers of the members, in the same order. -/
def streamed : StreamedMembers :=
  let text : Nat → Reader Json := fun _ => readOptional readText
  [("typ", text), ("alg", readCase (Algorithm.all.map Algorithm.name)), ("cty", text),
    ("jku", text),
    ("jwk", fun depth => readOptional (readChecked 123 "struct Jwk" Jwk.ofJson depth)),
    ("kid", text), ("x5u", text), ("x5c", fun depth => readOptional (readList readText depth)),
    ("x5t", text), ("x5t#S256", text)]

/-- Reads the octets of a header. -/
def ofOctets (s : List UInt8) : Except TokenError Header :=
  match wholeDocument (readStreamed "Header" streamed record maxDepth) s with
  | .ok h => .ok h
  | .error f => .error (.json (f.message s))

/-- The octets of an unpadded segment. -/
def segment (s : String) : Except TokenError (List UInt8) :=
  match Base64.decode .forbidden (Utf8.encode s) with
  | .ok bs => .ok bs
  | .error e => .error (.base64 e.message)

/-- The header of a compact token. -/
def ofCompact (raw : String) : Except TokenError Header := do
  let some (message, _) := Text.splitLast '.' raw | throw .invalidToken
  let some (header, _) := Text.splitLast '.' message | throw .invalidToken
  ofOctets (← segment header)

/-- The written form of a header, without absent members. -/
def toJson (h : Header) : Json :=
  .object (ofMembers (present "typ" (h.tokenType.map .string) ++
    [("alg", .string h.algorithm.name)] ++ present "cty" (h.contentType.map .string) ++
    present "jku" (h.keySetUrl.map .string) ++ present "jwk" (h.key.map Jwk.toJson) ++
    present "kid" (h.keyId.map .string) ++ present "x5u" (h.certificateUrl.map .string) ++
    present "x5c" (h.certificates.map fun xs => .array (xs.map .string)) ++
    present "x5t" (h.thumbprint.map .string) ++
    present "x5t#S256" (h.thumbprint256.map .string)))

end Header
end EntityTrust
