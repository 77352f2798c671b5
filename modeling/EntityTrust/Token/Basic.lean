import EntityTrust.Token.Header

/-!
# Compact tokens

Decoding a token into its text, its header and its claims.  Nothing about the signature is looked at
here.

* `Token.decode` accepts exactly three segments, white space around them, and padding in the
  payload.
* `Token.missing` names the wanted claims that are absent or `null`.
-/

namespace EntityTrust

/-- A decoded token whose signature has not been checked. -/
structure Token where
  raw : String
  header : Header
  claims : List Json.Member
  deriving DecidableEq

namespace Token

/-- The claims that a payload segment carries. -/
def claimsOf (payload : String) : Except StatementError (List Json.Member) :=
  match Base64.decode .optional (Utf8.encode payload) with
  | .error e => .error (.malformedToken ("invalid base64url segment: " ++ e.message))
  | .ok bs =>
      match Json.ofDocument bs with
      | .error f => .error (.serialization (f.message bs))
      | .ok (.object claims) => .ok claims
      | .ok _ => .error (.malformedToken "payload is not a JSON object")

/-- The header of a trimmed token. -/
def headerOf (raw : String) : Except StatementError Header :=
  match Header.ofCompact raw with
  | .ok h => .ok h
  | .error e => .error e.toStatement

/-- Decodes a compact token. -/
def decode (text : String) : Except StatementError Token :=
  let raw := Text.trimBlank text
  match Text.fields '.' raw with
  | [_, payload, _] => do
      let header ← headerOf raw
      let claims ← claimsOf payload
      pure ⟨raw, header, claims⟩
  | _ => .error (.malformedToken "expected three dot-separated segments")

/-- The key identifier of the header. -/
def keyId (t : Token) : Option String :=
  t.header.keyId

/-- The value of a claim. -/
def claim (t : Token) (name : String) : Option Json :=
  Json.lookup name t.claims

/-- The text of a claim that is a string. -/
def claimText (t : Token) (name : String) : Option String :=
  (t.claim name).bind Json.string?

/-- Whether a claim is there and is not `null`. -/
def hasClaim (t : Token) (name : String) : Bool :=
  match t.claim name with
  | none | some .null => false
  | some _ => true

/-- The names among `required` whose claims are absent or `null`. -/
def missing (t : Token) (required : List String) : List String :=
  required.filter fun name => !t.hasClaim name

/-- Reads the claims as a typed set of claims. -/
def read {α : Type} (t : Token) (shape : Json.As α) : Except StatementError α :=
  match shape (.object t.claims) with
  | .ok a => .ok a
  | .error e => .error (.invalidClaim e.message)

end Token
end EntityTrust
