import EntityTrust.Token.Basic

/-!
# Claims that all statements share

Issuer, subject, validity window and keys, and the names of the claims without which a text is no
statement of a trust chain.
-/

namespace EntityTrust

/-- What every statement says. -/
structure StatementCore where
  issuer : String
  subject : String
  issuedAt : Int
  expiresAt : Int
  keys : KeySet
  deriving DecidableEq

namespace StatementCore

open Json Record

/-- Claims that a statement of a chain must carry. -/
def requiredClaims : List String :=
  ["sub", "iss", "exp", "iat", "jwks"]

/-- The shared members. -/
def record : Record StatementCore :=
  StatementCore.mk <$> required "iss" asText <*> required "sub" asText <*>
    required "iat" asSigned64 <*> required "exp" asSigned64 <*> required "jwks" KeySet.ofJson

/-- The written shared members. -/
def toMembers (c : StatementCore) : List Member :=
  [("iss", .string c.issuer), ("sub", .string c.subject), ("iat", .integer c.issuedAt),
    ("exp", .integer c.expiresAt), ("jwks", c.keys.toJson)]

/-- Whether the instant `now` lies in the validity window. -/
def validAt (c : StatementCore) (now : Int) : Bool :=
  decide (c.issuedAt ≤ now) && decide (now < c.expiresAt)

/-- Whether issuer and subject are the same entity. -/
def selfIssued (c : StatementCore) : Bool :=
  c.issuer == c.subject

end StatementCore

namespace Json

/-- A written list of texts. -/
def texts (xs : List String) : Json :=
  .array (xs.map .string)

/-- The member of a list, when the list is not empty. -/
def presentList {α : Type} (name : String) (write : List α → Json) : List α → List Member
  | [] => []
  | xs => [(name, write xs)]

/-- A written map. -/
def mapOf {α : Type} (write : α → Json) (xs : List (String × α)) : Json :=
  .object (ofMembers (xs.map fun x => (x.1, write x.2)))

end Json
end EntityTrust
