import EntityTrust.Statement.Core

/-!
# Claims of trust marks
-/

namespace EntityTrust

/-- What a trust mark says. -/
structure TrustMarkClaims where
  issuer : String
  id : String
  subject : Option String
  issuedAt : Option Int
  expiresAt : Option Int
  delegation : Option String
  deriving DecidableEq

namespace TrustMarkClaims

open Json Record

/-- The members of a trust mark; its identifier has two names. -/
def record : Record TrustMarkClaims :=
  TrustMarkClaims.mk <$> required "iss" asText <*>
    member "id" ["trust_mark_id"] asText none none <*> omittable "sub" asText <*>
    omittable "iat" asSigned64 <*> omittable "exp" asSigned64 <*> omittable "delegation" asText

/-- Reads the claims of a trust mark. -/
def ofJson : As TrustMarkClaims :=
  Record.read "TrustMarkClaims" record

/-- Written claims of a trust mark, without absent members. -/
def toJson (c : TrustMarkClaims) : Json :=
  .object (ofMembers ([("iss", .string c.issuer), ("id", .string c.id)] ++
    present "sub" (c.subject.map .string) ++ present "iat" (c.issuedAt.map .integer) ++
    present "exp" (c.expiresAt.map .integer) ++ present "delegation" (c.delegation.map .string)))

end TrustMarkClaims
end EntityTrust
