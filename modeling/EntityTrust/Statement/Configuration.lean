import EntityTrust.Statement.Metadata

/-!
# Entity configurations

The statement that an entity publishes about itself.

* `EntityConfiguration.ofToken` refuses a configuration whose issuer is not its subject.
-/

namespace EntityTrust

/-- The owner of a trust mark, with the keys that sign its delegations. -/
structure TrustMarkOwner where
  subject : String
  keys : KeySet
  deriving DecidableEq

/-- A trust mark as an entity lists it. -/
structure TrustMarkEntry where
  id : String
  mark : String
  deriving DecidableEq

/-- The statement of an entity about itself. -/
structure EntityConfiguration extends StatementCore where
  authorityHints : List String
  metadata : Metadata
  trustMarkIssuers : List (String × List String)
  trustMarkOwners : List (String × TrustMarkOwner)
  trustMarks : List TrustMarkEntry
  critical : List String
  deriving DecidableEq

namespace TrustMarkOwner

open Json Record

/-- Reads an owner. -/
def ofJson : As TrustMarkOwner :=
  Record.read "TrustMarkOwner"
    (TrustMarkOwner.mk <$> required "sub" asText <*> required "jwks" KeySet.ofJson)

/-- A written owner. -/
def toJson (o : TrustMarkOwner) : Json :=
  .object (ofMembers [("sub", .string o.subject), ("jwks", o.keys.toJson)])

end TrustMarkOwner

namespace TrustMarkEntry

open Json Record

/-- Reads an entry; its identifier has two names. -/
def ofJson : As TrustMarkEntry :=
  Record.read "TrustMarkEntry"
    (TrustMarkEntry.mk <$> member "id" ["trust_mark_id"] asText none none <*>
      required "trust_mark" asText)

/-- A written entry. -/
def toJson (e : TrustMarkEntry) : Json :=
  .object (ofMembers [("id", .string e.id), ("trust_mark", .string e.mark)])

end TrustMarkEntry

namespace EntityConfiguration

open Json Record

/-- The members of a configuration. -/
def record : Record EntityConfiguration :=
  EntityConfiguration.mk <$> StatementCore.record <*>
    defaulted "authority_hints" (asList asText) [] <*>
    defaulted "metadata" Metadata.ofJson .empty <*>
    defaulted "trust_mark_issuers" (asMap (asList asText)) [] <*>
    defaulted "trust_mark_owners" (asMap TrustMarkOwner.ofJson) [] <*>
    defaulted "trust_marks" (asList TrustMarkEntry.ofJson) [] <*>
    defaulted "crit" (asList asText) []

/-- Reads a configuration. -/
def ofJson : As EntityConfiguration :=
  Record.read "EntityConfiguration" record

/-- A written configuration; its metadata is always there, empty lists are not. -/
def toJson (c : EntityConfiguration) : Json :=
  .object (ofMembers (c.toStatementCore.toMembers ++
    presentList "authority_hints" texts c.authorityHints ++
    [("metadata", c.metadata.toJson)] ++
    presentList "trust_mark_issuers" (mapOf texts) c.trustMarkIssuers ++
    presentList "trust_mark_owners" (mapOf TrustMarkOwner.toJson) c.trustMarkOwners ++
    presentList "trust_marks" (fun es => .array (es.map TrustMarkEntry.toJson)) c.trustMarks ++
    presentList "crit" texts c.critical))

/-- Reads the claims of a token as a configuration that its subject issued. -/
def ofToken (t : Token) : Except StatementError EntityConfiguration := do
  let c ← t.read ofJson
  if c.selfIssued then pure c
  else
    throw (.invalidClaim ("entity configuration must be self-issued: iss '" ++ c.issuer ++
      "' != sub '" ++ c.subject ++ "'"))

/-- The endpoint that serves statements about subordinates. -/
def fetchEndpoint (c : EntityConfiguration) : Option String :=
  c.metadata.federation.bind (·.fetchEndpoint)

end EntityConfiguration
end EntityTrust
