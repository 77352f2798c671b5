import EntityTrust.Statement.Core

/-!
# Metadata of entities

Metadata is a map from entity types to values.  Only the block about the federation itself has named
members; every other member is kept as it is.
-/

namespace EntityTrust

/-- The block of metadata about the role of an entity in the federation. -/
structure FederationMetadata where
  fetchEndpoint : Option String
  listEndpoint : Option String
  resolveEndpoint : Option String
  organizationName : Option String
  others : List Json.Member
  deriving DecidableEq

namespace FederationMetadata

open Json Record

/-- Names of the members with a meaning of their own. -/
def names : List String :=
  ["federation_fetch_endpoint", "federation_list_endpoint", "federation_resolve_endpoint",
    "organization_name"]

/-- The members of the block. -/
def record : Record FederationMetadata :=
  FederationMetadata.mk <$> nullable "federation_fetch_endpoint" asText <*>
    nullable "federation_list_endpoint" asText <*>
    nullable "federation_resolve_endpoint" asText <*> nullable "organization_name" asText <*>
    Record.others names

/-- Reads the block. -/
def ofJson : As FederationMetadata :=
  Record.readObject "FederationEntityMetadata" record

/-- The written block. -/
def toJson (m : FederationMetadata) : Json :=
  .object (ofMembers (present "federation_fetch_endpoint" (m.fetchEndpoint.map .string) ++
    present "federation_list_endpoint" (m.listEndpoint.map .string) ++
    present "federation_resolve_endpoint" (m.resolveEndpoint.map .string) ++
    present "organization_name" (m.organizationName.map .string) ++ m.others))

end FederationMetadata

/-- The metadata of an entity. -/
structure Metadata where
  federation : Option FederationMetadata
  others : List Json.Member
  deriving DecidableEq

namespace Metadata

open Json Record

/-- Metadata without a member. -/
def empty : Metadata := ⟨none, []⟩

/-- The members of metadata. -/
def record : Record Metadata :=
  Metadata.mk <$> nullable "federation_entity" FederationMetadata.ofJson <*>
    Record.others ["federation_entity"]

/-- Reads metadata. -/
def ofJson : As Metadata :=
  Record.readObject "Metadata" record

/-- Written metadata. -/
def toJson (m : Metadata) : Json :=
  .object (ofMembers
    (present "federation_entity" (m.federation.map FederationMetadata.toJson) ++ m.others))

end Metadata
end EntityTrust
