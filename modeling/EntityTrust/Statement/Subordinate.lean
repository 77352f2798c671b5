import EntityTrust.Statement.Core

/-!
# Subordinate statements

The statement that a superior issues about an entity below it; its keys are those of the entity.
-/

namespace EntityTrust

/-- Limits that a superior puts on the chain below it. -/
structure Constraints where
  maxPathLength : Option Nat
  naming : Option Json
  entityTypes : Option (List String)
  deriving DecidableEq

/-- The statement of a superior about a subordinate. -/
structure SubordinateStatement extends StatementCore where
  metadata : Option Json
  metadataPolicy : Option Json
  constraints : Option Constraints
  sourceEndpoint : Option String
  critical : List String
  deriving DecidableEq

namespace Constraints

open Json Record

/-- Reads constraints. -/
def ofJson : As Constraints :=
  Record.read "Constraints"
    (Constraints.mk <$> omittable "max_path_length" (asNatural Numeral.maxWord32 "u32") <*>
      omittable "naming_constraints" asJson <*>
      omittable "allowed_entity_types" (asList asText))

/-- Written constraints, without absent members. -/
def toJson (c : Constraints) : Json :=
  .object (ofMembers (present "max_path_length" (c.maxPathLength.map fun n => .integer n) ++
    present "naming_constraints" c.naming ++
    present "allowed_entity_types" (c.entityTypes.map texts)))

end Constraints

namespace SubordinateStatement

open Json Record

/-- The members of a subordinate statement. -/
def record : Record SubordinateStatement :=
  SubordinateStatement.mk <$> StatementCore.record <*> omittable "metadata" asJson <*>
    omittable "metadata_policy" asJson <*> omittable "constraints" Constraints.ofJson <*>
    omittable "source_endpoint" asText <*> defaulted "crit" (asList asText) []

/-- Reads a subordinate statement. -/
def ofJson : As SubordinateStatement :=
  Record.read "SubordinateStatement" record

/-- A written subordinate statement, without absent members. -/
def toJson (s : SubordinateStatement) : Json :=
  .object (ofMembers (s.toStatementCore.toMembers ++ present "metadata" s.metadata ++
    present "metadata_policy" s.metadataPolicy ++
    present "constraints" (s.constraints.map Constraints.toJson) ++
    present "source_endpoint" (s.sourceEndpoint.map .string) ++
    presentList "crit" texts s.critical))

/-- Reads the claims of a token as a subordinate statement. -/
def ofToken (t : Token) : Except StatementError SubordinateStatement :=
  t.read ofJson

end SubordinateStatement
end EntityTrust
