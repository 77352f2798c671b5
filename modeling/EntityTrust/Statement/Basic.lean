import EntityTrust.Statement.Configuration
import EntityTrust.Statement.Subordinate

/-!
# Statements of either shape

A token whose issuer is its subject is an entity configuration, any other one a subordinate
statement.
-/

namespace EntityTrust

/-- A statement of either shape. -/
inductive Statement
  | configuration (c : EntityConfiguration)
  | subordinate (s : SubordinateStatement)
  deriving DecidableEq

namespace Statement

/-- The claims that both shapes share. -/
def core : Statement → StatementCore
  | configuration c => c.toStatementCore
  | subordinate s => s.toStatementCore

/-- Whether the statement is an entity configuration. -/
def isConfiguration : Statement → Bool
  | configuration _ => true
  | subordinate _ => false

/-- Reads the claims of a token as the shape that fits. -/
def ofToken (t : Token) : Except StatementError Statement :=
  match t.missing ["iss", "sub"] with
  | [] =>
      if t.claimText "iss" = t.claimText "sub" then
        (EntityConfiguration.ofToken t).map configuration
      else (SubordinateStatement.ofToken t).map subordinate
  | names => .error (.missingClaim (Text.join ", " names))

/-- Decodes a compact token as a statement. -/
def decode (text : String) : Except StatementError Statement := do
  ofToken (← Token.decode text)

end Statement
end EntityTrust
