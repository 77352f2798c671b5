import EntityTrust.Statement.Basic

/-!
# Trust chains

The statements from an entity's own configuration up to a trust anchor's, as compact tokens.

* `TrustChain.subject` is the subject of the first statement.
* `TrustChain.anchor` is the issuer of the last statement.
* `TrustChain.expiresAt` is the least expiry of all statements.
-/

namespace EntityTrust

/-- Statements from a subject to a trust anchor. -/
structure TrustChain where
  statements : List String
  deriving DecidableEq

namespace TrustChain

/-- Fewest statements of a complete chain. -/
def minLength : Nat := 3

/-- A claim of one statement, which has to be a text. -/
def claimOf (statement : Option String) (name : String) : Except StatementError String :=
  match statement with
  | none => .error (.invalidClaim "empty trust chain")
  | some raw => do
      let t ← Token.decode raw
      match t.claimText name with
      | some s => pure s
      | none => throw (.missingClaim name)

/-- The entity that the chain is about. -/
def subject (c : TrustChain) : Except StatementError String :=
  claimOf c.statements.head? "sub"

/-- The entity that the chain ends at. -/
def anchor (c : TrustChain) : Except StatementError String :=
  claimOf c.statements.getLast? "iss"

/-- The expiry of one statement. -/
def expiryOf (raw : String) : Except StatementError Int := do
  let t ← Token.decode raw
  match (t.claim "exp").bind Json.signed64? with
  | some exp => pure exp
  | none => throw (.missingClaim "exp")

/-- The least expiry of the statements and of `earliest`. -/
def earliestExpiry (earliest : Option Int) : List String → Except StatementError (Option Int)
  | [] => .ok earliest
  | raw :: rest => do
      let exp ← expiryOf raw
      earliestExpiry (some (match earliest with | none => exp | some e => min e exp)) rest

/-- The instant from which the chain is no longer valid. -/
def expiresAt (c : TrustChain) : Except StatementError Int := do
  match ← earliestExpiry none c.statements with
  | some e => pure e
  | none => throw (.invalidClaim "empty trust chain")

/-- Reads a chain. -/
def ofJson : Json.As TrustChain := fun v =>
  (Json.asList Json.asText v).map TrustChain.mk

/-- A written chain. -/
def toJson (c : TrustChain) : Json :=
  Json.texts c.statements

end TrustChain
end EntityTrust
