import EntityTrust.Chain.Basic
import EntityTrust.Chain.Verdict
import EntityTrust.Token.Signature

/-!
# Verification of assembled chains

**Input.**  The statements of a chain, an optional trust anchor and an instant.

**Rules.**  The statements are examined in order, each one with the statement above it, and the
first rule that fails is the one reported:
* the statement decodes, carries the required claims and has a shape;
* the instant lies in its validity window;
* the first statement is self-issued and verifies under its own keys;
* below the last, the issuer is the subject of the next statement, whose keys verify this one;
* the last statement is the anchor's, if one is given, and verifies under its own keys.
-/

namespace EntityTrust

/-- Why a chain is rejected. -/
inductive ChainRejection
  | tooShort
  | failed (cause : StatementError)
  | missingClaims (position : Nat) (names : List String)
  | notYetIssued (position : Nat)
  | expired (position : Nat)
  | notSelfIssued
  | subjectSignature
  | brokenLink (position : Nat)
  | linkSignature (position : Nat)
  | wrongAnchor
  | anchorSignature
  deriving DecidableEq

namespace ChainRejection

/-- The wording of a rejection. -/
def message : ChainRejection → String
  | tooShort => "Trust chain must contain at least 3 statements"
  | failed e => "Trust chain verification failed: " ++ e.message
  | missingClaims j names =>
      "Statement at position " ++ toString j ++ " is missing required claims: " ++
        Text.join ", " names
  | notYetIssued j => "Statement at position " ++ toString j ++ " has invalid iat"
  | expired j => "Statement at position " ++ toString j ++ " has expired"
  | notSelfIssued => "First statement must be self-issued (iss must equal sub)"
  | subjectSignature => "Invalid signature for statement at position 0 against its own JWKS"
  | brokenLink j =>
      "Issuer of statement at position " ++ toString j ++
        " does not match subject of statement at position " ++ toString (j + 1)
  | linkSignature j => "Invalid signature for statement at position " ++ toString j
  | wrongAnchor => "Last statement issuer does not match trust anchor"
  | anchorSignature => "Invalid signature for trust anchor statement"

end ChainRejection

namespace TrustChain

/-- A token together with the statement it carries. -/
structure Entry where
  token : Token
  statement : Statement
  deriving DecidableEq

/-- The entry at a position of a chain. -/
def entryAt (position : Nat) (raw : String) : Except ChainRejection Entry :=
  match Token.decode raw with
  | .error e => .error (.failed e)
  | .ok t =>
      match t.missing StatementCore.requiredClaims with
      | [] =>
          match Statement.ofToken t with
          | .ok s => .ok ⟨t, s⟩
          | .error e => .error (.failed e)
      | names => .error (.missingClaims position names)

/-- Whether the instant lies in the window of the statement at a position. -/
def checkWindow (now : Int) (position : Nat) (c : StatementCore) : Except ChainRejection Unit :=
  if now < c.issuedAt then .error (.notYetIssued position)
  else if c.expiresAt ≤ now then .error (.expired position)
  else .ok ()

section Checks

variable {m : Type → Type} [Monad m] (check : Verifier m)

/-- Demands that a token verifies under a key set. -/
def demandSignature (t : Token) (keys : KeySet) (otherwise : ChainRejection) :
    ExceptT ChainRejection m Unit :=
  ExceptT.mk do
    let accepted ← Signature.verifyWith check t keys
    pure (if accepted then .ok () else .error otherwise)

/-- The rules for the first statement alone. -/
def checkSubject (e : Entry) : ExceptT ChainRejection m Unit := do
  if e.statement.core.selfIssued then pure () else throw .notSelfIssued
  demandSignature check e.token e.statement.core.keys .subjectSignature

/-- The rules for a statement and the one above it. -/
def checkLink (position : Nat) (e next : Entry) : ExceptT ChainRejection m Unit := do
  if e.statement.core.issuer = next.statement.core.subject then pure ()
  else throw (.brokenLink position)
  demandSignature check e.token next.statement.core.keys (.linkSignature position)

/-- The rules for the last statement alone. -/
def checkAnchor (anchor : Option String) (e : Entry) : ExceptT ChainRejection m Unit := do
  match anchor with
  | none => pure ()
  | some a => if e.statement.core.issuer = a then pure () else throw .wrongAnchor
  demandSignature check e.token e.statement.core.keys .anchorSignature

/-- Examines the statements from a position on. -/
def checkFrom (anchor : Option String) (now : Int) (position : Nat) :
    List String → ExceptT ChainRejection m Unit
  | [] => pure ()
  | raw :: rest => do
      let e ← liftExcept (entryAt position raw)
      liftExcept (checkWindow now position e.statement.core)
      if position = 0 then checkSubject check e
      match rest with
      | [] => checkAnchor check anchor e
      | above :: more => do
          let next ← liftExcept (entryAt (position + 1) above)
          checkLink check position e next
          checkFrom anchor now (position + 1) (above :: more)
where
  /-- A plain outcome as a step. -/
  liftExcept {α : Type} (x : Except ChainRejection α) : ExceptT ChainRejection m α :=
    ExceptT.mk (pure x)

/-- Examines all statements of a chain. -/
def checkAll (anchor : Option String) (now : Int) (statements : List String) :
    ExceptT ChainRejection m Unit :=
  if statements.length < minLength then throw .tooShort
  else checkFrom check anchor now 0 statements

/-- The verdict on a chain at an instant. -/
def verify (anchor : Option String) (now : Int) (statements : List String) : m Verdict := do
  match ← (checkAll check anchor now statements).run with
  | .ok () => pure .valid
  | .error r => pure (.invalid r.message)

end Checks
end TrustChain
end EntityTrust
