import EntityTrust.Chain.Verdict
import EntityTrust.Fetch.Federation
import EntityTrust.Statement.Location
import EntityTrust.TrustMark.Claims

/-!
# Validation of trust marks

**Input.**  A trust mark, the configuration of a trust anchor and an instant.

**Rules.**  The mark decodes and has not expired.  Its issuer's configuration, fetched for this, is
the issuer's and verifies under its own keys, which also verify the mark.  Then the anchor decides:
* a mark whose identifier has an owner carries a delegation that the owner signed and issued;
* any other mark is issued by an entity that the anchor lists for its identifier.

**Listed marks.**  A mark that an entity lists has to carry the listed identifier and name the
entity as its subject; otherwise nothing is fetched for it.
-/

namespace EntityTrust

/-- Why a trust mark is rejected. -/
inductive MarkRejection
  | undecodable (cause : StatementError)
  | missingClaims (names : List String)
  | expired
  | unusableIssuer (cause : StatementError)
  | issuerNotFetched (cause : FetchError)
  | invalidIssuerConfiguration (cause : StatementError)
  | issuerNotSelfSigned
  | invalidSignature
  | delegationRequired (id : String)
  | undecodableDelegation (cause : StatementError)
  | invalidDelegationSignature
  | delegationNotByOwner
  | unauthorizedIssuer (issuer id : String)
  | unrecognized (id : String)
  | listedUnderOtherId (id : String)
  | notIssuedTo (holder : String)
  deriving DecidableEq

namespace MarkRejection

/-- The wording of a rejection. -/
def message : MarkRejection → String
  | undecodable e => "Invalid trust mark: " ++ e.message
  | missingClaims names => "Trust mark is missing required claims: " ++ Text.join ", " names
  | expired => "Trust mark has expired"
  | unusableIssuer e => "Invalid trust mark issuer: " ++ e.message
  | issuerNotFetched e => "Failed to fetch trust mark issuer configuration: " ++ e.message
  | invalidIssuerConfiguration e => "Invalid trust mark issuer configuration: " ++ e.message
  | issuerNotSelfSigned => "Trust mark issuer configuration is not validly self-signed"
  | invalidSignature => "Trust mark signature is invalid"
  | delegationRequired id => "Trust mark '" ++ id ++ "' requires a delegation from its owner"
  | undecodableDelegation e => "Invalid trust mark delegation: " ++ e.message
  | invalidDelegationSignature => "Trust mark delegation signature is invalid"
  | delegationNotByOwner => "Trust mark delegation was not issued by the owner"
  | unauthorizedIssuer issuer id =>
      "Trust mark issuer '" ++ issuer ++ "' is not authorized for '" ++ id ++ "'"
  | unrecognized id => "Trust mark '" ++ id ++ "' is not recognized by the trust anchor"
  | listedUnderOtherId id => "Trust mark listed as '" ++ id ++ "' does not carry that id"
  | notIssuedTo holder => "Trust mark was not issued to '" ++ holder ++ "'"

end MarkRejection

namespace TrustMark

/-- Names of claims that a mark lacks; either name of the identifier will do, even with `null`. -/
def missingClaims (t : Token) : List String :=
  t.missing ["iss"] ++
    (if (t.claim "id").isNone && (t.claim "trust_mark_id").isNone then ["id"] else [])

/-- The claims of an unexpired mark. -/
def readMark (t : Token) (now : Int) : Except MarkRejection TrustMarkClaims :=
  match missingClaims t with
  | [] =>
      match t.read TrustMarkClaims.ofJson with
      | .error e => .error (.undecodable e)
      | .ok c =>
          match c.expiresAt with
          | some exp => if exp ≤ now then .error .expired else .ok c
          | none => .ok c
  | names => .error (.missingClaims names)

/-- The configuration that a text carries, with its token. -/
def readIssuer (raw : String) : Except MarkRejection (Token × EntityConfiguration) :=
  match Token.decode raw with
  | .error e => .error (.invalidIssuerConfiguration e)
  | .ok t =>
      match EntityConfiguration.ofToken t with
      | .error e => .error (.invalidIssuerConfiguration e)
      | .ok c => .ok (t, c)

/-- The token of a delegation. -/
def readDelegation (id : String) : Option String → Except MarkRejection Token
  | none => .error (.delegationRequired id)
  | some raw =>
      match Token.decode raw with
      | .error e => .error (.undecodableDelegation e)
      | .ok t => .ok t

/-- The decision of an anchor about an issuer of a mark without owner. -/
def checkIssuer (anchor : EntityConfiguration) (c : TrustMarkClaims) : Except MarkRejection Unit :=
  match anchor.trustMarkIssuers.lookup c.id with
  | some issuers =>
      if issuers.contains c.issuer then .ok () else .error (.unauthorizedIssuer c.issuer c.id)
  | none => .error (.unrecognized c.id)

/-- Whether a listed mark carries the listed identifier and names its holder. -/
def checkListing (entry : TrustMarkEntry) (holder : String) : Except MarkRejection Unit :=
  match Token.decode entry.mark with
  | .error e => .error (.undecodable e)
  | .ok t =>
      let id := (t.claimText "id").or (t.claimText "trust_mark_id")
      if id = some entry.id then
        if t.claimText "sub" = some holder then .ok () else .error (.notIssuedTo holder)
      else .error (.listedUnderOtherId entry.id)

section Checks

variable {m : Type → Type} [Monad m] (f : Federation m)

/-- A plain outcome as a step. -/
def step {α : Type} (x : Except MarkRejection α) : ExceptT MarkRejection m α :=
  ExceptT.mk (pure x)

/-- Requests the configuration of an issuer. -/
def fetchIssuer (url : String) : ExceptT MarkRejection m String :=
  ExceptT.mk do
    match ← f.fetch url with
    | .ok raw => pure (.ok raw)
    | .error e => pure (.error (.issuerNotFetched e))

/-- Demands that a token verifies under a key set. -/
def demand (t : Token) (keys : KeySet) (otherwise : MarkRejection) :
    ExceptT MarkRejection m Unit :=
  ExceptT.mk do
    let accepted ← f.verifies t keys
    pure (if accepted then .ok () else .error otherwise)

/-- Demands that a mark verifies under the published keys of its issuer. -/
def checkSignature (mark : Token) (issuer : String) : ExceptT MarkRejection m Unit := do
  match Location.configuration issuer with
  | .error e => throw (.unusableIssuer e)
  | .ok url =>
      let raw ← fetchIssuer f url
      let (t, c) ← step (readIssuer raw)
      if c.subject = issuer then pure () else throw .issuerNotSelfSigned
      demand f t c.keys .issuerNotSelfSigned
      demand f mark c.keys .invalidSignature

/-- Demands a delegation that the owner of a mark signed and issued. -/
def checkDelegation (owner : TrustMarkOwner) (c : TrustMarkClaims) :
    ExceptT MarkRejection m Unit := do
  let t ← step (readDelegation c.id c.delegation)
  demand f t owner.keys .invalidDelegationSignature
  if t.claimText "iss" = some owner.subject then pure () else throw .delegationNotByOwner

/-- Applies all rules to a mark. -/
def checkMark (anchor : EntityConfiguration) (now : Int) (raw : String) :
    ExceptT MarkRejection m Unit := do
  let t ← step ((Token.decode raw).mapError .undecodable)
  let c ← step (readMark t now)
  checkSignature f t c.issuer
  match anchor.trustMarkOwners.lookup c.id with
  | some owner => checkDelegation f owner c
  | none => step (checkIssuer anchor c)

/-- The verdict that an outcome amounts to. -/
def verdictOf : Except MarkRejection Unit → Verdict
  | .ok () => .valid
  | .error r => .invalid r.message

/-- The verdict on a trust mark. -/
def validate (anchor : EntityConfiguration) (now : Int) (raw : String) : m Verdict := do
  pure (verdictOf (← (checkMark f anchor now raw).run))

/-- The verdict on a mark that an entity lists. -/
def validateEntry (holder : String) (anchor : EntityConfiguration) (now : Int)
    (entry : TrustMarkEntry) : m Verdict :=
  match checkListing entry holder with
  | .error r => pure (.invalid r.message)
  | .ok () => validate f anchor now entry.mark

/-- The verdicts on marks listed by an entity, each under its listed identifier. -/
def validateEntries (holder : String) (anchor : EntityConfiguration) (now : Int) :
    List TrustMarkEntry → m (List (String × Verdict))
  | [] => pure []
  | entry :: rest => do
      let verdict ← validateEntry f holder anchor now entry
      let more ← validateEntries holder anchor now rest
      pure ((entry.id, verdict) :: more)

/-- The verdicts on all marks that an entity lists. -/
def validateAll (entity anchor : EntityConfiguration) (now : Int) : m (List (String × Verdict)) :=
  validateEntries f entity.subject anchor now entity.trustMarks

end Checks
end TrustMark
end EntityTrust
