import EntityTrust.Chain.Basic
import EntityTrust.Fetch.Federation
import EntityTrust.Statement.Location

/-!
# Search for trust chains

**Input.**  An entity identifier, a list of trust anchors and the number of authority levels that
may be climbed.

**Algorithm.**  Depth-first search along authority hints, those that name an anchor first.  A hop to
an authority counts when its configuration verifies under its own keys and carries the hinted
identifier, and when the statement it serves about the entity below verifies under its keys and
attests the key that the entity's last statement was signed with.  No configuration is requested
twice in one search.

**Failures.**  A fetch that fails ends the search.  Anything wrong with a served text only ends the
branch it was found on.
-/

namespace EntityTrust
namespace Discovery

/-- A configuration that verifies under its own keys, with its token. -/
structure Verified where
  token : Token
  configuration : EntityConfiguration
  deriving DecidableEq

/-- Steps of a search, with the configuration URLs requested so far. -/
abbrev Search (m : Type → Type) := StateT (List String) (ExceptT FetchError m)

/-- What a search looks for. -/
structure Goal where
  anchors : List String

/-- The goal of reaching one of the given anchors. -/
def Goal.ofAnchors (anchors : List String) : Goal :=
  ⟨anchors.map Location.canonical⟩

/-- Whether an identifier names an anchor. -/
def Goal.isAnchor (g : Goal) (id : String) : Bool :=
  g.anchors.contains (Location.canonical id)

/-- Hints in the order in which they are tried. -/
def Goal.ordered (g : Goal) (hints : List String) : List String :=
  hints.filter g.isAnchor ++ hints.filter fun h => !g.isAnchor h

/-- Reads a text as an entity configuration with at least one key. -/
def readConfiguration (raw : String) : Option Verified :=
  match Token.decode raw with
  | .error _ => none
  | .ok t =>
      match EntityConfiguration.ofToken t with
      | .error _ => none
      | .ok c => if c.keys.keys.isEmpty then none else some ⟨t, c⟩

/-- A text read as a statement of a superior about a subject, from the superior's identifier. -/
def readSubordinate (raw issuer subject : String) : Option (Token × SubordinateStatement) :=
  match Token.decode raw with
  | .error _ => none
  | .ok t =>
      match SubordinateStatement.ofToken t with
      | .error _ => none
      | .ok s => if s.issuer = issuer ∧ s.subject = subject then some (t, s) else none

/-- Where the statement of an authority about a subject is served. -/
def statementUrl (authority : EntityConfiguration) (subject : String) : Option String :=
  authority.fetchEndpoint.bind fun endpoint => (Location.subordinate endpoint subject).toOption

section Steps

variable {m : Type → Type} [Monad m] (f : Federation m)

/-- Requests the text at a URL. -/
def request (url : String) : Search m String :=
  fun visited => ExceptT.mk do
    match ← f.fetch url with
    | .ok raw => pure (.ok (raw, visited))
    | .error e => pure (.error e)

/-- Asks whether a token verifies under a key set. -/
def ask (t : Token) (keys : KeySet) : Search m Bool :=
  fun visited => ExceptT.mk do
    let accepted ← f.verifies t keys
    pure (.ok (accepted, visited))

/-- Marks a configuration URL as requested; `false` when it was before. -/
def visit (url : String) : Search m Bool :=
  fun visited =>
    pure (if visited.contains url then (false, visited) else (true, url :: visited))

/-- The configuration that a text carries, when it verifies under its own keys. -/
def selfVerified (raw : String) : Search m (Option Verified) :=
  match readConfiguration raw with
  | none => pure none
  | some v => do
      if ← ask f v.token v.configuration.keys then pure (some v) else pure none

/-- The key that signed a statement about a subject, when the statement binds the subject. -/
def verifiedSubordinate (raw : String) (authority : EntityConfiguration)
    (subject keyId : String) : Search m (Option String) :=
  match readSubordinate raw authority.subject subject with
  | none => pure none
  | some (t, s) => do
      if ← ask f t authority.keys then
        pure (if s.keys.contains keyId then t.keyId else none)
      else pure none

/-- The authority that a hint names, with the text of its configuration. -/
def authorityOf (hint : String) : Search m (Option (String × EntityConfiguration)) :=
  match Location.configuration hint with
  | .error _ => pure none
  | .ok url => do
      if ← visit url then
        let raw ← request f url
        match ← selfVerified f raw with
        | none => pure none
        | some v =>
            if Location.canonical v.configuration.subject = Location.canonical hint then
              pure (some (raw, v.configuration))
            else pure none
      else pure none

/-- The statement of an authority about a subject, with the key that signed it. -/
def attestation (authority : EntityConfiguration) (subject keyId : String) :
    Search m (Option (String × String)) :=
  match statementUrl authority subject with
  | none => pure none
  | some url => do
      let raw ← request f url
      match ← verifiedSubordinate f raw authority subject keyId with
      | none => pure none
      | some signer => pure (some (raw, signer))

/-- An entity on the way up, with the key of its last statement and the chain so far. -/
structure Climber where
  entity : EntityConfiguration
  keyId : String
  chain : List String

/-- Follows one hint; `climb` goes on from an authority that is no anchor. -/
def follow (g : Goal) (climb : Climber → Search m (Option (List String))) (c : Climber)
    (hint : String) : Search m (Option (List String)) := do
  match ← authorityOf f hint with
  | none => pure none
  | some (authorityRaw, authority) =>
      match ← attestation f authority c.entity.subject c.keyId with
      | none => pure none
      | some (raw, signer) =>
          if g.isAnchor hint then pure (some (c.chain ++ [raw, authorityRaw]))
          else climb ⟨authority, signer, c.chain ++ [raw]⟩

/-- Follows hints until one of them leads to a chain. -/
def followAny (g : Goal) (climb : Climber → Search m (Option (List String))) (c : Climber) :
    List String → Search m (Option (List String))
  | [] => pure none
  | hint :: more => do
      match ← follow f g climb c hint with
      | some found => pure (some found)
      | none => followAny g climb c more

/-- Climbs from an entity at most the given number of levels. -/
def search (g : Goal) : Nat → Climber → Search m (Option (List String))
  | 0, _ => pure none
  | levels + 1, c => followAny f g (search g levels) c (g.ordered c.entity.authorityHints)

/-- The chain from the entity whose configuration is the given text. -/
def searchFrom (g : Goal) (levels : Nat) (raw : String) : Search m (Option (List String)) := do
  match ← selfVerified f raw with
  | none => pure none
  | some v =>
      match v.token.keyId with
      | none => pure none
      | some keyId => search f g levels ⟨v.configuration, keyId, [raw]⟩

/-- Searches a chain from an entity to one of the anchors. -/
def findChain (id : String) (anchors : List String) (levels : Nat) :
    m (Except FetchError (Option TrustChain)) :=
  match Location.configuration id with
  | .error e => pure (.error (.statement e))
  | .ok url => do
      let steps : Search m (Option (List String)) := do
        let raw ← request f url
        searchFrom f (.ofAnchors anchors) levels raw
      match ← (steps.run [url]).run with
      | .ok (found, _) => pure (.ok (found.map TrustChain.mk))
      | .error e => pure (.error e)

end Steps
end Discovery
end EntityTrust
