import EntityTrust.Chain.Verification
import EntityTrust.Discovery.Search

/-!
# Resolutions

The outcome of a search as it is reported: a chain, none, or the text of the failure.

* `Discovery.resolve` reports a search.
* `Discovery.resolveVerified` reports a chain only when it ends at one of the anchors and verifies
  at the given instant.
-/

namespace EntityTrust

/-- The reported outcome of a search; no chain and no error means that there is none. -/
structure Resolution where
  chain : Option TrustChain
  failed : Bool
  message : Option String
  deriving DecidableEq

namespace Resolution

open Json Record

/-- A chain was found. -/
def found (c : TrustChain) : Resolution := ⟨some c, false, none⟩

/-- There is no chain. -/
def notFound : Resolution := ⟨none, false, none⟩

/-- The search failed. -/
def failure (message : String) : Resolution := ⟨none, true, some message⟩

/-- Reads a resolution. -/
def ofJson : As Resolution :=
  Record.read "ResolveResult"
    (Resolution.mk <$> nullable "trustChain" TrustChain.ofJson <*> required "error" asBool <*>
      nullable "errorMessage" asText)

/-- A written resolution. -/
def toJson (r : Resolution) : Json :=
  .object [("error", .bool r.failed), ("errorMessage", r.message.elim .null .string),
    ("trustChain", r.chain.elim .null TrustChain.toJson)]

/-- The report of an outcome. -/
def ofOutcome : Except FetchError (Option TrustChain) → Resolution
  | .ok (some c) => found c
  | .ok none => notFound
  | .error e => failure e.message

end Resolution

namespace Discovery

/-- Settings of a resolver. -/
structure Settings where
  maxDepth : Nat := 5
  deriving DecidableEq

namespace Settings

open Json Record

/-- Reads settings. -/
def ofJson : As Settings :=
  Record.read "ResolverConfig"
    (Settings.mk <$> defaulted "max_depth" (asNatural Numeral.maxWord64 "usize") 5)

/-- Written settings. -/
def toJson (s : Settings) : Json :=
  .object [("max_depth", .integer s.maxDepth)]

end Settings

/-- The first anchor that issued the last statement of a chain. -/
def anchoredIn (c : TrustChain) (anchors : List String) : Option String :=
  match c.anchor with
  | .error _ => none
  | .ok issuer =>
      anchors.find? fun a => Location.canonical a == Location.canonical issuer

section Resolving

variable {m : Type → Type} [Monad m] (f : Federation m)

/-- Reports the search for a chain. -/
def resolve (settings : Settings) (id : String) (anchors : List String) (maxDepth : Option Nat) :
    m Resolution := do
  let outcome ← findChain f id anchors (maxDepth.getD settings.maxDepth)
  pure (.ofOutcome outcome)

/-- Reports the search for a chain that verifies at an instant. -/
def resolveVerified (settings : Settings) (verifier : Verifier m) (id : String)
    (anchors : List String) (now : Int) : m Resolution := do
  let r ← resolve f settings id anchors none
  match r.chain with
  | none => pure r
  | some c =>
      match anchoredIn c anchors with
      | none => pure (.failure ChainRejection.wrongAnchor.message)
      | some _ =>
          let verdict ← TrustChain.verify verifier none now c.statements
          if verdict.isValid then pure r
          else pure (.failure (verdict.error.getD "Trust chain verification failed"))

end Resolving
end Discovery
end EntityTrust
