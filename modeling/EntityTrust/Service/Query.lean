import EntityTrust.Service.Reply
import EntityTrust.Text.Numeral
import EntityTrust.Url.Form

/-!
# Resolve queries

**Input.**  The query of a request for a trust chain: pairs of names and values.

**Rules.**  Anchors may repeat and are kept in order.  Of repeated subjects and depths the last one
counts, though every depth has to be a number.  A subject is needed; unknown names are ignored.
-/

namespace EntityTrust
namespace Service

/-- A request for a trust chain. -/
structure Query where
  subject : String
  trustAnchors : List String
  maxDepth : Option Nat
  deriving DecidableEq

namespace Query

/-- What has been read of a query. -/
structure Draft where
  subject : Option String := none
  trustAnchors : List String := []
  maxDepth : Option Nat := none
  deriving DecidableEq

/-- A depth that is no number. -/
def badDepth (text : String) : Fault :=
  .badRequest ("max_depth must be a number, got '" ++ text ++ "'")

/-- A query without subject. -/
def missingSubject : Fault :=
  .badRequest "missing 'sub' query parameter"

/-- Takes in one pair. -/
def add (d : Draft) : String × String → Except Fault Draft
  | ("sub", value) => .ok { d with subject := some value }
  | ("trust_anchor", value) => .ok { d with trustAnchors := d.trustAnchors ++ [value] }
  | ("max_depth", value) =>
      match Numeral.parse Numeral.maxWord64 value with
      | .ok n => .ok { d with maxDepth := some n }
      | .error _ => .error (badDepth value)
  | _ => .ok d

/-- The query that pairs make up. -/
def ofPairs (pairs : List (String × String)) : Except Fault Query := do
  let d ← pairs.foldlM add {}
  match d.subject with
  | none => throw missingSubject
  | some subject =>
      if subject.isEmpty then throw missingSubject
      else pure ⟨subject, d.trustAnchors, d.maxDepth⟩

/-- Reads a query, an absent one like an empty one. -/
def parse (query : Option String) : Except Fault Query :=
  ofPairs (Form.decode (query.getD "").toList)

end Query
end Service
end EntityTrust
