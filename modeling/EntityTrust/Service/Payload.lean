import EntityTrust.Json.Streamed
import EntityTrust.Service.MediaType
import EntityTrust.Service.Reply

/-!
# Payloads of requests

A payload is a JSON document that holds a record.  It is refused for its media type before it is
read; then faults of the text are told from faults of the data, and both name the way to the place
of the fault.

* `ChainPayload` asks for the verification of a chain.
* `MarkPayload` asks for the validation of a trust mark.
-/

namespace EntityTrust
namespace Service

/-- Why a payload is refused. -/
inductive PayloadFault
  | wrongMediaType
  | malformed (text : String)
  | mistyped (text : String)
  deriving DecidableEq

/-- The reply to a refused payload. -/
def PayloadFault.reply : PayloadFault → Reply
  | wrongMediaType => .ofText 415 "Expected request with \x60Content-Type: application/json\x60"
  | malformed t => .ofText 400 ("Failed to parse the request body as JSON: " ++ t)
  | mistyped t =>
      .ofText 422 ("Failed to deserialize the JSON body into the target type: " ++ t)

namespace Payload

open Json Record

/-- The wording of a fault with the way to its place. -/
def located (octets : List UInt8) (f : Json.Fault) : String :=
  let text := f.message octets
  match writtenPath f.path with
  | "" => text
  | path => path ++ ": " ++ text

/-- The refusal for a fault. -/
def refusal (octets : List UInt8) (f : Json.Fault) : PayloadFault :=
  if f.issue.isData then .mistyped (located octets f) else .malformed (located octets f)

/-- Reads a payload of the given content type. -/
def read {α : Type} (reader : Reader α) (contentType : Option String) (octets : List UInt8) :
    Except PayloadFault α :=
  if (contentType.bind MediaType.parse).any MediaType.isJson then
    (wholeDocument reader octets).mapError (refusal octets)
  else .error .wrongMediaType

end Payload

open Json Record

/-- A chain to be verified, perhaps for a given anchor and instant. -/
structure ChainPayload where
  statements : List String
  trustAnchor : Option String
  currentTime : Option Int
  deriving DecidableEq

namespace ChainPayload

/-- The members of the record. -/
def record : Record ChainPayload :=
  ChainPayload.mk <$> required "trust_chain" (asList asText) <*>
    omittable "trust_anchor" asText <*> omittable "current_time" asSigned64

/-- The readers of the members, in the same order. -/
def streamed : StreamedMembers :=
  [("trust_chain", readList readText), ("trust_anchor", fun _ => readOptional readText),
    ("current_time", fun _ => readOptional readSigned64)]

/-- Reads the record. -/
def reader : Reader ChainPayload :=
  readStreamed "VerifyRequest" streamed record maxDepth

end ChainPayload

/-- A trust mark to be validated for an anchor, perhaps at a given instant. -/
structure MarkPayload where
  trustMark : String
  trustAnchor : String
  currentTime : Option Int
  deriving DecidableEq

namespace MarkPayload

/-- The members of the record. -/
def record : Record MarkPayload :=
  MarkPayload.mk <$> required "trust_mark" asText <*> required "trust_anchor" asText <*>
    omittable "current_time" asSigned64

/-- The readers of the members, in the same order. -/
def streamed : StreamedMembers :=
  [("trust_mark", fun _ => readText), ("trust_anchor", fun _ => readText),
    ("current_time", fun _ => readOptional readSigned64)]

/-- Reads the record. -/
def reader : Reader MarkPayload :=
  readStreamed "ValidateTrustMarkRequest" streamed record maxDepth

end MarkPayload
end Service
end EntityTrust
