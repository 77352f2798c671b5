import EntityTrust.Fetch.Error
import EntityTrust.Json.Record

/-!
# Replies of the service

* `Reply` is what is answered: a status, the headers that depend on the request, and a body.
* `Fault` is a request that cannot be served, by whose fault it is; its reply holds the text and a
  code.
-/

namespace EntityTrust
namespace Service

/-- The body of a reply. -/
inductive Body
  | empty
  | json (value : Json)
  | text (s : String)
  deriving DecidableEq

/-- An answer to a request. -/
structure Reply where
  status : Nat
  contentType : Option String := none
  allow : Option String := none
  allowOrigin : Option String := none
  body : Body := .empty
  deriving DecidableEq

namespace Reply

/-- A reply with a value. -/
def ofJson (status : Nat) (value : Json) : Reply :=
  { status := status, contentType := some "application/json", body := .json value }

/-- A reply with a plain text. -/
def ofText (status : Nat) (s : String) : Reply :=
  { status := status, contentType := some "text/plain; charset=utf-8", body := .text s }

/-- A reply without content. -/
def bare (status : Nat) : Reply :=
  { status := status }

/-- A reply without its body. -/
def withoutBody (r : Reply) : Reply :=
  { r with body := .empty }

end Reply

/-- A request that cannot be served. -/
inductive Fault
  | badRequest (text : String)
  | badGateway (text : String)
  | internal (text : String)
  deriving DecidableEq

namespace Fault

/-- The wording of a fault. -/
def message : Fault → String
  | badRequest t => "Invalid request: " ++ t
  | badGateway t => "Upstream failure: " ++ t
  | internal t => "Internal error: " ++ t

/-- The text that is replied. -/
def text : Fault → String
  | badRequest t | badGateway t | internal t => t

/-- The status of the reply. -/
def status : Fault → Nat
  | badRequest _ => 400
  | badGateway _ => 502
  | internal _ => 500

/-- The code of the reply. -/
def code : Fault → String
  | badRequest _ => "BAD_REQUEST"
  | badGateway _ => "BAD_GATEWAY"
  | internal _ => "INTERNAL_ERROR"

/-- The reply to a fault. -/
def reply (f : Fault) : Reply :=
  .ofJson f.status (.object [("code", .string f.code), ("error", .string f.text)])

/-- The fault that a statement failure amounts to: only an identifier comes from the request. -/
def ofStatement : StatementError → Fault
  | .invalidIdentifier t => badRequest (StatementError.invalidIdentifier t).message
  | e => badGateway e.message

/-- The fault that a failed fetch amounts to. -/
def ofFetch : FetchError → Fault
  | .statement e => ofStatement e
  | .configuration t => internal t
  | e => badGateway e.message

end Fault
end Service
end EntityTrust
