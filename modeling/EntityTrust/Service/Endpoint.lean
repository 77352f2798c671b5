import EntityTrust.Service.Payload
import EntityTrust.Service.Query
import EntityTrust.Service.Settings
import EntityTrust.TrustMark.Validation
import EntityTrust.Version

/-!
# Endpoints

**Input.**  A request: a method, a target and, for some endpoints, a payload.

**Dispatch.**  Paths are compared as they are written.  An unknown path is not found, a known one
admits only its methods, and `HEAD` is answered like `GET` without the body.  Any origin may ask,
and `OPTIONS` is answered on every path.

**Endpoints.**
* health: whether the service is up;
* resolve: the search for a trust chain;
* verify: the verdict on a given chain;
* validate: the verdict on a trust mark, by the policy in the anchor's published configuration.
-/

namespace EntityTrust
namespace Service

/-- A request. -/
structure Request where
  method : String
  path : String
  query : Option String
  contentType : Option String
  body : List UInt8
  deriving DecidableEq

/-- Path and query of a target; a scheme and an authority in front do not count. -/
def splitTarget (target : String) : String × Option String :=
  let cs := target.toList.takeWhile (· != '#')
  let cs := if cs.head? = some '/' then cs else afterAuthority cs
  let path := cs.takeWhile (· != '?')
  let query := (cs.dropWhile (· != '?')).tail?
  (String.ofList path, query.map String.ofList)
where
  afterAuthority (cs : List Char) : List Char :=
    match cs.dropWhile (· != ':') with
    | ':' :: '/' :: '/' :: rest =>
        let tail := rest.dropWhile fun c => c != '/' && c != '?'
        if tail.head? = some '/' then tail else '/' :: tail
    | _ => cs

/-- What can be asked. -/
inductive Endpoint
  | health
  | resolve
  | verify
  | validate
  deriving DecidableEq

namespace Endpoint

/-- The path of an endpoint. -/
def path : Endpoint → String
  | health => "/health"
  | resolve => "/v1/resolve"
  | verify => "/v1/verify"
  | validate => "/v1/trust-marks/validate"

/-- All endpoints. -/
def all : List Endpoint := [health, resolve, verify, validate]

/-- The endpoint at a path. -/
def ofPath? (path : String) : Option Endpoint :=
  all.find? fun e => e.path == path

/-- The methods of an endpoint. -/
def methods : Endpoint → List String
  | health | resolve => ["GET", "HEAD"]
  | verify | validate => ["POST"]

/-- The methods of an endpoint as they are announced. -/
def allow (e : Endpoint) : String :=
  Text.join "," e.methods

end Endpoint
end Service

/-- A service: a federation, settings and a clock in seconds. -/
structure Service (m : Type → Type) where
  federation : Federation m
  settings : Service.Settings
  now : m Int

namespace Service

variable {m : Type → Type} [Monad m] (s : Service m)

/-- The reply that says that the service is up. -/
def healthy : Reply :=
  .ofJson 200 (.object [("status", .string "ok"), ("version", .string version)])

/-- The given instant, or else the present one. -/
def instant (given : Option Int) : m Int :=
  match given with
  | some t => pure t
  | none => s.now

/-- The anchors that a query names, or else those of the settings. -/
def anchorsFor (q : Query) : Except Fault (List String) :=
  let anchors := if q.trustAnchors.isEmpty then s.settings.trustAnchors else q.trustAnchors
  if anchors.isEmpty then .error (.badRequest "no trust_anchor given and none configured")
  else .ok anchors

/-- Answers a search for a trust chain. -/
def replyResolve (query : Option String) : m Reply :=
  match Query.parse query with
  | .error f => pure f.reply
  | .ok q =>
      match s.anchorsFor q with
      | .error f => pure f.reply
      | .ok anchors => do
          let r ← Discovery.resolve s.federation s.settings.resolver q.subject anchors q.maxDepth
          pure (.ofJson 200 r.toJson)

/-- Answers a request to verify a chain. -/
def replyVerify (p : ChainPayload) : m Reply := do
  let now ← s.instant p.currentTime
  let verdict ← TrustChain.verify s.federation.check p.trustAnchor now p.statements
  pure (.ofJson 200 verdict.toJson)

/-- The configuration that a text carries, with its token. -/
def readAnchor (raw : String) : Except Fault (Token × EntityConfiguration) :=
  match Token.decode raw with
  | .error e => .error (.ofStatement e)
  | .ok t =>
      match EntityConfiguration.ofToken t with
      | .error e => .error (.ofStatement e)
      | .ok c => .ok (t, c)

/-- The published configuration of an anchor, when it verifies under its own keys and is valid. -/
def anchorConfiguration (id : String) (now : Int) : m (Except Fault EntityConfiguration) :=
  match Location.configuration id with
  | .error e => pure (.error (.ofStatement e))
  | .ok url => do
      match ← s.federation.fetch url with
      | .error e =>
          pure (.error (.badGateway ("trust anchor configuration unavailable: " ++ e.message)))
      | .ok raw =>
          match readAnchor raw with
          | .error f => pure (.error f)
          | .ok (t, c) => do
              let verified ← if c.subject = id then s.federation.verifies t c.keys else pure false
              pure <|
                if !verified then
                  .error (.badGateway "trust anchor configuration is not validly self-signed")
                else if !c.toStatementCore.validAt now then
                  .error (.badGateway "trust anchor configuration is not currently valid")
                else .ok c

/-- Answers a request to validate a trust mark. -/
def replyValidate (p : MarkPayload) : m Reply := do
  let now ← s.instant p.currentTime
  match ← s.anchorConfiguration p.trustAnchor now with
  | .error f => pure f.reply
  | .ok anchor => do
      let verdict ← TrustMark.validate s.federation anchor now p.trustMark
      pure (.ofJson 200 verdict.toJson)

/-- Answers a request at an endpoint. -/
def replyAt (r : Request) : Endpoint → m Reply
  | .health => pure healthy
  | .resolve => s.replyResolve r.query
  | .verify =>
      match Payload.read ChainPayload.reader r.contentType r.body with
      | .error f => pure f.reply
      | .ok p => s.replyVerify p
  | .validate =>
      match Payload.read MarkPayload.reader r.contentType r.body with
      | .error f => pure f.reply
      | .ok p => s.replyValidate p

/-- Answers a request, before the headers that every reply has. -/
def dispatch (r : Request) : m Reply :=
  match Endpoint.ofPath? r.path with
  | none => pure (.bare (if r.method = "OPTIONS" then 200 else 404))
  | some e =>
      if e.methods.contains r.method then do
        let reply ← s.replyAt r e
        pure (if r.method = "HEAD" then reply.withoutBody else reply)
      else
        pure { Reply.bare (if r.method = "OPTIONS" then 200 else 405) with allow := some e.allow }

/-- Answers a request. -/
def answer (r : Request) : m Reply := do
  let reply ← s.dispatch r
  pure { reply with allowOrigin := some "*" }

end Service
end EntityTrust
