import EntityTrust.Fetch.Settings
import EntityTrust.Url.Parser

/-!
# Requests for statements

**Building.**  `Request.build` reads the URL, sets its user name and password apart as credentials,
and adds the validators of a stored response.  What is asked for is refused in this order:
* a text that is no URL, or a URL without a host;
* a header value with a control character;
* a URL of another scheme than `http` and `https`, or one that no request line can carry.

**Answers.**  A response has a status, headers and, unless it broke off, a body.
-/

namespace EntityTrust
namespace Fetch

/-- Why there is no usable answer to a request. -/
inductive TransportError
  | unreadableUrl
  | invalidHeader
  | unusableUrl (url : String)
  | unanswered (url : String)
  | brokenBody
  deriving DecidableEq

/-- The wording of a failure. -/
def TransportError.message : TransportError → String
  | unreadableUrl => "builder error"
  | invalidHeader => "builder error"
  | unusableUrl url => "builder error for url (" ++ url ++ ")"
  | unanswered url => "error sending request for url (" ++ url ++ ")"
  | brokenBody => "error decoding response body"

/-- A fetched statement and the validators of the response it came in. -/
structure Fetched where
  body : String
  etag : Option String
  lastModified : Option String
  deriving DecidableEq

/-- A user name and a password. -/
structure Credentials where
  user : String
  password : Option String
  deriving DecidableEq

/-- A request for a statement. -/
structure Request where
  url : Url
  credentials : Option Credentials
  userAgent : String
  timeout : Duration
  ifNoneMatch : Option String
  ifModifiedSince : Option String
  deriving DecidableEq

/-- A response; header names are in lower case and values are octets. -/
structure Response where
  status : Nat
  headers : List (String × List UInt8)
  body : Option (List UInt8)
  deriving DecidableEq

/-- Whether a text can stand in a header. -/
def isHeaderValue (s : String) : Bool :=
  s.toList.all fun c => (0x20 ≤ c.toNat && c.toNat != 0x7F) || c == '\t'

namespace Request

/-- The text of a percent-encoded part of a URL, if it is one. -/
def plainText? (cs : List Char) : Option String :=
  (Utf8.decode (Percent.decode (Utf8.encode (String.ofList cs)))).toOption

/-- The credentials in an authority. -/
def credentialsIn (a : Authority) : Option Credentials := do
  let user ← plainText? a.user
  let password := if a.password.isEmpty then none else plainText? a.password
  if user.isEmpty && password.isNone then none else some ⟨user, password⟩

/-- Whether a URL has a host. -/
def hasHost (u : Url) : Bool :=
  u.authority.any fun a => !a.host.isEmpty

/-- Characters of host names that no request line can carry. -/
def isUnsendable (c : Char) : Bool :=
  ['"', '\x60', '\x7b', '\x7d'].contains c

/-- Most characters of a URL in a request line. -/
def maxLength : Nat := 0xFFFE

/-- Whether requests can be sent to a URL. -/
def isSendable (u : Url) : Bool :=
  (u.scheme == "http".toList || u.scheme == "https".toList) &&
    u.renderChars.length ≤ maxLength &&
    !(u.authority.any fun a => a.host.render.any isUnsendable)

/-- The validators to send for a stored statement. -/
def validators (s : Settings) (previous : Option Fetched) : Option String × Option String :=
  if s.validate then (previous.bind Fetched.etag, previous.bind Fetched.lastModified)
  else (none, none)

/-- The request for the statement at a URL. -/
def build (s : Settings) (url : String) (previous : Option Fetched) :
    Except TransportError Request :=
  match Url.parse url with
  | .error _ => .error .unreadableUrl
  | .ok u =>
      if hasHost u then
        let credentials := u.authority.bind credentialsIn
        let target := if credentials.isSome then u.withoutUser else u
        let (etag, modified) := validators s previous
        if etag.all isHeaderValue && modified.all isHeaderValue then
          if isSendable target then
            .ok ⟨target, credentials, s.userAgent, s.timeout, etag, modified⟩
          else .error (.unusableUrl target.render)
        else .error .invalidHeader
      else .error (.unusableUrl u.render)

end Request

namespace Response

/-- Whether a status reports success. -/
def isSuccess (r : Response) : Bool :=
  200 ≤ r.status && r.status < 300

/-- The first value of a header, if it is visible ASCII. -/
def header? (r : Response) (name : String) : Option String := do
  let octets ← r.headers.lookup name
  if octets.all fun b => (32 ≤ b && b < 127) || b == 9 then
    some (String.ofList (octets.map fun b => Char.ofNat b.toNat))
  else none

/-- The statement that a response carries. -/
def statement (r : Response) : Except TransportError Fetched :=
  match r.body with
  | none => .error .brokenBody
  | some octets =>
      .ok ⟨Text.trimBlank (Utf8.decodeLossy octets), r.header? "etag", r.header? "last-modified"⟩

end Response
end Fetch
end EntityTrust
