import EntityTrust.Error
import EntityTrust.Url.Parser

/-!
# Where statements are found

* `Location.configuration` is the place of an entity's configuration: the identifier without slashes
  at its end, followed by a fixed path.  It is answered as it is written, once it reads as a URL.
* `Location.subordinate` is the place of the statement about a subject at a fetch endpoint: the
  endpoint in normal form with the subject as one more parameter.
-/

namespace EntityTrust
namespace Location

/-- The path of an entity's configuration. -/
def wellKnownPath : String := "/.well-known/openid-federation"

/-- The media type of served statements. -/
def contentType : String := "application/entity-statement+jwt"

/-- An identifier without slashes at its end. -/
def canonical (id : String) : String :=
  Text.dropTrailing '/' id

/-- Reads a URL on behalf of an identifier. -/
def parseFor (id : String) (text : String) : Except StatementError Url :=
  match Url.parse text with
  | .ok u => .ok u
  | .error e => .error (.invalidIdentifier (id ++ ": " ++ e.message))

/-- The URL of an entity's configuration. -/
def configuration (id : String) : Except StatementError String :=
  let text := canonical id ++ wellKnownPath
  (parseFor id text).map fun _ => text

/-- The URL of the statement about a subject at a fetch endpoint. -/
def subordinate (endpoint subject : String) : Except StatementError String :=
  (parseFor endpoint endpoint).map fun u => (u.appendPair "sub" subject).render

end Location
end EntityTrust
