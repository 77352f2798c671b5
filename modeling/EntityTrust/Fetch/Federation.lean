import EntityTrust.Fetch.Error
import EntityTrust.Statement.Basic
import EntityTrust.Token.Signature

/-!
# The federation seen from a client

A client asks two things of the world: the text served at a URL, and whether a token verifies under
a key.  Both are answered in a monad of the caller's choice.
-/

namespace EntityTrust

/-- How statements are fetched and signatures checked. -/
structure Federation (m : Type → Type) where
  fetch : String → m (Except FetchError String)
  check : Verifier m

namespace Federation

variable {m : Type → Type} [Monad m] (f : Federation m)

/-- Whether a token verifies under the key of a set that its header names. -/
def verifies (t : Token) (keys : KeySet) : m Bool :=
  Signature.verifyWith f.check t keys

end Federation
end EntityTrust
