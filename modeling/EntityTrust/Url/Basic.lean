import EntityTrust.Url.Address
import EntityTrust.Url.Form

/-!
# Absolute URLs

The parts of a URL in normal form and its written form.

* A path is either hierarchical, and then starts with a slash or is empty, or opaque.
* `Url.render` writes `/.` before a path that would otherwise read as an authority.
* `Url.appendPair` adds a name and a value at the end of the query and touches nothing else.
-/

namespace EntityTrust

/-- The host of a URL. -/
inductive Host
  | name (cs : List Char)
  | version4 (address : Nat)
  | version6 (pieces : List Nat)
  deriving DecidableEq

/-- The written form of a host. -/
def Host.render : Host → List Char
  | name cs => cs
  | version4 n => Address.write4 n
  | version6 ps => '[' :: (Address.write6 ps ++ [']'])

/-- Whether there is a host at all. -/
def Host.isEmpty : Host → Bool
  | name cs => cs.isEmpty
  | _ => false

/-- What stands between the double slash and the path. -/
structure Authority where
  user : List Char
  password : List Char
  host : Host
  port : Option Nat
  deriving DecidableEq

namespace Authority

/-- The written user name and password. -/
def renderUser (a : Authority) : List Char :=
  if a.user.isEmpty && a.password.isEmpty then []
  else a.user ++ (if a.password.isEmpty then [] else ':' :: a.password) ++ ['@']

/-- The written authority. -/
def render (a : Authority) : List Char :=
  a.renderUser ++ a.host.render ++
    (match a.port with
      | some p => ':' :: Nat.toDigits 10 p
      | none => [])

end Authority

/-- An absolute URL in normal form. -/
structure Url where
  scheme : List Char
  authority : Option Authority
  path : List Char
  query : Option (List Char)
  fragment : Option (List Char)
  deriving DecidableEq

namespace Url

/-- The written path, kept apart from an authority. -/
def renderPath (u : Url) : List Char :=
  match u.authority, u.path with
  | none, '/' :: '/' :: _ => '/' :: '.' :: u.path
  | _, _ => u.path

/-- A part with the character that introduces it. -/
def renderPart (mark : Char) : Option (List Char) → List Char
  | some cs => mark :: cs
  | none => []

/-- The written URL as characters. -/
def renderChars (u : Url) : List Char :=
  u.scheme ++ ':' ::
    ((match u.authority with
      | some a => '/' :: '/' :: a.render
      | none => []) ++ u.renderPath ++ renderPart '?' u.query ++ renderPart '#' u.fragment)

/-- The written URL. -/
def render (u : Url) : String :=
  String.ofList u.renderChars

/-- The URL without user name and password. -/
def withoutUser (u : Url) : Url :=
  { u with authority := u.authority.map fun a => { a with user := [], password := [] } }

/-- The pairs of the query. -/
def queryPairs (u : Url) : List (String × String) :=
  Form.decode (u.query.getD [])

/-- The URL with one more pair in its query. -/
def appendPair (u : Url) (name value : String) : Url :=
  { u with query := some (Form.append (u.query.getD []) name value) }

end Url
end EntityTrust
