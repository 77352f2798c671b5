import EntityTrust.Text.Basic
import EntityTrust.Url.Percent

/-!
# Form encoding of pairs

Lists of names and values as they stand in a query.

* `Form.encodeText` leaves letters, digits and `*-._` as they are, writes a plus sign for a space
  and percent-encodes everything else.
* `Form.decode` reads the pairs of a query; empty stretches between ampersands are no pairs, and
  ill-formed octets are replaced.
-/

namespace EntityTrust
namespace Form

/-- Characters that stand for themselves. -/
def isPlain (c : Char) : Bool :=
  c.isAlphanum || c == '*' || c == '-' || c == '.' || c == '_'

/-- An encoded name or value. -/
def encodeText (s : String) : List Char :=
  s.toList.flatMap fun c =>
    if isPlain c then [c] else if c = ' ' then ['+'] else Percent.encodeOctets c

/-- An encoded pair. -/
def encodePair (name value : String) : List Char :=
  encodeText name ++ '=' :: encodeText value

/-- A decoded name or value. -/
def decodeText (cs : List Char) : String :=
  Utf8.decodeLossy (Percent.decode (Utf8.encode (String.ofList
    (cs.map fun c => if c = '+' then ' ' else c))))

/-- A decoded pair; without an equals sign the value is empty. -/
def decodePair (cs : List Char) : String × String :=
  (decodeText (cs.takeWhile (· != '=')), decodeText ((cs.dropWhile (· != '=')).drop 1))

/-- The pairs of a query. -/
def decode (query : List Char) : List (String × String) :=
  ((Text.cut '&' query).filter fun p => !p.isEmpty).map decodePair

/-- A query with one more pair at its end. -/
def append (query : List Char) (name value : String) : List Char :=
  (if query.isEmpty then [] else query ++ ['&']) ++ encodePair name value

end Form
end EntityTrust
