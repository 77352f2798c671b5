import EntityTrust.Text.Basic

/-!
# Media types

**Input.**  The value of a content type header.

**Grammar.**  A type, a slash, a subtype, and parameters behind semicolons.  What follows the last
plus sign of a subtype is its suffix.  A parameter has a name and a value, which may be quoted.
-/

namespace EntityTrust
namespace Service

/-- A media type without its parameters, in lower case. -/
structure MediaType where
  type : String
  subtype : String
  suffix : Option String
  deriving DecidableEq

namespace MediaType

/-- Characters of names and of unquoted values. -/
def isToken (c : Char) : Bool :=
  c.isAlphanum || "!#$%&'+-.^_\x60|~".toList.contains c

/-- Characters of quoted values. -/
def isQuotable (c : Char) : Bool :=
  0x20 ≤ c.toNat && c.toNat < 0x7F

/-- Where in a list of parameters a character stands. -/
inductive Place
  | start
  | name
  | valueStart
  | value
  | quotedStart
  | quoted
  | afterQuoted
  deriving DecidableEq

namespace Place

/-- The place behind a character. -/
def next : Place → Char → Option Place
  | start, c => if c = ' ' then some start else if isToken c then some name else none
  | name, c => if c = '=' then some valueStart else if isToken c then some name else none
  | valueStart, c =>
      if c = '"' then some quotedStart else if isToken c then some value else none
  | value, c => if c = ';' then some start else if isToken c then some value else none
  | quotedStart, c => if isQuotable c then some quoted else none
  | quoted, c =>
      if c = '"' then some afterQuoted else if isQuotable c then some quoted else none
  | afterQuoted, c =>
      if c = ';' then some start else if c = ' ' then some afterQuoted else none

/-- Whether parameters may end at a place. -/
def isEnd : Place → Bool
  | start | valueStart | value | afterQuoted => true
  | name | quotedStart | quoted => false

end Place

/-- Whether a text is a list of parameters. -/
def areParameters (cs : List Char) : Bool :=
  (cs.foldlM Place.next .start).any Place.isEnd

/-- A media type with a subtype that may have a suffix. -/
def ofNames (type subtype : List Char) : MediaType :=
  let lower (cs : List Char) := (String.ofList cs).toLower
  match Text.splitLast '+' (lower subtype) with
  | some (before, after) =>
      if before.isEmpty then ⟨lower type, lower subtype, none⟩
      else ⟨lower type, before, some after⟩
  | none => ⟨lower type, lower subtype, none⟩

/-- Reads a media type. -/
def parse (s : String) : Option MediaType :=
  let (type, rest) := s.toList.span isToken
  match rest with
  | '/' :: rest =>
      let (subtype, rest) := rest.span isToken
      match rest with
      | [] => if type.isEmpty then none else some (ofNames type subtype)
      | ';' :: parameters =>
          if type.isEmpty || subtype.isEmpty || !areParameters parameters then none
          else some (ofNames type subtype)
      | _ => none
  | _ => none

/-- Whether bodies of a media type are JSON documents. -/
def isJson (t : MediaType) : Bool :=
  t.type == "application" && (t.subtype == "json" || t.suffix == some "json")

end MediaType
end Service
end EntityTrust
