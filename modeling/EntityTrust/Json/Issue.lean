import EntityTrust.Json.Basic
import EntityTrust.Decimal.Shortest
import EntityTrust.Text.Basic
import EntityTrust.Text.Quoted

/-!
# What can be wrong with a JSON text or value

**Issues.**  Faults of the text (the grammar of documents) and faults of the data (a value that is
no value of the wanted type), each with its wording.

**Places.**  A fault of a document is placed by the number of octets left there; `Fault.message`
turns this into a line and a column.  Faults found in a value that is already in memory have no
place.
-/

namespace EntityTrust
namespace Json

/-- A single fault of a document or of a value. -/
inductive Issue
  | endInValue
  | endInString
  | endInArray
  | endInObject
  | endInHexEscape
  | colonExpected
  | arraySeparatorExpected
  | objectSeparatorExpected
  | identifierExpected
  | valueExpected
  | invalidEscape
  | invalidNumber
  | numberOutOfRange
  | invalidCodePoint
  | controlCharacter
  | keyNotString
  | loneSurrogate
  | trailingComma
  | trailingCharacters
  | tooDeep
  | wrongType (found expected : String)
  | wrongValue (found expected : String)
  | wrongLength (length : Nat) (expected : String)
  | missingMember (name : String)
  | repeatedMember (name : String)
  | unknownMember (name : String) (known : List String)
  | unknownVariant (name : String) (known : List String)
  | noVariantMatches (type : String)
  | overflow (type : String)
  deriving DecidableEq

/-- Whether an issue concerns the data and not the text. -/
def Issue.isData : Issue → Bool
  | .wrongType .. | .wrongValue .. | .wrongLength .. | .missingMember _ | .repeatedMember _
  | .unknownMember .. | .unknownVariant .. | .noVariantMatches _ | .overflow _ => true
  | _ => false

/-- A list of admitted names as it is written in messages. -/
def oneOf (names : List String) : String :=
  let quoted := names.map fun n => "`" ++ n ++ "`"
  match quoted with
  | [a] => a
  | [a, b] => a ++ " or " ++ b
  | _ => "one of " ++ Text.join ", " quoted

/-- The wording of an issue. -/
def Issue.message : Issue → String
  | .endInValue => "EOF while parsing a value"
  | .endInString => "EOF while parsing a string"
  | .endInArray => "EOF while parsing a list"
  | .endInObject => "EOF while parsing an object"
  | .endInHexEscape => "unexpected end of hex escape"
  | .colonExpected => "expected `:`"
  | .arraySeparatorExpected => "expected `,` or `]`"
  | .objectSeparatorExpected => "expected `,` or `\x7d`"
  | .identifierExpected => "expected ident"
  | .valueExpected => "expected value"
  | .invalidEscape => "invalid escape"
  | .invalidNumber => "invalid number"
  | .numberOutOfRange => "number out of range"
  | .invalidCodePoint => "invalid unicode code point"
  | .controlCharacter => "control character (\\u0000-\\u001F) found while parsing a string"
  | .keyNotString => "key must be a string"
  | .loneSurrogate => "lone leading surrogate in hex escape"
  | .trailingComma => "trailing comma"
  | .trailingCharacters => "trailing characters"
  | .tooDeep => "recursion limit exceeded"
  | .wrongType found expected => "invalid type: " ++ found ++ ", expected " ++ expected
  | .wrongValue found expected => "invalid value: " ++ found ++ ", expected " ++ expected
  | .wrongLength n expected => "invalid length " ++ toString n ++ ", expected " ++ expected
  | .missingMember name => "missing field `" ++ name ++ "`"
  | .repeatedMember name => "duplicate field `" ++ name ++ "`"
  | .unknownMember name known => "unknown field `" ++ name ++ "`, expected " ++ oneOf known
  | .unknownVariant name known => "unknown variant `" ++ name ++ "`, expected " ++ oneOf known
  | .noVariantMatches type => "data did not match any variant of untagged enum " ++ type
  | .overflow type => "overflow deserializing " ++ type

/-- A value as it is named in messages. -/
def describe : Json → String
  | .null => "null"
  | .bool b => "boolean `" ++ (if b then "true" else "false") ++ "`"
  | .integer n => "integer `" ++ toString n ++ "`"
  | .float x => "floating point `" ++ Decimal.text x ++ "`"
  | .string s => "string " ++ Text.quoted s
  | .array _ => "sequence"
  | .object _ => "map"

/-- One step from a value into a part of it. -/
inductive Step
  | item (index : Nat)
  | member (name : String)
  deriving DecidableEq

/-- An issue with the octets left at its place, if it has one, and the way to the value. -/
structure Fault where
  issue : Issue
  left : Option Nat
  path : List Step

/-- A fault seen from the value around. -/
def Fault.inside (step : Step) (f : Fault) : Fault :=
  { f with path := step :: f.path }

/-- Line and column at the end of a stretch of octets. -/
def position (s : List UInt8) : Nat × Nat :=
  s.foldl (fun (p : Nat × Nat) b => if b == 10 then (p.1 + 1, 0) else (p.1, p.2 + 1)) (1, 0)

/-- The wording of a fault of the document `input`. -/
def Fault.message (input : List UInt8) (f : Fault) : String :=
  match f.left with
  | none => f.issue.message
  | some left =>
      let (line, column) := position (input.take (input.length - left))
      f.issue.message ++ " at line " ++ toString line ++ " column " ++ toString column

/-- A way into a value as it is written in messages. -/
def writtenPath : List Step → String
  | [] => ""
  | .item i :: rest => "[" ++ toString i ++ "]" ++ dotted rest
  | .member name :: rest => name ++ dotted rest
where
  dotted : List Step → String
    | [] => ""
    | .item i :: rest => "[" ++ toString i ++ "]" ++ dotted rest
    | .member name :: rest => "." ++ name ++ dotted rest

end Json
end EntityTrust
