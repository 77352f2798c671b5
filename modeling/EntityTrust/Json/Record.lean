import EntityTrust.Json.Issue

/-!
# Typed readings of values

**Scalars and lists.**  `asText`, `asSigned64`, `asNatural`, `asBool`, `asList`, `asMap` and
`optional` read a value as a Lean value or answer the issue.

**Records.**  A `Record` says for each member its name, its other names, how its value is read and
what stands in for it when it is absent.  One description serves three purposes:
* `rules` are applied to the members of an object in the order they stand there, so the first bad
  member is the one reported, before any absent one;
* `ofMembers` builds the record from an object whose members are all good;
* `ofItems` builds it from an array that lists the members in the order of the description.
-/

namespace EntityTrust
namespace Json

/-- Typed readings. -/
abbrev As (α : Type) := Json → Except Issue α

/-- A refused value. -/
def mismatch {α : Type} (expected : String) (v : Json) : Except Issue α :=
  .error (.wrongType (describe v) expected)

/-- Reads a string. -/
def asText : As String
  | .string s => .ok s
  | v => mismatch "a string" v

/-- Reads a truth value. -/
def asBool : As Bool
  | .bool b => .ok b
  | v => mismatch "a boolean" v

/-- Reads an integer within bounds; `type` names the bounds in messages. -/
def asInteger (low high : Int) (type : String) : As Int
  | .integer n =>
      if low ≤ n ∧ n ≤ high then .ok n
      else .error (.wrongValue (describe (.integer n)) type)
  | v => mismatch type v

/-- Reads a signed integer of 64 bits. -/
def asSigned64 : As Int :=
  asInteger Numeral.minSigned64 Numeral.maxSigned64 "i64"

/-- Reads a natural number up to a bound; `type` names the bound in messages. -/
def asNatural (bound : Nat) (type : String) : As Nat := fun v =>
  (asInteger 0 bound type v).map Int.toNat

/-- Reads any value as itself. -/
def asJson : As Json :=
  .ok

/-- Reads `null` as absence. -/
def optional {α : Type} (read : As α) : As (Option α)
  | .null => .ok none
  | v => (read v).map some

/-- Reads the items of a list from the left. -/
def readAll {α : Type} (read : As α) : List Json → Except Issue (List α)
  | [] => .ok []
  | v :: rest =>
      match read v with
      | .error e => .error e
      | .ok a =>
          match readAll read rest with
          | .error e => .error e
          | .ok as => .ok (a :: as)

/-- Reads an array. -/
def asList {α : Type} (read : As α) : As (List α)
  | .array items => readAll read items
  | v => mismatch "a sequence" v

/-- Reads the values of members from the left. -/
def readEach {α : Type} (read : As α) : List Member → Except Issue (List (String × α))
  | [] => .ok []
  | (k, v) :: rest =>
      match read v with
      | .error e => .error e
      | .ok a =>
          match readEach read rest with
          | .error e => .error e
          | .ok as => .ok ((k, a) :: as)

/-- Reads an object as a map. -/
def asMap {α : Type} (read : As α) : As (List (String × α))
  | .object ms => readEach read ms
  | v => mismatch "a map" v

/-- What is asked of the value of a member. -/
structure Rule where
  name : String
  aliases : List String
  check : As Unit

/-- Whether a rule is about a name. -/
def Rule.covers (r : Rule) (name : String) : Bool :=
  r.name == name || r.aliases.contains name

/-- The description of a record type. -/
structure Record (α : Type) where
  rules : List Rule
  ofMembers : List Member → Except Issue α
  ofItems : (Nat → Issue) → Nat → List Json → Except Issue (α × List Json)

namespace Record

/-- The record without members. -/
def done {α : Type} (a : α) : Record α where
  rules := []
  ofMembers _ := .ok a
  ofItems _ _ items := .ok (a, items)

/-- One record after another, the first giving a function of the second. -/
def ap {α β : Type} (f : Record (α → β)) (x : Record α) : Record β where
  rules := f.rules ++ x.rules
  ofMembers ms := do
    let g ← f.ofMembers ms
    let a ← x.ofMembers ms
    pure (g a)
  ofItems short i items := do
    let (g, rest) ← f.ofItems short i items
    let (a, rest') ← x.ofItems short (i + f.rules.length) rest
    pure (g a, rest')

instance : Applicative Record where
  pure := done
  seq f x := ap f (x ())

/-- The value of the first member that a rule covers. -/
def find? (r : Rule) : List Member → Option Json
  | [] => none
  | (k, v) :: rest => if r.covers k then some v else find? r rest

/-- A member with what stands in for it in an object without it and in a short array. -/
def member {α : Type} (name : String) (aliases : List String) (read : As α)
    (absent short : Option α) : Record α :=
  let rule : Rule := ⟨name, aliases, fun v => (read v).map fun _ => ()⟩
  { rules := [rule]
    ofMembers := fun ms =>
      match find? rule ms, absent with
      | some v, _ => read v
      | none, some a => .ok a
      | none, none => .error (.missingMember name)
    ofItems := fun tooShort i items =>
      match items, short with
      | v :: rest, _ => (read v).map fun a => (a, rest)
      | [], some a => .ok (a, [])
      | [], none => .error (tooShort i) }

/-- A member that has to be present. -/
def required {α : Type} (name : String) (read : As α) : Record α :=
  member name [] read none none

/-- A member that may be absent or `null`. -/
def nullable {α : Type} (name : String) (read : As α) : Record (Option α) :=
  member name [] (optional read) (some none) none

/-- A member that may be absent or `null`, also at the end of an array. -/
def omittable {α : Type} (name : String) (read : As α) : Record (Option α) :=
  member name [] (optional read) (some none) (some none)

/-- A member with a value for its absence. -/
def defaulted {α : Type} (name : String) (read : As α) (value : α) : Record α :=
  member name [] read (some value) (some value)

/-- All members but the named ones. -/
def others (known : List String) : Record (List Member) where
  rules := []
  ofMembers ms := .ok (ms.filter fun m => !known.contains m.1)
  ofItems _ _ items := .ok ([], items)

/-- Applies rules to the members of an object in their order. -/
def check (rules : List Rule) (seen : List String) : List Member → Except Issue Unit
  | [] => .ok ()
  | (k, v) :: rest =>
      match rules.find? (·.covers k) with
      | none => check rules seen rest
      | some r =>
          if seen.contains r.name then .error (.repeatedMember r.name)
          else
            match r.check v with
            | .error e => .error e
            | .ok () => check rules (r.name :: seen) rest

/-- Reads the members of an object that may hold no other ones. -/
def readClosed {α : Type} (r : Record α) (ms : List Member) : Except Issue α := do
  let known := ms.takeWhile fun m => r.rules.any (·.covers m.1)
  check r.rules [] known
  match ms.drop known.length with
  | (name, _) :: _ => .error (.unknownMember name (r.rules.map Rule.name))
  | [] => r.ofMembers ms

/-- Reads the members of an object. -/
def readMembers {α : Type} (r : Record α) (ms : List Member) : Except Issue α := do
  check r.rules [] ms
  r.ofMembers ms

/-- The shape of a record type as it is named when an array is too short. -/
def shape (type : String) (count : Nat) : String :=
  "struct " ++ type ++ " with " ++ toString count ++ (if count = 1 then " element" else " elements")

/-- Reads an array that lists the members. -/
def readItems {α : Type} (type : String) (r : Record α) (items : List Json) :
    Except Issue α := do
  let (a, rest) ← r.ofItems (fun i => .wrongLength i (shape type r.rules.length)) 0 items
  if rest.isEmpty then pure a else .error (.wrongLength items.length "fewer elements in array")

/-- Reads an object or an array as a record. -/
def read {α : Type} (type : String) (r : Record α) : As α
  | .object ms => r.readMembers ms
  | .array items => r.readItems type items
  | v => mismatch ("struct " ++ type) v

/-- Reads an object, and nothing else, as a record. -/
def readObject {α : Type} (type : String) (r : Record α) : As α
  | .object ms => r.readMembers ms
  | v => mismatch ("struct " ++ type) v

end Record

/-- Reads one of the named cases of a type; in a map a value that `isUnit` follows the name. -/
def asCaseWith {α : Type} (isUnit : Json → Bool) (cases : List (String × α)) : As α
  | .string s =>
      match cases.lookup s with
      | some a => .ok a
      | none => .error (.unknownVariant s (cases.map Prod.fst))
  | .object [(s, v)] =>
      match cases.lookup s with
      | none => .error (.unknownVariant s (cases.map Prod.fst))
      | some a => if isUnit v then .ok a else mismatch "unit" v
  | .object _ => .error (.wrongValue "map" "map with a single key")
  | v => mismatch "string or map" v

/-- Reads one of the named cases of a type; `null` may follow the name in a map. -/
def asCase {α : Type} (cases : List (String × α)) : As α :=
  asCaseWith (fun v => v matches .null) cases

/-- The member of a name, when there is a value for it. -/
def present (name : String) : Option Json → List Member
  | none => []
  | some v => [(name, v)]

end Json
end EntityTrust
