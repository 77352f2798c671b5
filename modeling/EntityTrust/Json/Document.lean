import EntityTrust.Json.Lexeme

/-!
# JSON documents

**Input.**  A list of octets.

**Algorithm.**  The reader of values recurses on the levels of nesting still admitted; the loops
over items and members end because each turn reads at least one octet.

**Results.**
* `Json.ofDocument`: the value of a whole document, its objects in normal form.
* `Json.readRaw`: a value whose objects keep their members as they are written.
* `Json.skipValue`: passes over a value of any depth, looking at its grammar only.
-/

namespace EntityTrust
namespace Json

/-- The first octet behind white space, if there is one. -/
inductive Ahead (s : List UInt8)
  | nothing
  | octet (b : UInt8) (rest : List UInt8) (lt : rest.length < s.length)

/-- Looks at the first octet behind white space. -/
def ahead : (s : List UInt8) → Ahead s
  | [] => .nothing
  | b :: rest =>
      if isSpace b then
        match ahead rest with
        | .nothing => .nothing
        | .octet c after lt => .octet c after (Nat.lt_succ_of_lt lt)
      else .octet b rest (Nat.lt_succ_self _)

/-- Where a list of items goes on: nowhere, or after at least `cost` octets. -/
inductive Advance (s : List UInt8) (cost : Nat)
  | stop (rest : List UInt8) (le : rest.length ≤ s.length)
  | go (rest : List UInt8) (le : rest.length + cost ≤ s.length)

/-- Moves to the next item of an array; a comma stands before every item but the first. -/
def nextItem (first : Bool) (s : List UInt8) :
    Except Fault (Advance s (if first then 0 else 1)) :=
  match ahead s with
  | .nothing => faultAt .endInArray []
  | .octet b rest lt =>
      if b == 93 then .ok (.stop (b :: rest) lt)
      else
        match first with
        | true => .ok (.go (b :: rest) lt)
        | false =>
            if b == 44 then
              match ahead rest with
              | .nothing => faultAt .endInValue []
              | .octet c after lt' =>
                  if c == 93 then faultAt .trailingComma after
                  else .ok (.go (c :: after) (by simp at lt' ⊢; omega))
            else faultAt .arraySeparatorExpected rest

/-- Moves behind the opening quote of the next key of an object. -/
def nextKey (first : Bool) (s : List UInt8) : Except Fault (Advance s 1) :=
  match ahead s with
  | .nothing => faultAt .endInObject []
  | .octet b rest lt =>
      if b == 125 then .ok (.stop (b :: rest) lt)
      else if first then
        if b == 34 then .ok (.go rest lt) else faultAt .keyNotString rest
      else if b == 44 then
        match ahead rest with
        | .nothing => faultAt .endInValue []
        | .octet c after lt' =>
            if c == 34 then .ok (.go after (by omega))
            else if c == 125 then faultAt .trailingComma after
            else faultAt .keyNotString after
      else faultAt .objectSeparatorExpected rest

/-- Reads the colon behind a key. -/
def readColon : Reader Unit := fun s =>
  match ahead s with
  | .nothing => faultAt .endInObject []
  | .octet b rest lt =>
      if b == 58 then .ok (.behind () rest lt) else faultAt .colonExpected rest

/-- Reads the end of an array; without one the fault stands with the octets left. -/
def closeArray (s : List UInt8) : Taken (Except Fault Unit) s :=
  match ahead s with
  | .nothing => ⟨faultAt .endInArray [], [], Nat.zero_le _⟩
  | .octet b rest lt =>
      if b == 93 then .behind (.ok ()) rest lt
      else if b == 44 then
        match ahead rest with
        | .nothing => ⟨faultAt .trailingCharacters [], [], Nat.zero_le _⟩
        | .octet c after lt' =>
            ⟨faultAt (if c == 93 then .trailingComma else .trailingCharacters) after, c :: after,
              Nat.le_trans lt' (Nat.le_of_lt lt)⟩
      else ⟨faultAt .trailingCharacters rest, b :: rest, lt⟩

/-- Reads the end of an object; without one the fault stands with the octets left. -/
def closeObject (s : List UInt8) : Taken (Except Fault Unit) s :=
  match ahead s with
  | .nothing => ⟨faultAt .endInObject [], [], Nat.zero_le _⟩
  | .octet b rest lt =>
      if b == 125 then .behind (.ok ()) rest lt
      else if b == 44 then ⟨faultAt .trailingComma rest, b :: rest, lt⟩
      else ⟨faultAt .trailingCharacters rest, b :: rest, lt⟩

/-- Adds a step to the way of a failing reading. -/
def inside {α : Type} (step : Step) : Except Fault α → Except Fault α
  | .ok a => .ok a
  | .error f => .error (f.inside step)

/-- The items of an array from the `index`-th on, up to its closing bracket. -/
def readItems {α : Type} (item : Reader α) (first : Bool) (index : Nat) (s : List UInt8) :
    Except Fault (Taken (List α) s) :=
  match nextItem first s with
  | .error e => .error e
  | .ok (.stop rest le) => .ok ⟨[], rest, le⟩
  | .ok (.go rest le) =>
      match inside (.item index) (item rest) with
      | .error e => .error e
      | .ok r =>
          match readItems item false (index + 1) r.rest with
          | .error e => .error e
          | .ok q =>
              .ok ⟨r.value :: q.value, q.rest, Nat.le_trans q.le (Nat.le_trans r.le (by omega))⟩
termination_by 2 * s.length + (if first then 1 else 0)
decreasing_by
  have := r.le
  cases first <;> simp at le ⊢ <;> omega

/-- Runs `step` on the members of an object; it starts behind each key. -/
def foldMembers {σ : Type} (step : σ → String → Reader σ) (acc : σ) (first : Bool)
    (s : List UInt8) : Except Fault (Taken σ s) :=
  match nextKey first s with
  | .error e => .error e
  | .ok (.stop rest le) => .ok ⟨acc, rest, le⟩
  | .ok (.go rest le) =>
      match readString rest with
      | .error e => .error e
      | .ok key =>
          match step acc key.value key.rest with
          | .error e => .error e
          | .ok r =>
              match foldMembers step r.value false r.rest with
              | .error e => .error e
              | .ok q =>
                  .ok ⟨q.value, q.rest,
                    Nat.le_trans q.le (Nat.le_trans r.le (Nat.le_trans key.le (by omega)))⟩
termination_by s.length
decreasing_by
  have := r.le
  have := key.le
  omega

/-- Reads a colon and the value of a member. -/
def readMemberValue {α : Type} (name : String) (value : Reader α) : Reader α := fun s =>
  inside (.member name) do
    let colon ← readColon s
    colon.next fun _ => value

/-- Continues behind a list of items with the bracket that closes it. -/
def closing {α : Type} {s : List UInt8} (close : (t : List UInt8) → Taken (Except Fault Unit) t)
    (r : Taken α s) : Except Fault (Taken α s) :=
  let c := close r.rest
  match c.value with
  | .ok () => .ok ⟨r.value, c.rest, Nat.le_trans c.le r.le⟩
  | .error e => .error e

section Values

variable (arrange : List Member → List Member)

/-- Reads a value with at most `depth` arrays and objects around each other. -/
def readValue : Nat → Reader Json
  | depth, s =>
      match ahead s with
      | .nothing => faultAt .endInValue []
      | .octet b rest lt =>
          let fit {α : Type} (r : Except Fault (Taken α rest)) : Except Fault (Taken α s) :=
            r.map fun t => t.later lt
          if b == 110 then fit ((readName [117, 108, 108] rest).map (·.map fun _ => .null))
          else if b == 116 then
            fit ((readName [114, 117, 101] rest).map (·.map fun _ => .bool true))
          else if b == 102 then
            fit ((readName [97, 108, 115, 101] rest).map (·.map fun _ => .bool false))
          else if b == 45 then fit (readBehindMinus rest)
          else if let some d := digit? b then fit (readBehindDigit false d rest)
          else if b == 34 then fit ((readString rest).map (·.map .string))
          else if b == 91 then
            match depth with
            | 0 => faultAt .tooDeep rest
            | d + 1 => fit do
                let items ← readItems (readValue d) true 0 rest
                closing closeArray (items.map .array)
          else if b == 123 then
            match depth with
            | 0 => faultAt .tooDeep rest
            | d + 1 => fit do
                let step (acc : List Member) (name : String) : Reader (List Member) := fun t => do
                  let v ← readMemberValue name (readValue d) t
                  pure (v.map fun x => (name, x) :: acc)
                let members ← foldMembers step [] true rest
                closing closeObject (members.map fun ms => .object (arrange ms.reverse))
          else faultAt .valueExpected rest

end Values

/-- Levels of nesting that documents may have. -/
def maxDepth : Nat := 127

/-- Reads a value whose objects are in normal form. -/
def readNormal : Nat → Reader Json :=
  readValue ofMembers

/-- Reads a value whose objects keep their members as written. -/
def readRaw : Nat → Reader Json :=
  readValue id

/-- A value read by `reader` from a whole document. -/
def wholeDocument {α : Type} (reader : Reader α) (s : List UInt8) : Except Fault α := do
  let r ← reader s
  match ahead r.rest with
  | .nothing => pure r.value
  | .octet _ rest _ => faultAt .trailingCharacters rest

/-- The value of a whole document. -/
def ofDocument (s : List UInt8) : Except Fault Json :=
  wholeDocument (readNormal maxDepth) s

section Skipping

/-- The kind of a bracket that is still open. -/
inductive Bracket
  | array
  | object
  deriving DecidableEq

/-- Closes brackets up to the next comma; `none` when all are closed. -/
def closeOpen (commaAllowed : Bool) (frame : Bracket) (outer : List Bracket) (s : List UInt8) :
    Except Fault (Taken (Option (Bracket × List Bracket)) s) :=
  match ahead s with
  | .nothing =>
      faultAt (match frame with | .array => .endInArray | .object => .endInObject) []
  | .octet b rest lt =>
      if b == 44 && commaAllowed then .ok (.behind (some (frame, outer)) rest lt)
      else if (b == 93 && frame = .array) || (b == 125 && frame = .object) then
        match outer with
        | [] => .ok (.behind none rest lt)
        | f :: fs =>
            match closeOpen true f fs rest with
            | .error e => .error e
            | .ok r => .ok (r.later lt)
      else if commaAllowed then
        faultAt
          (match frame with
            | .array => .arraySeparatorExpected
            | .object => .objectSeparatorExpected) rest
      else .ok ⟨some (frame, outer), b :: rest, lt⟩
termination_by outer.length

/-- Passes over a key with its colon. -/
def skipKey : Reader Unit := fun s =>
  match ahead s with
  | .nothing => faultAt .endInObject []
  | .octet b rest lt =>
      if b == 34 then do
        let r ← skipString rest
        let q ← r.next fun _ => readColon
        pure (q.later lt)
      else faultAt .keyNotString rest

/-- Passes over a literal name, a number or a string that starts with `b`. -/
def skipScalar (b : UInt8) : Reader Unit := fun rest =>
  if b == 110 then readName [117, 108, 108] rest
  else if b == 116 then readName [114, 117, 101] rest
  else if b == 102 then readName [97, 108, 115, 101] rest
  else if b == 45 then skipBehindMinus rest
  else if let some d := digit? b then skipBehindDigit d rest
  else if b == 34 then skipString rest
  else faultAt .valueExpected rest

/-- Passes over a value inside the open brackets `stack`. -/
def skipIn (stack : List Bracket) (s : List UInt8) : Except Fault (Taken Unit s) :=
  match ahead s with
  | .nothing => faultAt .endInValue []
  | .octet b rest lt =>
      let opened : Except Fault (Taken (Option (Bracket × List Bracket)) rest) :=
        if b == 91 then closeOpen false .array stack rest
        else if b == 123 then closeOpen false .object stack rest
        else
          match skipScalar b rest with
          | .error e => .error e
          | .ok r =>
              match stack with
              | [] => .ok ⟨none, r.rest, r.le⟩
              | f :: fs => (closeOpen true f fs r.rest).map (·.widen r.le)
      match opened with
      | .error e => .error e
      | .ok ⟨none, rest', le⟩ => .ok ⟨(), rest', Nat.le_trans le (Nat.le_of_lt lt)⟩
      | .ok ⟨some (.array, outer), rest', le⟩ =>
          match skipIn (.array :: outer) rest' with
          | .error e => .error e
          | .ok r => .ok (r.widen (Nat.le_trans le (Nat.le_of_lt lt)))
      | .ok ⟨some (.object, outer), rest', le⟩ =>
          match skipKey rest' with
          | .error e => .error e
          | .ok k =>
              match skipIn (.object :: outer) k.rest with
              | .error e => .error e
              | .ok r =>
                  .ok (r.widen (Nat.le_trans k.le (Nat.le_trans le (Nat.le_of_lt lt))))
termination_by s.length
decreasing_by
  · omega
  · have := k.le
    omega

/-- Passes over a value of any depth. -/
def skipValue : Reader Unit :=
  skipIn []

end Skipping

end Json
end EntityTrust
