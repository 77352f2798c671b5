import EntityTrust.Json.Document
import EntityTrust.Json.Record

/-!
# Records read straight from documents

A record read from a text, and not from a value in memory, differs in three points: a name that
comes twice is a fault, values of unknown names are only passed over, and a value of the wrong type
is found where it stands, so that it wins over faults of the text behind it.

**Places.**  A bracketed value of the wrong type is placed before its bracket, any other one behind
its end.  Faults of the record as a whole are placed behind the bracket that should close it.
-/

namespace EntityTrust
namespace Json

/-- A fault of the data with its place. -/
def dataFault {α : Type} (issue : Issue) (left : Nat) : Except Fault α :=
  .error ⟨issue, some left, []⟩

/-- Reads a value of a wrong type. -/
def readMismatch {α : Type} (expected : String) : Reader α := fun s =>
  match ahead s with
  | .nothing => faultAt .endInValue []
  | .octet b rest _ =>
      if b == 91 then dataFault (.wrongType "sequence" expected) (rest.length + 1)
      else if b == 123 then dataFault (.wrongType "map" expected) (rest.length + 1)
      else do
        let r ← readRaw 0 (b :: rest)
        dataFault (.wrongType (describe r.value) expected) r.rest.length

/-- Reads a string. -/
def readText : Reader Json := fun s =>
  match ahead s with
  | .octet 34 rest lt => do
      let r ← readString rest
      pure ((r.map .string).later lt)
  | _ => readMismatch "a string" s

/-- Reads a signed integer of 64 bits. -/
def readSigned64 : Reader Json := fun s =>
  match ahead s with
  | .octet b rest lt =>
      if b == 45 || (digit? b).isSome then do
        let r ← readRaw 0 (b :: rest)
        match asSigned64 r.value with
        | .ok _ => pure (r.widen lt)
        | .error e => dataFault e r.rest.length
      else readMismatch "i64" s
  | .nothing => readMismatch "i64" s

/-- Reads `null`, or a value by the given reader. -/
def readOptional (read : Reader Json) : Reader Json := fun s =>
  match ahead s with
  | .octet 110 rest lt => do
      let r ← readName [117, 108, 108] rest
      pure ((r.map fun _ => .null).later lt)
  | _ => read s

/-- Reads an array of values by the given reader. -/
def readList (item : Reader Json) (depth : Nat) : Reader Json := fun s =>
  match ahead s with
  | .octet 91 rest lt =>
      match depth with
      | 0 => faultAt .tooDeep rest
      | _ + 1 => do
          let items ← readItems item true 0 rest
          let r ← closing closeArray (items.map .array)
          pure (r.later lt)
  | _ => readMismatch "a sequence" s

/-- Reads the name of a case, alone or as the only key of a map to `null`. -/
def readCase (cases : List String) (depth : Nat) : Reader Json := fun s =>
  let known (name : String) (left : Nat) : Except Fault Unit :=
    if cases.contains name then .ok () else dataFault (.unknownVariant name cases) left
  match ahead s with
  | .nothing => faultAt .endInValue []
  | .octet 34 rest lt => do
      let r ← readString rest
      known r.value r.rest.length
      pure ((r.map .string).later lt)
  | .octet 123 rest lt =>
      match depth with
      | 0 => faultAt .tooDeep rest
      | _ + 1 =>
          match ahead rest with
          | .octet 34 rest' lt' => do
              let key ← readString rest'
              known key.value key.rest.length
              let colon ← readColon key.rest
              match ahead colon.rest with
              | .octet 110 _ _ => do
                  let value ← readOptional (readMismatch "unit") colon.rest
                  match ahead value.rest with
                  | .octet 125 after lt'' =>
                      pure ⟨.string key.value, after, by
                        have := value.le
                        have := colon.le
                        have := key.le
                        omega⟩
                  | .octet b after _ => faultAt .valueExpected (b :: after)
                  | .nothing => faultAt .endInObject []
              | _ => do
                  let r ← readMismatch "unit" colon.rest
                  pure ⟨r.value, r.rest, by
                    have := r.le
                    have := colon.le
                    have := key.le
                    omega⟩
          | _ => do
              let r ← readMismatch "variant identifier" rest
              pure (r.later lt)
  | .octet _ rest _ => faultAt .valueExpected rest

/-- Reads any value and applies a typed reading to it. -/
def readChecked {α : Type} (opening : UInt8) (expected : String) (check : As α) (depth : Nat) :
    Reader Json := fun s =>
  match ahead s with
  | .octet b rest lt =>
      if b == opening then do
        let r ← readRaw depth (b :: rest)
        match check r.value with
        | .ok _ => pure (r.widen lt)
        | .error e => dataFault e r.rest.length
      else readMismatch expected s
  | .nothing => readMismatch expected s

/-- The readers of the members of a record; each is given the levels of nesting left. -/
abbrev StreamedMembers := List (String × (Nat → Reader Json))

/-- Reads one member into the members so far. -/
def readMember (fields : StreamedMembers) (depth : Nat) (acc : List Member) (name : String) :
    Reader (List Member) := fun s =>
  match fields.lookup name with
  | none => do
      let r ← readMemberValue name skipValue s
      pure (r.map fun _ => acc)
  | some read =>
      if acc.any (·.1 == name) then
        dataFault (.repeatedMember name) (closeObject s).rest.length
      else do
        let r ← readMemberValue name (read depth) s
        pure (r.map fun v => (name, v) :: acc)

/-- Reads the members listed in an array, up to its end or the last of them. -/
def readListed (depth : Nat) (first : Bool) (index : Nat) :
    StreamedMembers → Reader (List Json)
  | [], s => .ok ⟨[], s, Nat.le_refl _⟩
  | (_, read) :: fields, s => do
      match ← nextItem first s with
      | .stop rest le => pure ⟨[], rest, le⟩
      | .go rest le =>
          let r ← inside (.item index) (read depth rest)
          let q ← r.next fun v t => do
            let more ← readListed depth false (index + 1) fields t
            pure (more.map (v :: ·))
          pure (q.widen (Nat.le_trans (Nat.le_add_right _ _) le))

/-- Reads a record from an object or from an array that lists its members. -/
def readStreamed {α : Type} (type : String) (fields : StreamedMembers) (record : Record α)
    (depth : Nat) : Reader α := fun s =>
  match ahead s with
  | .nothing => faultAt .endInValue []
  | .octet b rest lt =>
      if b == 123 then
        match depth with
        | 0 => faultAt .tooDeep rest
        | d + 1 => do
            let ms ← foldMembers (readMember fields d) [] true rest
            match record.readMembers ms.value.reverse with
            | .error e => dataFault e (closeObject ms.rest).rest.length
            | .ok a =>
                let r ← closing closeObject (ms.map fun _ => a)
                pure (r.later lt)
      else if b == 91 then
        match depth with
        | 0 => faultAt .tooDeep rest
        | d + 1 => do
            let items ← readListed d true 0 fields rest
            match record.readItems type items.value with
            | .error e => dataFault e (closeArray items.rest).rest.length
            | .ok a =>
                let r ← closing closeArray (items.map fun _ => a)
                pure (r.later lt)
      else readMismatch ("struct " ++ type) s

end Json
end EntityTrust
