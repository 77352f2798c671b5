import EntityTrust.Json.Issue
import EntityTrust.Text.Utf8
import EntityTrust.Decimal.Scaled

/-!
# Lexemes of JSON documents

Blanks, literal names, numbers and strings, read from a list of octets.

**Readers.**  A reader answers a value together with the octets left, which are never more than it
was given.  This bound is what the loops over arrays and objects end by.

**Places of faults.**  A fault of the octet just read is placed behind that octet; a fault of the
octet looked at is placed behind it too, or at the end when there is none.
-/

namespace EntityTrust
namespace Json

/-- A value read from `s` and the octets left. -/
structure Taken (α : Type) (s : List UInt8) where
  value : α
  rest : List UInt8
  le : rest.length ≤ s.length

/-- Readers of a value at the start of a list of octets. -/
abbrev Reader (α : Type) := (s : List UInt8) → Except Fault (Taken α s)

/-- The same value read from a longer list of octets. -/
def Taken.widen {α : Type} {s t : List UInt8} (r : Taken α t) (h : t.length ≤ s.length) :
    Taken α s :=
  ⟨r.value, r.rest, Nat.le_trans r.le h⟩

/-- The same octets left behind another value. -/
def Taken.map {α β : Type} {s : List UInt8} (f : α → β) (r : Taken α s) : Taken β s :=
  ⟨f r.value, r.rest, r.le⟩

/-- The same value read from a list that is longer by at least one octet. -/
def Taken.later {α : Type} {s t : List UInt8} (r : Taken α t) (h : t.length < s.length) :
    Taken α s :=
  r.widen (Nat.le_of_lt h)

/-- A value with a shorter list of octets behind it. -/
def Taken.behind {α : Type} {s : List UInt8} (value : α) (rest : List UInt8)
    (h : rest.length < s.length) : Taken α s :=
  ⟨value, rest, Nat.le_of_lt h⟩

/-- Continues a reading with the octets left. -/
def Taken.next {α β : Type} {s : List UInt8} (r : Taken α s) (f : α → Reader β) :
    Except Fault (Taken β s) := do
  let q ← f r.value r.rest
  pure (q.widen r.le)

/-- A fault behind the octets read so far. -/
def faultAt {α : Type} (issue : Issue) (rest : List UInt8) : Except Fault α :=
  .error ⟨issue, some rest.length, []⟩

/-- A fault behind the octet that comes next. -/
def faultPast {α : Type} (issue : Issue) (rest : List UInt8) : Except Fault α :=
  .error ⟨issue, some (rest.length - 1), []⟩

/-- White space between lexemes. -/
def isSpace (b : UInt8) : Bool :=
  b == 32 || b == 10 || b == 9 || b == 13

/-- Reads the octets of a literal name. -/
def readName : List UInt8 → Reader Unit
  | [], s => .ok ⟨(), s, Nat.le_refl _⟩
  | _ :: _, [] => faultAt .endInValue []
  | e :: es, b :: rest =>
      if b = e then do
        let r ← readName es rest
        pure (r.widen (Nat.le_succ _))
      else faultAt .identifierExpected rest

section Numbers

/-- The value of a digit octet. -/
def digit? (b : UInt8) : Option Nat :=
  if 48 ≤ b && b ≤ 57 then some (b.toNat - 48) else none

/-- Whether the next octet is a digit. -/
def startsWithDigit : List UInt8 → Bool
  | [] => false
  | b :: _ => (digit? b).isSome

/-- Digits taken into a significand of 64 bits while they fit; answers their number too. -/
def takeDigits (significand count : Nat) : (s : List UInt8) → Taken (Nat × Nat) s
  | [] => ⟨(significand, count), [], Nat.le_refl _⟩
  | b :: rest =>
      match digit? b with
      | some d =>
          if significand * 10 + d ≤ Numeral.maxWord64 then
            (takeDigits (significand * 10 + d) (count + 1) rest).widen (Nat.le_succ _)
          else ⟨(significand, count), b :: rest, Nat.le_refl _⟩
      | none => ⟨(significand, count), b :: rest, Nat.le_refl _⟩

/-- Counts and drops digits. -/
def skipDigits (count : Nat) : (s : List UInt8) → Taken Nat s
  | [] => ⟨count, [], Nat.le_refl _⟩
  | b :: rest =>
      if (digit? b).isSome then (skipDigits (count + 1) rest).widen (Nat.le_succ _)
      else ⟨count, b :: rest, Nat.le_refl _⟩

/-- Digits of an exponent after the value `acc`; `none` when it exceeds 32 bits. -/
def takeExponent (acc : Nat) : (s : List UInt8) → Taken (Option Nat) s
  | [] => ⟨some acc, [], Nat.le_refl _⟩
  | b :: rest =>
      match digit? b with
      | some d =>
          if acc * 10 + d ≤ 0x7FFFFFFF then
            (takeExponent (acc * 10 + d) rest).widen (Nat.le_succ _)
          else ⟨none, rest, Nat.le_succ _⟩
      | none => ⟨some acc, b :: rest, Nat.le_refl _⟩

/-- A float with the sign of the lexeme. -/
def signed (negative : Bool) (x : Float) : Json :=
  .float (if negative then -x else x)

/-- The float of a significand and an exponent. -/
def scaledFloat (negative : Bool) (significand : Nat) (exponent : Int) : Reader Json := fun s =>
  match Decimal.ofParts (UInt64.ofNat significand) exponent with
  | some x => .ok ⟨signed negative x, s, Nat.le_refl _⟩
  | none => faultAt .numberOutOfRange s

/-- The sign of an exponent, if one is written; `true` for minus. -/
def takeSign : (s : List UInt8) → Taken Bool s
  | 43 :: rest => ⟨false, rest, Nat.le_succ _⟩
  | 45 :: rest => ⟨true, rest, Nat.le_succ _⟩
  | s => ⟨false, s, Nat.le_refl _⟩

/-- Reads an exponent behind its letter and finishes the number. -/
def readExponent (negative : Bool) (significand : Nat) (exponent : Int) : Reader Json := fun s =>
  (takeSign s).next fun down t =>
    match t with
    | [] => faultAt .endInValue []
    | b :: rest =>
        match digit? b with
        | none => faultAt .invalidNumber rest
        | some d =>
            let digits : Taken (Option Nat) (b :: rest) :=
              (takeExponent d rest).widen (Nat.le_succ _)
            digits.next fun power u =>
              match power with
              | some e =>
                  scaledFloat negative significand (if down then exponent - e else exponent + e) u
              | none =>
                  if significand ≠ 0 ∧ down = false then faultAt .numberOutOfRange u
                  else .ok ((skipDigits 0 u).map fun _ => signed negative 0.0)

/-- Finishes a number whose fraction has been read. -/
def readAfterFraction (negative : Bool) (significand : Nat) (exponent : Int) : Reader Json
  | [] => scaledFloat negative significand exponent []
  | b :: rest =>
      if b == 101 || b == 69 then do
        let r ← readExponent negative significand exponent rest
        pure (r.widen (Nat.le_succ _))
      else scaledFloat negative significand exponent (b :: rest)

/-- Reads a fraction behind its point and finishes the number. -/
def readFraction (negative : Bool) (significand : Nat) (exponent : Int) : Reader Json := fun s =>
  (takeDigits significand 0 s).next fun (m, count) t =>
    if startsWithDigit t then
      (skipDigits 0 t).next fun _ => readAfterFraction negative m (exponent - count)
    else if count = 0 then
      match t with
      | [] => faultPast .endInValue []
      | b :: rest => faultPast .invalidNumber (b :: rest)
    else readAfterFraction negative m (exponent - count) t

/-- Finishes a number whose integer part exceeds 64 bits. -/
def readLong (negative : Bool) (significand : Nat) : Reader Json := fun s =>
  (skipDigits 0 s).next fun count t =>
    match t with
    | 46 :: rest => do
        let r ← readFraction negative significand count rest
        pure (r.widen (Nat.le_succ _))
    | t => readAfterFraction negative significand count t

/-- An integer lexeme; minus zero and integers below 64 bits are floats. -/
def integerValue (negative : Bool) (significand : Nat) : Json :=
  if negative then
    if significand = 0 ∨ significand > 0x8000000000000000 then
      signed true (UInt64.ofNat significand).toFloat
    else .integer (-(significand : Int))
  else .integer significand

/-- Finishes a number whose integer part has been read. -/
def readAfterInteger (negative : Bool) (significand : Nat) : Reader Json
  | [] => .ok ⟨integerValue negative significand, [], Nat.le_refl _⟩
  | b :: rest =>
      if b == 46 then do
        let r ← readFraction negative significand 0 rest
        pure (r.widen (Nat.le_succ _))
      else if b == 101 || b == 69 then do
        let r ← readExponent negative significand 0 rest
        pure (r.widen (Nat.le_succ _))
      else .ok ⟨integerValue negative significand, b :: rest, Nat.le_refl _⟩

/-- Reads a number behind its first digit. -/
def readBehindDigit (negative : Bool) (first : Nat) : Reader Json := fun s =>
  if first = 0 then
    if startsWithDigit s then faultPast .invalidNumber s else readAfterInteger negative 0 s
  else
    (takeDigits first 0 s).next fun (m, _) t =>
      if startsWithDigit t then readLong negative m t else readAfterInteger negative m t

/-- Reads a number behind its sign. -/
def readBehindMinus : Reader Json
  | [] => faultAt .endInValue []
  | b :: rest =>
      match digit? b with
      | none => faultAt .invalidNumber rest
      | some d => do
          let r ← readBehindDigit true d rest
          pure (r.widen (Nat.le_succ _))

end Numbers

section Strings

/-- The value of a hexadecimal digit octet. -/
def hexDigit? (b : UInt8) : Option Nat :=
  if 48 ≤ b && b ≤ 57 then some (b.toNat - 48)
  else if 65 ≤ b && b ≤ 70 then some (b.toNat - 55)
  else if 97 ≤ b && b ≤ 102 then some (b.toNat - 87)
  else none

/-- Reads the four digits of a hexadecimal escape. -/
def readHex : Reader Nat
  | a :: b :: c :: d :: rest =>
      match hexDigit? a, hexDigit? b, hexDigit? c, hexDigit? d with
      | some p, some q, some r, some t =>
          .ok ⟨((p * 16 + q) * 16 + r) * 16 + t, rest, by simp only [List.length_cons]; omega⟩
      | _, _, _, _ => faultAt .invalidEscape rest
  | _ => faultAt .endInString []

/-- Reads one given octet within a pair of escapes. -/
def readWithinPair (wanted : UInt8) : Reader Unit
  | [] => faultAt .endInString []
  | b :: rest =>
      if b = wanted then .ok ⟨(), rest, Nat.le_succ _⟩ else faultAt .endInHexEscape rest

/-- Reads a code point given by one escape or by a pair of them, behind `\u`. -/
def readCodePoint : Reader Char := fun s => do
  let hi ← readHex s
  if 0xDC00 ≤ hi.value ∧ hi.value ≤ 0xDFFF then faultAt .loneSurrogate hi.rest
  else if hi.value < 0xD800 ∨ 0xDBFF < hi.value then pure (hi.map Char.ofNat)
  else
    hi.next fun n t => do
      let slash ← readWithinPair 92 t
      let letter ← slash.next fun _ => readWithinPair 117
      let lo ← letter.next fun _ => readHex
      if lo.value < 0xDC00 ∨ 0xDFFF < lo.value then faultAt .loneSurrogate lo.rest
      else pure (lo.map fun m => Char.ofNat ((n - 0xD800) * 1024 + (m - 0xDC00) + 0x10000))

/-- The character of a short escape. -/
def shortEscape? (b : UInt8) : Option Char :=
  if b == 34 then some '"'
  else if b == 92 then some '\\'
  else if b == 47 then some '/'
  else if b == 98 then some '\x08'
  else if b == 102 then some '\x0c'
  else if b == 110 then some '\n'
  else if b == 114 then some '\r'
  else if b == 116 then some '\t'
  else none

/-- Reads an escape behind its backslash. -/
def readEscape : Reader Char
  | [] => faultAt .endInString []
  | b :: rest =>
      match shortEscape? b with
      | some c => .ok ⟨c, rest, Nat.le_succ _⟩
      | none =>
          if b == 117 then do
            let r ← readCodePoint rest
            pure (r.widen (Nat.le_succ _))
          else faultAt .invalidEscape rest

/-- Octets of a string behind its opening quote, and where the first ill-formed one stands. -/
def readOctets (s : List UInt8) : Except Fault (Taken (List Char × Option Nat) s) :=
  match s with
  | [] => faultAt .endInString []
  | b :: rest =>
      if b = 34 then .ok ⟨([], none), rest, Nat.le_succ _⟩
      else if b = 92 then
        match readEscape rest with
        | .error e => .error e
        | .ok r =>
            match readOctets r.rest with
            | .error e => .error e
            | .ok q =>
                .ok ⟨(r.value :: q.value.1, q.value.2), q.rest,
                  Nat.le_trans q.le (Nat.le_succ_of_le r.le)⟩
      else if b < 32 then faultAt .controlCharacter rest
      else
        have hlen := Utf8.split_length b rest
        match readOctets (Utf8.split b rest).2 with
        | .error e => .error e
        | .ok q =>
            let bad := if (Utf8.split b rest).1.isNone then some rest.length else q.value.2
            .ok ⟨((Utf8.split b rest).1.getD '\uFFFD' :: q.value.1, bad), q.rest,
              Nat.le_trans q.le (Nat.le_succ_of_le hlen)⟩
termination_by s.length
decreasing_by
  · exact Nat.lt_succ_of_le r.le
  · exact Nat.lt_succ_of_le hlen

/-- Reads a string behind its opening quote. -/
def readString : Reader String := fun s => do
  let r ← readOctets s
  match r.value.2 with
  | some left => .error ⟨.invalidCodePoint, some left, []⟩
  | none => pure (r.map fun v => String.ofList v.1)

/-- Skips an escape behind its backslash; code points are not looked at. -/
def skipEscape : Reader Unit
  | [] => faultAt .endInString []
  | b :: rest =>
      if (shortEscape? b).isSome then .ok ⟨(), rest, Nat.le_succ _⟩
      else if b == 117 then do
        let r ← readHex rest
        pure ((r.map fun _ => ()).widen (Nat.le_succ _))
      else faultAt .invalidEscape rest

/-- Skips a string behind its opening quote; its octets may be ill-formed. -/
def skipString (s : List UInt8) : Except Fault (Taken Unit s) :=
  match s with
  | [] => faultAt .endInString []
  | b :: rest =>
      if b = 34 then .ok ⟨(), rest, Nat.le_succ _⟩
      else if b = 92 then
        match skipEscape rest with
        | .error e => .error e
        | .ok r =>
            match skipString r.rest with
            | .error e => .error e
            | .ok q => .ok (q.widen (Nat.le_succ_of_le r.le))
      else if b < 32 then faultAt .controlCharacter (b :: rest)
      else
        match skipString rest with
        | .error e => .error e
        | .ok q => .ok (q.widen (Nat.le_succ _))
termination_by s.length
decreasing_by
  · exact Nat.lt_succ_of_le r.le
  · exact Nat.lt_succ_self _

end Strings

/-- Skips digits. -/
def skipAllDigits : (s : List UInt8) → Taken Unit s := fun s =>
  (skipDigits 0 s).map fun _ => ()

/-- Skips an exponent behind its letter. -/
def skipExponent : Reader Unit := fun s =>
  (takeSign s).next fun _ t =>
    match t with
    | [] => faultAt .invalidNumber []
    | b :: rest =>
        if (digit? b).isSome then .ok ((skipAllDigits rest).widen (Nat.le_succ _))
        else faultAt .invalidNumber rest

/-- Skips the fraction and the exponent of a number. -/
def skipFraction : Reader Unit
  | [] => .ok ⟨(), [], Nat.le_refl _⟩
  | b :: rest =>
      if b == 46 then
        if startsWithDigit rest then
          ((skipAllDigits rest).widen (Nat.le_succ _)).next fun _ t =>
            match t with
            | [] => .ok ⟨(), [], Nat.le_refl _⟩
            | c :: after =>
                if c == 101 || c == 69 then do
                  let r ← skipExponent after
                  pure (r.widen (Nat.le_succ _))
                else .ok ⟨(), c :: after, Nat.le_refl _⟩
        else faultPast .invalidNumber rest
      else if b == 101 || b == 69 then do
        let r ← skipExponent rest
        pure (r.widen (Nat.le_succ _))
      else .ok ⟨(), b :: rest, Nat.le_refl _⟩

/-- Skips a number behind its first digit; its value may be out of range. -/
def skipBehindDigit (first : Nat) : Reader Unit := fun s =>
  if first = 0 then
    if startsWithDigit s then faultPast .invalidNumber s else skipFraction s
  else (skipAllDigits s).next fun _ => skipFraction

/-- Skips a number behind its sign. -/
def skipBehindMinus : Reader Unit
  | [] => faultAt .invalidNumber []
  | b :: rest =>
      match digit? b with
      | none => faultAt .invalidNumber rest
      | some d => do
          let r ← skipBehindDigit d rest
          pure (r.widen (Nat.le_succ _))

end Json
end EntityTrust
