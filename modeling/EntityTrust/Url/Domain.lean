import EntityTrust.Text.Canonical
import EntityTrust.Url.DomainTable
import EntityTrust.Url.Percent
import EntityTrust.Url.Punycode

/-!
# Domain names

**Input.**  The octets of a host as it is written.

**Algorithm.**  Percent-encoding is resolved, the characters are mapped to those that domain names
keep and composed, and each label is checked.  A label beyond ASCII is answered in Punycode; one
that is given in Punycode has to denote a label of that kind.

**Rules for labels beyond ASCII.**  No mark stands first, joiners stand where they have an effect,
and when any label runs from right to left, every label keeps to one direction.
-/

namespace EntityTrust
namespace Domain

/-- Characters that no domain name holds. -/
def isForbidden (c : Char) : Bool :=
  c.toNat ≤ 0x20 || c.toNat == 0x7F ||
    ['%', '#', '/', ':', '<', '>', '?', '@', '[', '\\', ']', '^', '|'].contains c

/-- The fate of a character beyond ASCII, `none` for those that are kept. -/
def fate? (c : Char) : Option FateRange :=
  match Text.lastUpTo FateRange.low fates c.toNat with
  | some r => if c.toNat ≤ r.high then some r else none
  | none => none

/-- Whether a character is kept as it is. -/
def isKept (c : Char) : Bool :=
  match fate? c with
  | none => true
  | some r =>
      match r.fate with
      | .alternating => (c.toNat - r.low) % 2 == 1
      | _ => false

/-- The characters that take the place of one, or `none` when it is refused. -/
def mapChar (c : Char) : Option (List Char) :=
  match fate? c with
  | none => some [c]
  | some r =>
      match r.fate with
      | .refused => none
      | .dropped => some []
      | .shifted d => some [Char.ofNat (c.toNat + d).toNat]
      | .alternating =>
          some [if (c.toNat - r.low) % 2 = 0 then Char.ofNat (c.toNat + 1) else c]
      | .replaced codes => some (codes.map Char.ofNat)

/-- The mapped and composed characters of a name. -/
def mapName (cs : List Char) : Option (List Char) :=
  (cs.mapM mapChar).map fun parts => Text.composed parts.flatten

/-- Whether a character is ASCII. -/
def isAscii (c : Char) : Bool :=
  c.toNat < 128

section Joiners

/-- The joining type of a character. -/
def joiningType (c : Char) : Nat :=
  Text.classOf joiningTypes c.toNat

/-- Whether the first character that is not transparent has one of the given joining types. -/
def joins (types : List Nat) (cs : List Char) : Bool :=
  match cs.dropWhile fun c => joiningType c == 4 with
  | [] => false
  | c :: _ => types.contains (joiningType c)

/-- Whether all joiners have an effect; `before` holds the characters passed, reversed. -/
def joinersFit (before : List Char) : List Char → Bool
  | [] => true
  | c :: cs =>
      let afterVirama :=
        match before with
        | b :: _ => Text.combiningClass b == 9
        | [] => false
      let fits :=
        if c.toNat = 0x200C then afterVirama || (joins [1, 2] before && joins [3, 2] cs)
        else if c.toNat = 0x200D then afterVirama
        else true
      fits && joinersFit (c :: before) cs

end Joiners

section Direction

/-- The direction class of a character; zero is left to right. -/
def direction (c : Char) : Nat :=
  Text.classOf directions c.toNat

/-- Whether a label has a character that runs from right to left. -/
def runsRightToLeft (label : List Char) : Bool :=
  label.any fun c => [1, 2, 3].contains (direction c)

/-- Whether the last character that is no mark has one of the given classes. -/
def endsIn (classes : List Nat) (label : List Char) : Bool :=
  match label.reverse.dropWhile fun c => direction c == 10 with
  | [] => false
  | c :: _ => classes.contains (direction c)

/-- Whether a label keeps to one direction. -/
def keepsDirection (label : List Char) : Bool :=
  match label with
  | [] => true
  | c :: _ =>
      let all (classes : List Nat) := label.all fun d => classes.contains (direction d)
      let has (k : Nat) := label.any fun d => direction d == k
      if direction c = 1 ∨ direction c = 2 then
        all [1, 2, 3, 4, 5, 6, 7, 8, 9, 10] && endsIn [1, 2, 3, 4] label && !(has 3 && has 4)
      else if direction c = 0 then
        all [0, 4, 5, 6, 7, 8, 9, 10] && endsIn [0, 4] label
      else false

end Direction

/-- Whether a label beyond ASCII is admissible by itself. -/
def isValidLabel (label : List Char) : Bool :=
  match label with
  | [] => true
  | c :: _ =>
      !Text.inRanges marks c.toNat && label.all isKept && Text.composed label == label &&
        joinersFit [] label

/-- A label as it is read by people, from its mapped form. -/
def readLabel (label : List Char) : Option (List Char) :=
  if label.take 4 = ['x', 'n', '-', '-'] then
    match Punycode.decode (label.drop 4) with
    | some decoded =>
        if label.all isAscii && !decoded.all isAscii && isValidLabel decoded &&
            Punycode.encode decoded == label.drop 4 then some decoded
        else none
    | none => none
  else if label.all isAscii || isValidLabel label then some label
  else none

/-- A label in ASCII. -/
def writeLabel (label : List Char) : List Char :=
  if label.all isAscii then label else ['x', 'n', '-', '-'] ++ Punycode.encode label

/-- A name in ASCII, or `none` when it is no domain name. -/
def toAscii (name : List Char) : Option (List Char) := do
  let mapped ← mapName name
  let labels ← (Text.cut '.' mapped).mapM readLabel
  if labels.any fun l => l.any fun c => isAscii c && isForbidden c then none
  else if labels.any runsRightToLeft && !labels.all keepsDirection then none
  else pure (['.'].intercalate (labels.map writeLabel))

/-- The domain name that the octets of a host denote. -/
def ofOctets (host : List UInt8) : Option (List Char) :=
  toAscii (Utf8.decodeLossy (Percent.decode host)).toList

end Domain
end EntityTrust
