/-!
# Cuts of a text

Trimming and splitting on single characters, stated on the list of characters of a text.

* `trimBlank` drops white space (the Unicode property White_Space) at both ends.
* `fields` cuts a text at every occurrence of a separator; `fields` of the empty text is one empty
  field.
-/

namespace EntityTrust
namespace Text

/-- The Unicode property White_Space. -/
def isBlank (c : Char) : Bool :=
  let n := c.toNat
  (9 ≤ n && n ≤ 13) || n == 0x20 || n == 0x85 || n == 0xA0 || n == 0x1680 ||
    (0x2000 ≤ n && n ≤ 0x200A) || n == 0x2028 || n == 0x2029 || n == 0x202F || n == 0x205F ||
    n == 0x3000

/-- Drops the longest end whose characters all satisfy `p`. -/
def dropEnd (p : Char → Bool) (cs : List Char) : List Char :=
  (cs.reverse.dropWhile p).reverse

/-- Drops the characters that satisfy `p` at both ends. -/
def trimBy (p : Char → Bool) (s : String) : String :=
  String.ofList (dropEnd p (s.toList.dropWhile p))

/-- A text without the white space around it. -/
def trimBlank (s : String) : String :=
  trimBy isBlank s

/-- A text without the copies of `c` at its end. -/
def dropTrailing (c : Char) (s : String) : String :=
  String.ofList (dropEnd (· == c) s.toList)

/-- The pieces of `cs` between separators; there is one more piece than separators. -/
def cut (sep : Char) : List Char → List (List Char)
  | [] => [[]]
  | c :: cs =>
      if c = sep then [] :: cut sep cs
      else
        match cut sep cs with
        | [] => [[c]]
        | p :: ps => (c :: p) :: ps

/-- The fields of a text between separators. -/
def fields (sep : Char) (s : String) : List String :=
  (cut sep s.toList).map String.ofList

/-- The parts before and after the last separator. -/
def splitLast (sep : Char) (s : String) : Option (String × String) :=
  let cs := s.toList.reverse
  match cs.dropWhile (· != sep) with
  | [] => none
  | _ :: before =>
      some (String.ofList before.reverse, String.ofList (cs.takeWhile (· != sep)).reverse)

/-- Texts written one after another with `sep` between them. -/
def join (sep : String) : List String → String
  | [] => ""
  | [s] => s
  | s :: rest => s ++ sep ++ join sep rest

end Text
end EntityTrust
