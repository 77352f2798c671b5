import EntityTrust.Url.Basic
import EntityTrust.Url.Domain

/-!
# Reading of absolute URLs

**Input.**  A text; white space and controls at its ends, and tabs and line ends anywhere, do not
count.

**Algorithm.**  The scheme is split off first, then fragment and query, since no earlier part can
hold `#` or `?`.  What remains is an authority with a path, a path, or an opaque path, by the scheme
and the slashes.

**Special schemes.**  For `http`, `https`, `ws`, `wss`, `ftp` and `file` a backslash counts as a
slash, the host is a domain name or an address, and the path is never empty.
-/

namespace EntityTrust

/-- Why a text is no absolute URL. -/
inductive UrlError
  | emptyHost
  | invalidDomain
  | invalidPort
  | invalidVersion4
  | invalidVersion6
  | invalidHostCharacter
  | relative
  deriving DecidableEq

/-- The wording of a refusal. -/
def UrlError.message : UrlError → String
  | .emptyHost => "empty host"
  | .invalidDomain => "invalid international domain name"
  | .invalidPort => "invalid port number"
  | .invalidVersion4 => "invalid IPv4 address"
  | .invalidVersion6 => "invalid IPv6 address"
  | .invalidHostCharacter => "invalid domain character"
  | .relative => "relative URL without a base"

namespace Url

/-- How a scheme treats the rest of a URL. -/
inductive SchemeKind
  | special (defaultPort : Nat)
  | file
  | other
  deriving DecidableEq

/-- The kind of a scheme. -/
def schemeKind (scheme : List Char) : SchemeKind :=
  match String.ofList scheme with
  | "http" | "ws" => .special 80
  | "https" | "wss" => .special 443
  | "ftp" => .special 21
  | "file" => .file
  | _ => .other

/-- Whether a scheme is one of those with rules of their own. -/
def SchemeKind.isSpecial : SchemeKind → Bool
  | .other => false
  | _ => true

/-- Whether a character ends a segment. -/
def SchemeKind.isSlash (k : SchemeKind) (c : Char) : Bool :=
  c == '/' || (c == '\\' && k.isSpecial)

/-- The characters of a text that count. -/
def significant (s : String) : List Char :=
  let isEnd (c : Char) : Bool := c.toNat ≤ 0x20
  (Text.dropEnd isEnd (s.toList.dropWhile isEnd)).filter fun c =>
    c != '\t' && c != '\n' && c != '\r'

/-- Whether a character may stand in a scheme behind its first one. -/
def isSchemeChar (c : Char) : Bool :=
  c.isAlphanum || c == '+' || c == '-' || c == '.'

/-- The scheme in lower case and what stands behind its colon. -/
def splitScheme (cs : List Char) : Option (List Char × List Char) :=
  match cs with
  | [] => none
  | c :: _ =>
      if c.isAlpha then
        match cs.dropWhile isSchemeChar with
        | ':' :: rest => some ((cs.takeWhile isSchemeChar).map Char.toLower, rest)
        | _ => none
      else none

/-- What stands before the first `mark` and, if there is one, behind it. -/
def splitAt (mark : Char) (cs : List Char) : List Char × Option (List Char) :=
  match cs.dropWhile (· != mark) with
  | [] => (cs, none)
  | _ :: rest => (cs.takeWhile (· != mark), some rest)

section Hosts

/-- The address between brackets. -/
def bracketed? (cs : List Char) : Option (Except UrlError Host) :=
  match cs with
  | '[' :: rest =>
      some (match rest.reverse with
        | ']' :: inner =>
            match Address.parse6 inner.reverse with
            | some pieces => .ok (.version6 pieces)
            | none => .error .invalidVersion6
        | _ => .error .invalidVersion6)
  | _ => none

/-- The host of a special scheme. -/
def parseSpecialHost (cs : List Char) : Except UrlError Host :=
  match bracketed? cs with
  | some host => host
  | none =>
      match Domain.ofOctets (Utf8.encode (String.ofList cs)) with
      | none => .error .invalidDomain
      | some [] => .error .emptyHost
      | some name =>
          if Address.endsInNumber name then
            match Address.parse4 name with
            | some n => .ok (.version4 n)
            | none => .error .invalidVersion4
          else .ok (.name name)

/-- Whether a character is refused in the host of other schemes. -/
def isRefusedHostChar (c : Char) : Bool :=
  ['\x00', '\t', '\n', '\r', ' ', '#', '/', ':', '<', '>', '?', '@', '[', '\\', ']', '^',
    '|'].contains c

/-- The host of a scheme that is not special. -/
def parseOtherHost (cs : List Char) : Except UrlError Host :=
  match bracketed? cs with
  | some host => host
  | none =>
      if cs.any isRefusedHostChar then .error .invalidHostCharacter
      else .ok (.name (Percent.encode Percent.controls cs))

/-- The host and, if there is a colon outside brackets, what stands behind it. -/
def splitHost (inside : Bool) : List Char → List Char × Option (List Char)
  | [] => ([], none)
  | c :: cs =>
      if c = ':' ∧ inside = false then ([], some cs)
      else
        let r := splitHost (c == '[' || (inside && c != ']')) cs
        (c :: r.1, r.2)

/-- The number of a port; an empty one is none. -/
def parsePort (cs : List Char) : Except UrlError (Option Nat) :=
  match cs with
  | [] => .ok none
  | _ =>
      match cs.foldl (fun acc c => do
          let n ← acc
          let d ← Address.digit? 10 c
          (some (n * 10 + d)).filter (· < 65536)) (some 0) with
      | some n => .ok (some n)
      | none => .error .invalidPort

/-- The user name and the password before the last at sign, both encoded, and the rest. -/
def splitUser (cs : List Char) : Option (List Char × List Char) × List Char :=
  let reversed := cs.reverse
  match reversed.dropWhile (· != '@') with
  | [] => (none, cs)
  | _ :: info =>
      let info := info.reverse
      let encode := Percent.encode Percent.userInfo
      let (user, password) := splitAt ':' info
      (some (encode user, encode (password.getD [])), (reversed.takeWhile (· != '@')).reverse)

end Hosts

section Paths

/-- Whether a segment stands for its own place. -/
def isSingleDot (segment : List Char) : Bool :=
  ["." , "%2e"].contains (String.ofList (segment.map Char.toLower))

/-- Whether a segment stands for the place above. -/
def isDoubleDot (segment : List Char) : Bool :=
  ["..", "%2e%2e", "%2e.", ".%2e"].contains (String.ofList (segment.map Char.toLower))

/-- Whether a segment is a letter with a colon or a bar and nothing else: `C:abc` is no drive. -/
def isDriveLetter : List Char → Bool
  | [c, ':'] | [c, '|'] => c.isAlpha
  | _ => false

/-- Segments, the last one first, without the last of them; there is no way out of a drive. -/
def popSegment : List (List Char) → List (List Char)
  | [] => []
  | d :: above => if isDriveLetter d then d :: above else above

/-- Segments so far with one more; a drive that comes first in a file is written with a colon. -/
def pushSegment (k : SchemeKind) (segment : List Char) (above : List (List Char)) :
    List (List Char) :=
  if k = .file ∧ above = [] ∧ isDriveLetter segment then [segment.take 1 ++ [':']]
  else segment :: above

/-- Segments with those followed that are dots, the last one first. -/
def followDots (k : SchemeKind) (above : List (List Char)) : List (List Char) → List (List Char)
  | [] => [] :: above
  | [last] =>
      if isDoubleDot last then [] :: popSegment above
      else if isSingleDot last then [] :: above
      else pushSegment k last above
  | segment :: more =>
      if isDoubleDot segment then followDots k (popSegment above) more
      else if isSingleDot segment then followDots k above more
      else followDots k (pushSegment k segment above) more

/-- The pieces between slashes. -/
def segments (k : SchemeKind) (cs : List Char) : List (List Char) :=
  Text.cut '/' (cs.map fun c => if k.isSlash c then '/' else c)

/-- The encoded segments of a path that starts behind its first slash, the last one first. -/
def pathSegments (k : SchemeKind) (cs : List Char) : List (List Char) :=
  followDots k [] ((segments k cs).map (Percent.encode Percent.path))

/-- A path from its segments, the last one first; a file does not start with empty ones. -/
def joinSegments (k : SchemeKind) : List (List Char) → List Char
  | [] => ['/']
  | last :: above =>
      let parts := above.reverse
      let parts := if k = .file then parts.dropWhile (·.isEmpty) else parts
      '/' :: (parts.flatMap (· ++ ['/']) ++ last)

/-- The normal form of a path that starts behind its first slash. -/
def normalPath (k : SchemeKind) (cs : List Char) : List Char :=
  joinSegments k (pathSegments k cs)

/-- Whether a drive comes first in the path of a file, which then has no host. -/
def startsInDrive (cs : List Char) : Bool :=
  (pathSegments .file (cs.drop 1)).getLast?.any isDriveLetter

/-- The normal form of the path behind an authority. -/
def authorityPath (k : SchemeKind) (cs : List Char) : List Char :=
  match cs with
  | [] => if k.isSpecial then normalPath k [] else []
  | c :: rest => if k.isSlash c then normalPath k rest else normalPath k cs

end Paths

/-- The authority and the path behind a double slash; `followed` says whether a query or a fragment
stands behind them. -/
def parseAuthority (k : SchemeKind) (followed : Bool) (cs : List Char) :
    Except UrlError (Authority × List Char) := do
  let body := cs.takeWhile (!k.isSlash ·)
  let path := cs.dropWhile (!k.isSlash ·)
  let (info, hostPort) := splitUser body
  let (user, password) := info.getD ([], [])
  let named := !user.isEmpty || !password.isEmpty
  -- an at sign alone stands for no host only where the text ends with it
  if body == ['@'] && (followed || !path.isEmpty) then throw .emptyHost
  let (hostText, portText) := splitHost false hostPort
  if k.isSpecial && hostText.isEmpty then throw .emptyHost
  let host ← if k.isSpecial then parseSpecialHost hostText else parseOtherHost hostText
  if host.isEmpty && portText.isSome then throw .emptyHost
  let digits := (portText.getD []).takeWhile (· != '\\')
  let beyond := (portText.getD []).dropWhile (· != '\\')
  let port ← parsePort digits
  let port :=
    match k, port with
    | .special d, some p => if p = d then none else some p
    | _, p => p
  if host.isEmpty && named then throw .emptyHost
  pure (⟨user, password, host, port⟩, authorityPath k (beyond ++ path))

/-- The authority and the path of a file. -/
def parseFile (cs : List Char) : Except UrlError (Authority × List Char) := do
  let k := SchemeKind.file
  let bare (host : Host) : Authority := ⟨[], [], host, none⟩
  match cs with
  | a :: b :: rest =>
      if k.isSlash a && k.isSlash b then
        let hostText := rest.takeWhile (!k.isSlash ·)
        let path := rest.dropWhile (!k.isSlash ·)
        if isDriveLetter hostText then pure (bare (.name []), authorityPath k rest)
        else if hostText.isEmpty then pure (bare (.name []), authorityPath k path)
        else
          let host ← parseSpecialHost hostText
          let isLocal := host == .name "localhost".toList || startsInDrive path
          pure (bare (if isLocal then .name [] else host), authorityPath k path)
      else pure (bare (.name []), authorityPath k cs)
  | _ => pure (bare (.name []), authorityPath k cs)

/-- Reads an absolute URL. -/
def parse (s : String) : Except UrlError Url := do
  let some (scheme, rest) := splitScheme (significant s) | throw .relative
  let k := schemeKind scheme
  let (body, fragmentText) := splitAt '#' rest
  let (main, queryText) := splitAt '?' body
  let query := queryText.map
    (Percent.encode (if k.isSpecial then Percent.specialQuery else Percent.query))
  let fragment := fragmentText.map (Percent.encode Percent.fragment)
  let followed := queryText.isSome || fragmentText.isSome
  match k with
  | .file =>
      let (authority, path) ← parseFile main
      pure ⟨scheme, some authority, path, query, fragment⟩
  | .special _ =>
      let (authority, path) ← parseAuthority k followed (main.dropWhile k.isSlash)
      pure ⟨scheme, some authority, path, query, fragment⟩
  | .other =>
      match main with
      | '/' :: '/' :: more =>
          let (authority, path) ← parseAuthority k followed more
          pure ⟨scheme, some authority, path, query, fragment⟩
      | '/' :: more => pure ⟨scheme, none, normalPath k more, query, fragment⟩
      | _ => pure ⟨scheme, none, Percent.encode Percent.controls main, query, fragment⟩

end Url
end EntityTrust
