import EntityTrust.Text.Numeral

/-!
# JSON values

The value type, equality, and the normal form in which objects hold each name once, in the order of
their names.

**Numbers.**  An integer that fits a word of 64 bits is an `integer`; every other number is a
`float`.

**Objects.**  An object is a list of members.  `Json.ofMembers` sorts by name and keeps the last
member of a name; values read as documents hold only such objects.
-/

namespace EntityTrust

/-- A JSON value. -/
inductive Json
  | null
  | bool (b : Bool)
  | integer (n : Int)
  | float (x : Float)
  | string (s : String)
  | array (items : List Json)
  | object (members : List (String × Json))
  deriving Inhabited

namespace Json

/-- A named value of an object. -/
abbrev Member := String × Json

section Equality

mutual

/-- Equality test of values. -/
def decEq : (a b : Json) → Decidable (a = b)
  | .null, .null => .isTrue rfl
  | .bool a, .bool b => decidable_of_iff (a = b) (by simp)
  | .integer a, .integer b => decidable_of_iff (a = b) (by simp)
  | .float a, .float b => decidable_of_iff (a = b) (by simp)
  | .string a, .string b => decidable_of_iff (a = b) (by simp)
  | .array a, .array b =>
      have := decEqItems a b
      decidable_of_iff (a = b) (by simp)
  | .object a, .object b =>
      have := decEqMembers a b
      decidable_of_iff (a = b) (by simp)
  | .null, .bool _ | .null, .integer _ | .null, .float _ | .null, .string _ | .null, .array _
  | .null, .object _ | .bool _, .null | .bool _, .integer _ | .bool _, .float _
  | .bool _, .string _ | .bool _, .array _ | .bool _, .object _ | .integer _, .null
  | .integer _, .bool _ | .integer _, .float _ | .integer _, .string _ | .integer _, .array _
  | .integer _, .object _ | .float _, .null | .float _, .bool _ | .float _, .integer _
  | .float _, .string _ | .float _, .array _ | .float _, .object _ | .string _, .null
  | .string _, .bool _ | .string _, .integer _ | .string _, .float _ | .string _, .array _
  | .string _, .object _ | .array _, .null | .array _, .bool _ | .array _, .integer _
  | .array _, .float _ | .array _, .string _ | .array _, .object _ | .object _, .null
  | .object _, .bool _ | .object _, .integer _ | .object _, .float _ | .object _, .string _
  | .object _, .array _ => .isFalse (by simp)

/-- Equality test of item lists. -/
def decEqItems : (a b : List Json) → Decidable (a = b)
  | [], [] => .isTrue rfl
  | [], _ :: _ => .isFalse (by simp)
  | _ :: _, [] => .isFalse (by simp)
  | x :: xs, y :: ys =>
      have := decEq x y
      have := decEqItems xs ys
      decidable_of_iff (x = y ∧ xs = ys) (by simp)

/-- Equality test of member lists. -/
def decEqMembers : (a b : List (String × Json)) → Decidable (a = b)
  | [], [] => .isTrue rfl
  | [], _ :: _ => .isFalse (by simp)
  | _ :: _, [] => .isFalse (by simp)
  | (k, x) :: xs, (l, y) :: ys =>
      have := decEq x y
      have := decEqMembers xs ys
      decidable_of_iff (k = l ∧ x = y ∧ xs = ys) (by simp [and_assoc])

end

instance : DecidableEq Json := decEq

end Equality

-- The value of a name is that of the first member with the name.
export List (lookup)

/-- Puts a member into its place by name, in the place of a member of that name. -/
def insertMember (name : String) (value : Json) : List Member → List Member
  | [] => [(name, value)]
  | (k, v) :: rest =>
      if name = k then (name, value) :: rest
      else if name < k then (name, value) :: (k, v) :: rest
      else (k, v) :: insertMember name value rest

/-- Members in the order of their names, the last of each name. -/
def ofMembers (ms : List Member) : List Member :=
  ms.foldl (fun acc m => insertMember m.1 m.2 acc) []

/-- The text of a string value. -/
def string? : Json → Option String
  | .string s => some s
  | _ => none

/-- The number of a value that is an integer within a signed word of 64 bits. -/
def signed64? : Json → Option Int
  | .integer n => if Numeral.minSigned64 ≤ n ∧ n ≤ Numeral.maxSigned64 then some n else none
  | _ => none

end Json
end EntityTrust
