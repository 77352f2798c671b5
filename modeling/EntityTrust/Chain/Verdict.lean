import EntityTrust.Json.Record

/-!
# Verdicts

The outcome of a check as it is reported: whether it passed, and the reason when it did not.
-/

namespace EntityTrust

/-- The reported outcome of a check. -/
structure Verdict where
  isValid : Bool
  error : Option String
  deriving DecidableEq

namespace Verdict

open Json Record

/-- The verdict of a passed check. -/
def valid : Verdict := ⟨true, none⟩

/-- The verdict of a failed check. -/
def invalid (reason : String) : Verdict := ⟨false, some reason⟩

/-- Reads a verdict; `type` names it in messages. -/
def ofJson (type : String) : As Verdict :=
  Record.read type (Verdict.mk <$> required "isValid" asBool <*> nullable "error" asText)

/-- A written verdict. -/
def toJson (v : Verdict) : Json :=
  .object [("error", v.error.elim .null .string), ("isValid", .bool v.isValid)]

end Verdict
end EntityTrust
