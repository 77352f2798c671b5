/-!
# Version
-/

namespace EntityTrust

/-- The version that the service reports and that clients present themselves with. -/
def version : String := "0.1.0"

end EntityTrust
