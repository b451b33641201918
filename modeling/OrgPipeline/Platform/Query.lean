import OrgPipeline.Text.Split

/-!
# Queries
-/

set_option autoImplicit false

namespace OrgPipeline.Platform

/-- A query for fields of an object. The filter follows as it is; without one
a blank is left at the end. -/
def query (object : String) (fields : List String) (filter : String) : String :=
  "SELECT " ++ Text.join "," fields ++ " FROM " ++ object ++ " " ++ filter

end OrgPipeline.Platform
