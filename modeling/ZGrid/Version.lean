/-!
# Version — the version of the library
-/

namespace ZGrid

/-- The version of the library. -/
def version : String := "0.1.0"

end ZGrid
