/-!
# The version

## Main definitions

* `version` — the version of this library and its programs.
-/

namespace Registrar

/-- The version of this library and its programs. -/
def version : String := "0.1.0"

end Registrar
