/-!
# Failures of preference stores
-/

namespace InitiatorStore

/-- Why a preference store could not read or write. -/
inductive PrefsError
  /-- A file could not be read or written, or does not hold text. -/
  | io
  /-- The document is not one that can be read. -/
  | json
  /-- The store refused the call. -/
  | backend (reason : String)
  deriving DecidableEq

/-- The message of a failure. -/
def PrefsError.message : PrefsError → String
  | .io => "I/O error:"
  | .json => "JSON error:"
  | .backend reason => "backend error: " ++ reason

end InitiatorStore
