/-!
# Faults of JSON texts

A text that is no JSON document is refused for the first problem met from left to right.
-/

namespace InfoFlow.Json

/-- Why a text is no JSON document. -/
inductive Fault where
  /-- Something stands where the grammar does not allow it. -/
  | malformed
  /-- The text ended where more was needed. -/
  | truncated
  deriving DecidableEq, Repr

end InfoFlow.Json
