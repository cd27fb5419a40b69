/-!
# Dialects
-/

namespace ModelSchema

/-- A dialect of TypeScript. -/
inductive Dialect where
  | plain
  /-- With elements in angle brackets. -/
  | jsx
deriving DecidableEq, Repr

end ModelSchema
