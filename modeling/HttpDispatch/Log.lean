/-!
# Records of a log

A record has a level, a message and fields.
-/

namespace HttpDispatch

/-- How important a record is. -/
inductive LogLevel where
  | debug
  | info
  | warning
  | error
  deriving DecidableEq, Repr

/-- A record of a log. -/
structure LogRecord where
  level : LogLevel
  message : String
  /-- The fields by their names. -/
  fields : List (String × String)
  deriving DecidableEq, Repr

end HttpDispatch
