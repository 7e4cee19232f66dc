/-!
# Failures of processing

A handler or a filter fails with an error of its own.  The chain marks the error with the
stage where it came up, and an error that is marked already stays as it is, so that in the end
it tells where the failure started.  A panic ends the processing of a request at once.
-/

namespace HttpDispatch

/-- Why a request has no response of its own. -/
inductive DispatchError where
  /-- A filter failed. -/
  | filter (name source : String)
  /-- The handler failed. -/
  | handler (name source : String)
  /-- A filter or the handler panicked. -/
  | panicked (message : String)
  /-- The body failed before any of it was sent. -/
  | body (source : String)
  deriving DecidableEq, Repr

namespace DispatchError

/-- The text of the error. -/
def message : DispatchError → String
  | .filter name source => s!"filter `{name}` failed: {source}"
  | .handler name source => s!"handler `{name}` failed: {source}"
  | .panicked message => "request processing panicked: " ++ message
  | .body source => "response body failed before it was sent: " ++ source

/-- The filter or handler that failed. -/
def stage? : DispatchError → Option String
  | .filter name _ | .handler name _ => some name
  | .panicked _ | .body _ => none

end DispatchError

/-- The error of a filter or handler. -/
inductive Fault where
  /-- An error of its own. -/
  | own (message : String)
  /-- An error that is marked already. -/
  | marked (error : DispatchError)
  deriving DecidableEq, Repr

namespace Fault

/-- The text of the error. -/
def message : Fault → String
  | .own message => message
  | .marked e => e.message

/-- The error marked by `mark` unless it is marked already. -/
def mark (mark : String → DispatchError) : Fault → DispatchError
  | .own message => mark message
  | .marked e => e

end Fault

/-- A panic, with its message if it has one. -/
structure Panic where
  message? : Option String
  deriving DecidableEq, Repr

/-- The text of a panic. -/
def Panic.message (p : Panic) : String := p.message?.getD "non-string panic payload"

/-- The error that a panic is for a client. -/
def Panic.toError (p : Panic) : DispatchError := .panicked p.message

end HttpDispatch
