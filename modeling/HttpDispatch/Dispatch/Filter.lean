import HttpDispatch.Dispatch.Act
import HttpDispatch.Dispatch.Context
import HttpDispatch.Http.Response

/-!
# Filters and handlers

A handler answers a request.  A filter stands before the handler: it answers the request
itself, or it delegates it and does with the result what it likes.  Since a filter says what
to do after the delegation and does not delegate on its own, nothing behind it happens twice.
-/

namespace HttpDispatch

/-- What a handler or a filter ends with. -/
abbrev Outcome := Except Fault Response

/-- What answers a request. -/
abbrev Handler (σ μ : Type) := Context μ → Act σ Outcome

/-- What a filter knows of what stands behind it. -/
structure Next where
  /-- The name of the next filter, or of the handler if there is none. -/
  stageName : String
  /-- The place of the next filter in the chain. -/
  index : Nat
  deriving DecidableEq, Repr

/-- The place behind a filter inside messages. -/
def Next.debugText (n : Next) : String :=
  "Next \x7b stage: " ++ Text.quoted n.stageName ++ ", index: " ++ toString n.index ++ " \x7d"

/-- What a filter does with a request. -/
inductive FilterStep (σ μ : Type) where
  /-- It answers the request itself. -/
  | answer (outcome : Outcome)
  /-- It hands the request on, and `finish` makes its own outcome of the result. -/
  | delegate (context : Context μ) (finish : Except DispatchError Response → Act σ Outcome)

/-- A filter. -/
structure Filter (σ μ : Type) where
  name : String
  start : Context μ → Next → Act σ (FilterStep σ μ)

namespace Filter

variable {σ μ : Type}

/-- The result of a delegation as an outcome of its own. -/
def passOn : Except DispatchError Response → Outcome := Except.mapError Fault.marked

/-- The filter that writes to the log how every request ended. -/
def logger : Filter σ μ where
  name := "logger"
  start context _ :=
    let line := context.request.method.token ++ " " ++ context.request.path ++ " - "
    return .delegate context fun result => do
      let ending :=
        match result with
        | .ok response => toString response.status.code
        | .error e => "failed: " ++ e.message
      Act.record ⟨.info, line ++ ending, []⟩
      return passOn result

end Filter

end HttpDispatch
