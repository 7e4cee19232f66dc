import HttpDispatch.Route.Basic
import HttpDispatch.Text.Percent

/-!
# Routing in reverse

`Route.reverse` gives the target of a request that a route sends to its handler with the
given values.  A captured value stands in the path and every other one in the query; a value
that the route fixes is not taken from the given ones, and a query leaves out defaults.
-/

namespace HttpDispatch

open Text

/-- Values by the names of parameters; of several values of a name the first counts. -/
abbrev NamedValues := List (String × Value)

/-- Why no target can be given. -/
inductive ReverseError where
  /-- No route leads to the handler. -/
  | unknownHandler (handler : String)
  | bind (error : BindError)
  deriving DecidableEq, Repr

/-- The text of the error. -/
def ReverseError.message : ReverseError → String
  | .unknownHandler handler => s!"no route dispatches to handler `{handler}`"
  | .bind e => e.message

namespace Route

/-- The parameter of a name. -/
def param? (r : Route) (name : String) : Option Param := r.params.find? (·.name = name)

/-- The value of a parameter: the fixed one, the given one or the default. -/
def valueFor? (p : Param) (values : NamedValues) : Option Value :=
  let declared := p.declared.map (·.value)
  if p.source = .forced then declared else values.lookup p.name <|> declared

/-- The text of a captured parameter. -/
def capturedText (r : Route) (registry : Registry) (values : NamedValues) (name : String) :
    Except BindError String :=
  match r.param? name with
  | none => .error (.missing name)
  | some p =>
    match valueFor? p values with
    | none => .error (.missing name)
    | some v => registry.unbind p.type name v

/-- The text that stands for a token in a path. -/
def tokenText (r : Route) (registry : Registry) (values : NamedValues) :
    PathToken → Except BindError String
  | .literal text => .ok text
  | .capture name => (r.capturedText registry values name).map Percent.encode
  | .wildcard name =>
    (r.capturedText registry values name).map fun text =>
      "/".intercalate ((text.toList.splitOn '/').map fun s => Percent.encode (String.ofList s))

/-- The path with the given values. -/
def pathWith (r : Route) (registry : Registry) (values : NamedValues) :
    Except BindError String :=
  (r.pattern.mapM (r.tokenText registry values)).map fun texts =>
    if texts.isEmpty then "/" else String.join (texts.map ("/" ++ ·))

/-- The name and the text of a parameter in the query; a default is left out. -/
def queryPair? (registry : Registry) (values : NamedValues) (p : Param) :
    Except BindError (Option (String × String)) :=
  if p.source ≠ .query then .ok none
  else
    match values.lookup p.name with
    | some v => (registry.unbind p.type p.name v).map fun text => some (p.name, text)
    | none => if p.declared.isSome then .ok none else .error (.missing p.name)

/-- The names and texts in the query. -/
def queryPairs (r : Route) (registry : Registry) (values : NamedValues) :
    Except BindError (List (String × String)) :=
  (r.params.mapM (queryPair? registry values)).map fun ps => ps.filterMap id

/-- The target of a request with the given values. -/
def reverse (r : Route) (registry : Registry) (values : NamedValues) :
    Except BindError String := do
  let path ← r.pathWith registry values
  let pairs ← r.queryPairs registry values
  if pairs.isEmpty then return path
  else
    let pair (p : String × String) := Percent.encode p.1 ++ "=" ++ Percent.encode p.2
    return path ++ "?" ++ "&".intercalate (pairs.map pair)

end Route

end HttpDispatch
