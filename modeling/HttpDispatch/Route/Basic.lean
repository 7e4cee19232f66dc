import HttpDispatch.Http.Method
import HttpDispatch.Route.Pattern

/-!
# Routes

A route sends the requests with its method and a path of its pattern to a handler.  Its
parameters are declared in the order of the handler's arguments; each one is captured from
the path, read from the query, or fixed.  `Route.text` writes a route as it is declared in a
route table.
-/

namespace HttpDispatch

/-- Where the value of a parameter comes from. -/
inductive ParamSource where
  /-- Captured from the path. -/
  | path
  /-- Read from the query. -/
  | query
  /-- Fixed by the route. -/
  | forced
  deriving DecidableEq, Repr

/-- A value written in a declaration: its text, and what the text binds to. -/
structure DeclaredValue where
  raw : String
  value : Value
  deriving DecidableEq, Repr

/-- A parameter of a route. -/
structure Param where
  name : String
  /-- The type name under which the binder is registered. -/
  type : String
  source : ParamSource
  /-- The default value, or the fixed one. -/
  declared : Option DeclaredValue
  deriving DecidableEq, Repr

/-- A route. -/
structure Route where
  method : Method
  path : String
  pattern : Pattern
  handler : String
  params : List Param
  modifiers : List String
  /-- The line of the table that declares the route. -/
  line : Nat
  deriving DecidableEq, Repr

namespace Param

/-- Whether two parameters are declared alike; a declared value counts by its text. -/
def same (a b : Param) : Bool :=
  a.name == b.name && a.type == b.type && a.source == b.source
    && a.declared.map (·.raw) == b.declared.map (·.raw)

/-- The text with a backslash before each quote. -/
def escapeQuotes (cs : List Char) : List Char :=
  cs.flatMap fun c => if c = '\'' then ['\\', '\''] else [c]

/-- The text of a declared value between quotes. -/
def quotedValue (raw : String) : String :=
  "'" ++ String.ofList (escapeQuotes raw.toList) ++ "'"

/-- The parameter as it is declared. -/
def text (p : Param) : String :=
  let operator := if p.source = .forced then " = " else " ?= "
  p.type ++ " " ++ p.name ++
    match p.declared with
    | none => ""
    | some d => operator ++ quotedValue d.raw

end Param

namespace Route

/-- Whether two lists are equally long and related element by element. -/
def sameAll {α : Type} (same : α → α → Bool) : List α → List α → Bool
  | [], [] => true
  | a :: as, b :: bs => same a b && sameAll same as bs
  | _, _ => false

/-- Whether two routes are the same but for the lines that declare them. -/
def same (a b : Route) : Bool :=
  a.method == b.method && a.path == b.path && a.pattern == b.pattern
    && a.handler == b.handler && sameAll Param.same a.params b.params
    && a.modifiers == b.modifiers

/-- Whether a word stands after the parameters of the route. -/
def hasModifier (r : Route) (modifier : String) : Bool := r.modifiers.contains modifier

/-- The route as it is declared in a table. -/
def text (r : Route) : String :=
  r.method.token ++ " " ++ r.path ++ " " ++ r.handler ++ "("
    ++ ", ".intercalate (r.params.map Param.text) ++ ")"
    ++ String.join (r.modifiers.map (" " ++ ·))

end Route

end HttpDispatch
