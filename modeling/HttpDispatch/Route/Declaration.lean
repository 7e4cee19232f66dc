import HttpDispatch.Route.Basic

/-!
# Building routes

A declaration collects what a line of a route table or an application says about a route;
`Declaration.build` checks it and binds its values.  The path is checked first, then each
parameter in order, and last that every capture is declared.
-/

namespace HttpDispatch

/-- What a declaration says about the value of a parameter. -/
inductive ValueRule where
  /-- The request gives it. -/
  | plain
  /-- The text stands for it when the request gives none. -/
  | defaulted (text : String)
  /-- The text stands for it always. -/
  | forced (text : String)
  deriving DecidableEq, Repr

/-- The declaration of a parameter. -/
structure ParamDeclaration where
  type : String
  name : String
  rule : ValueRule
  deriving DecidableEq, Repr

/-- The declaration of a route. -/
structure Declaration where
  method : Method
  path : String
  handler : String
  params : List ParamDeclaration
  modifiers : List String
  line : Nat
  deriving DecidableEq, Repr

namespace ValueRule

/-- The text that stands for the value. -/
def text? : ValueRule → Option String
  | .plain => none
  | .defaulted text => some text
  | .forced text => some text

/-- Where the value comes from; `captured` says whether the path captures it. -/
def source (captured : Bool) : ValueRule → ParamSource
  | .forced _ => .forced
  | _ => if captured then .path else .query

end ValueRule

namespace ParamDeclaration

/-- The declared value with its text bound. -/
def declared (registry : Registry) (d : ParamDeclaration) :
    Except RouteFault (Option DeclaredValue) :=
  match d.rule.text? with
  | none => .ok none
  | some text =>
    match registry.bind d.type d.name text with
    | .ok value => .ok (some ⟨text, value⟩)
    | .error e => .error (.invalidValue d.name e)

/-- The parameter that a declaration denotes in a path with the given captures. -/
def build (registry : Registry) (captures : List String) (d : ParamDeclaration) :
    Except RouteFault Param :=
  if registry.accepts d.type then
    (d.declared registry).map fun v =>
      ⟨d.name, d.type, d.rule.source (captures.contains d.name), v⟩
  else .error (.unknownType d.type d.name)

end ParamDeclaration

namespace Declaration

/-- A declaration without parameters and modifiers, made by no line of a table. -/
def new (method : Method) (path handler : String) : Declaration :=
  ⟨method, path, handler, [], [], 0⟩

/-- The declaration with one more parameter. -/
def withParam (d : Declaration) (p : ParamDeclaration) : Declaration :=
  { d with params := d.params ++ [p] }

/-- The declaration with one more parameter that the request gives. -/
def param (d : Declaration) (type name : String) : Declaration :=
  d.withParam ⟨type, name, .plain⟩

/-- The declaration with one more parameter that has a default. -/
def defaulted (d : Declaration) (type name text : String) : Declaration :=
  d.withParam ⟨type, name, .defaulted text⟩

/-- The declaration with one more parameter that has a fixed value. -/
def forced (d : Declaration) (type name text : String) : Declaration :=
  d.withParam ⟨type, name, .forced text⟩

/-- The declaration with one more word after its parameters. -/
def modifier (d : Declaration) (word : String) : Declaration :=
  { d with modifiers := d.modifiers ++ [word] }

/-- The declaration under the path `base`, whose slashes at the end do not count; the path
`/` under it is `base` itself. -/
def under (d : Declaration) (base : String) : Declaration :=
  let base := (base.toList.reverse.dropWhile (· = '/')).reverse
  if base.isEmpty then d
  else if d.path = "/" then { d with path := String.ofList base }
  else { d with path := String.ofList base ++ d.path }

/-- The declaration as it stands on a line of a table. -/
def atLine (d : Declaration) (line : Nat) : Declaration := { d with line }

/-- The parameters of a route with the given captures; `seen` are the names so far. -/
def buildParams (registry : Registry) (captures seen : List String) :
    List ParamDeclaration → Except RouteFault (List Param)
  | [] => .ok []
  | d :: ds =>
    if seen.contains d.name then .error (.duplicateParam d.name)
    else
      match d.build registry captures with
      | .error e => .error e
      | .ok p => (buildParams registry captures (d.name :: seen) ds).map (p :: ·)

/-- The first capture that is no parameter. -/
def unbound? (d : Declaration) (captures : List String) : Option String :=
  captures.find? fun name => ! (d.params.map (·.name)).contains name

/-- The route that a declaration denotes, or the first fault in it. -/
def check (registry : Registry) (d : Declaration) : Except RouteFault Route := do
  let pattern ← Pattern.read d.path
  let params ← buildParams registry pattern.captures [] d.params
  match d.unbound? pattern.captures with
  | some name => throw (.unboundCapture name)
  | none => return ⟨d.method, d.path, pattern, d.handler, params, d.modifiers, d.line⟩

/-- The route that a declaration denotes. -/
def build (registry : Registry) (d : Declaration) : Except RouteError Route :=
  match d.check registry with
  | .ok route => .ok route
  | .error fault => .error ⟨d.line, fault⟩

end Declaration

end HttpDispatch
