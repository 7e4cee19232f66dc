import HttpDispatch.Http.Request
import HttpDispatch.Route.Reverse
import HttpDispatch.Route.Table

/-!
# Finding routes

A router tries its routes in order.  A route takes a request if the method is the same, the
segments of the path fit the pattern and every parameter gets a value; the first such route
is found.  Routes that fit but whose parameters get no value are reported if none is found.
-/

namespace HttpDispatch

open Text

/-- The routes of a table with the binders of their parameters. -/
structure Router where
  routes : List Route
  registry : Registry

/-- A route that fits a request but whose parameters do not all get a value. -/
structure BindingFailure where
  /-- The place of the route among the routes of its router. -/
  index : Nat
  route : Route
  source : BindError
  deriving DecidableEq, Repr

/-- The text of the failure. -/
def BindingFailure.message (f : BindingFailure) : String :=
  s!"route {f.route.method.token} {f.route.path} -> {f.route.handler} (line {f.route.line}) " ++
    s!"did not bind: {f.source.message}"

/-- No route takes a request; `failures` are the routes that fit it, in order. -/
structure RouteNotFound where
  method : Method
  path : String
  failures : List BindingFailure
  deriving DecidableEq, Repr

/-- The text of the error. -/
def RouteNotFound.message (e : RouteNotFound) : String :=
  s!"no route for {e.method.token} {e.path}"

/-- The route that takes a request. -/
structure RouteMatch where
  /-- The place of the route among the routes of its router. -/
  index : Nat
  route : Route
  /-- The values of the parameters, in the order of their declarations. -/
  values : NamedValues
  deriving DecidableEq, Repr

namespace RouteMatch

/-- The value of a parameter. -/
def value? (m : RouteMatch) (name : String) : Option Value := m.values.lookup name

/-- The value of a parameter, if it is of the given type. -/
def valueOf? (m : RouteMatch) (type : ValueType) (name : String) : Option Value :=
  (m.value? name).filter (·.type = type)

/-- The value of the parameter at a place, if it is of the given type. -/
def argument? (m : RouteMatch) (type : ValueType) (place : Nat) : Option Value :=
  (m.values[place]?.map (·.2)).filter (·.type = type)

end RouteMatch

namespace Pattern

/-- The segments of a path: what stands between its slashes after the first one. -/
def pathSegments (path : String) : List String :=
  let rest :=
    match path.toList with
    | '/' :: cs => cs
    | cs => cs
  if rest.isEmpty then [] else (rest.splitOn '/').map String.ofList

/-- The texts that a pattern captures from segments, if the segments fit it. -/
def match? : Pattern → List String → Option (List (String × String))
  | [], [] => some []
  | .literal text :: p, s :: ss => if s = text then match? p ss else none
  | .capture name :: p, s :: ss =>
    if s.isEmpty then none
    else
      match Percent.decode s with
      | some text => (match? p ss).map ((name, text) :: ·)
      | none => none
  | .wildcard name :: _, s :: ss =>
    ((s :: ss).mapM Percent.decode).map fun texts => [(name, "/".intercalate texts)]
  | _, _ => none

end Pattern

namespace Router

/-- The text of a parameter in a request with the given captures and query. -/
def textFor (captures : List (String × String)) (query : Query) (p : Param) :
    Except BindError (Option String) :=
  match p.source with
  | .forced => .ok none
  | .path => .ok (captures.lookup p.name)
  | .query =>
    match query.single p.name with
    | .ok text => .ok text
    | .error count => .error (.ambiguous p.name count)

/-- The value of a parameter: what its text binds to, or the declared value. -/
def bindParam (registry : Registry) (captures : List (String × String)) (query : Query)
    (p : Param) : Except BindError (String × Value) := do
  match ← textFor captures query p with
  | some text => return (p.name, ← registry.bind p.type p.name text)
  | none =>
    match p.declared with
    | some d => return (p.name, d.value)
    | none => throw (.missing p.name)

/-- What a route makes of a request: nothing if it does not fit, otherwise the values of its
parameters or why one has none. -/
def attempt (registry : Registry) (method : Method) (segments : List String) (query : Query)
    (route : Route) : Option (Except BindError NamedValues) :=
  if route.method ≠ method then none
  else
    match route.pattern.match? segments with
    | none => none
    | some captures => some (route.params.mapM (bindParam registry captures query))

/-- The first of the routes, the first of which has the place `index`, that takes a request.
Routes that fit and do not bind are collected in order. -/
def search (registry : Registry) (method : Method) (segments : List String) (query : Query)
    (index : Nat) : List Route → List BindingFailure × Option RouteMatch
  | [] => ([], none)
  | route :: routes =>
    match attempt registry method segments query route with
    | some (.ok values) => ([], some ⟨index, route, values⟩)
    | some (.error e) =>
      let rest := search registry method segments query (index + 1) routes
      (⟨index, route, e⟩ :: rest.1, rest.2)
    | none => search registry method segments query (index + 1) routes

/-- The route that takes a request with the given method, path and query, and the routes
before it that fit and do not bind. -/
def candidates (r : Router) (method : Method) (path : String) (query : Query) :
    List BindingFailure × Option RouteMatch :=
  search r.registry method (Pattern.pathSegments path) query 0 r.routes

/-- The route that takes a request with the given method, path and query. -/
def find (r : Router) (method : Method) (path : String) (query : Query) :
    Except RouteNotFound RouteMatch :=
  match r.candidates method path query with
  | (_, some found) => .ok found
  | (failures, none) => .error ⟨method, path, failures⟩

/-- The route that takes a request. -/
def findRequest (r : Router) (request : Request) : Except RouteNotFound RouteMatch :=
  r.find request.method request.path request.query

/-- The target of a request that the first route to a handler takes. -/
def reverse (r : Router) (handler : String) (values : NamedValues) :
    Except ReverseError String :=
  match r.routes.find? (·.handler = handler) with
  | none => .error (.unknownHandler handler)
  | some route =>
    match route.reverse r.registry values with
    | .ok target => .ok target
    | .error e => .error (.bind e)

/-- The table that declares the routes. -/
def text (r : Router) : String := RouteTable.text r.routes

/-- The router for the routes of a table. -/
def ofTable (registry : Registry) (base table : String) : Except RouteError Router :=
  (RouteTable.read registry base table).map fun routes => ⟨routes, registry⟩

end Router

end HttpDispatch
