import HttpDispatch.Config
import HttpDispatch.Dispatch.Handlers

/-!
# Services

A service is all that an application is made of but its routes: binders, handlers, filters,
settings, and what happens when a request fails or is completed.  With the routes of a table
it makes a route set, in which every route has its chain.
-/

namespace HttpDispatch

/-- A response that was written in full, with the request that it answers. -/
structure Completion where
  id : String
  method : Method
  path : String
  status : Status
  /-- The number of bytes of the body. -/
  bodyBytes : Nat
  deriving DecidableEq, Repr

/-- What makes the response of a request that failed. -/
abbrev Translator (σ : Type) := RequestInfo → DispatchError → Work σ Response

/-- What happens when a response was written in full. -/
abbrev Hook (σ : Type) := Completion → Work σ Unit

/-- The hook that writes every completion to the log. -/
def Hook.logging {σ : Type} : Hook σ := fun c =>
  modifyThe (World σ) fun w => w.record ⟨.info, "request completed",
    [("request_id", c.id), ("method", c.method.token), ("path", c.path),
      ("status", toString c.status.code), ("body_bytes", toString c.bodyBytes)]⟩

/-- All that an application is made of but its routes. -/
structure Service (σ μ : Type) where
  registry : Registry
  handlers : Handlers σ μ
  /-- The filters before those of every handler. -/
  before : List (Filter σ μ)
  /-- The filters after those of every handler. -/
  after : List (Filter σ μ)
  /-- Without a translator every failure has the same response. -/
  translator : Option (Translator σ)
  hook : Hook σ
  config : Config
  /-- The metadata with which the processing of a request starts. -/
  metadata : μ

/-- Why there is no route set. -/
inductive BuildError where
  /-- The table is wrong. -/
  | route (error : RouteError)
  /-- A route leads to a handler that does not exist. -/
  | unknownHandler (handler : String) (line : Nat)
  deriving DecidableEq, Repr

/-- The text of the error. -/
def BuildError.message : BuildError → String
  | .route e => e.message
  | .unknownHandler handler line =>
    s!"route table line {line}: no handler registered as `{handler}`"

/-- Routes and their chains, which stand at the same places. -/
structure RouteSet (σ μ : Type) where
  router : Router
  chains : List (Chain σ μ)

variable {σ μ : Type}

namespace Service

/-- The chain of a route. -/
def chainOf (s : Service σ μ) (route : Route) : Except BuildError (Chain σ μ) :=
  match s.handlers.get? route.handler with
  | none => .error (.unknownHandler route.handler route.line)
  | some handler =>
    .ok (.ofGroups route.handler handler s.before (s.handlers.filtersOf route.handler) s.after)

/-- The route set of given routes. -/
def assemble (s : Service σ μ) (routes : List Route) : Except BuildError (RouteSet σ μ) :=
  (routes.mapM s.chainOf).map fun chains => ⟨⟨routes, s.registry⟩, chains⟩

/-- The route set of a table. -/
def load (s : Service σ μ) (table : String) : Except BuildError (RouteSet σ μ) :=
  match RouteTable.read s.registry s.config.pathPrefix table with
  | .error e => .error (.route e)
  | .ok routes => s.assemble routes

end Service

end HttpDispatch
