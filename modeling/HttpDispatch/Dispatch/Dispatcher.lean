import HttpDispatch.Dispatch.Service
import HttpDispatch.Http.Delivery

/-!
# Dispatchers

A dispatcher is a service with the route set in use.  It gives every request an identifier,
finds its route, runs the chain of the route, and turns what goes wrong there into a response,
to which the queued headers are added.  Writing a response may fail before anything is sent;
then a second response takes its place, and if that fails too, a third, which does not.
-/

namespace HttpDispatch

/-- A service with the route set in use. -/
structure Dispatcher (σ μ : Type) where
  service : Service σ μ
  routes : RouteSet σ μ

/-- The response that says nothing about what went wrong. -/
def Response.internalError : Response := .ofText .internalServerError "Internal Server Error"

/-- The response to a request without a route. -/
def Response.notFound : Response := .ofText .notFound "Not Found"

/-- A response before it is written. -/
structure Prepared where
  info : RequestInfo
  /-- Whether the client keeps the connection open. -/
  keepAlive : Bool
  response : Response
  deriving DecidableEq, Repr

variable {σ μ : Type}

namespace Service

/-- The dispatcher with a route set, if there is one. -/
def start (s : Service σ μ) (routes : Except BuildError (RouteSet σ μ)) :
    StateM (World σ) (Except BuildError (Dispatcher σ μ)) :=
  match routes with
  | .error e => return .error e
  | .ok routes => do
    modify (·.record ⟨.info, "route table loaded",
      [("routes", toString routes.router.routes.length), ("handlers", toString s.handlers.size)]⟩)
    return .ok ⟨s, routes⟩

/-- The dispatcher for the routes of a table. -/
def build (s : Service σ μ) (table : String) :
    StateM (World σ) (Except BuildError (Dispatcher σ μ)) :=
  s.start (s.load table)

/-- The dispatcher for given routes. -/
def buildWith (s : Service σ μ) (routes : List Route) :
    StateM (World σ) (Except BuildError (Dispatcher σ μ)) :=
  s.start (s.assemble routes)

end Service

namespace Dispatcher

/-- The dispatcher with the routes of another table, and their number.  If the table is wrong,
the routes stay. -/
def reload (d : Dispatcher σ μ) (table : String) :
    StateM (World σ) (Except BuildError Nat × Dispatcher σ μ) :=
  match d.service.load table with
  | .error e => do
    modify (·.record ⟨.warning, "route table reload failed, keeping current routes",
      [("error", e.message)]⟩)
    return (.error e, d)
  | .ok routes => do
    let count := routes.router.routes.length
    modify (·.record ⟨.info, "route table reloaded", [("routes", toString count)]⟩)
    return (.ok count, { d with routes })

/-- The target of a request that the first route to a handler takes. -/
def reverse (d : Dispatcher σ μ) (handler : String) (values : NamedValues) :
    Except ReverseError String :=
  d.routes.router.reverse handler values

/-! ### From a request to a response -/

/-- The identifier of a request: the one that the client sent, or `fresh`. -/
def requestId (d : Dispatcher σ μ) (fresh : String) (request : Request) : String :=
  match request.headers.get? d.service.config.requestIdHeader with
  | some id => if id.isEmpty then fresh else id
  | none => fresh

/-- The response with the identifier of the request; the connection stays open if both the
client and the response let it. -/
def finish (d : Dispatcher σ μ) (info : RequestInfo) (keepAlive : Bool) (r : Response) :
    Response :=
  (r.setHeader d.service.config.requestIdHeader info.id).withKeepAlive
    (keepAlive && r.keepAlive)

/-- The response to a request that failed. -/
def translate (d : Dispatcher σ μ) (info : RequestInfo) (e : DispatchError) :
    StateM (World σ) Response := do
  modify (·.record ⟨.error, "dispatch failed",
    [("request_id", info.id), ("method", info.method.token), ("path", info.path),
      ("stage", e.stage?.getD "-"), ("error", e.message)]⟩)
  match d.service.translator with
  | none => return .internalError
  | some translator =>
    match ← (translator info e).run with
    | .ok response => return response
    | .error _ =>
      modify (·.record ⟨.error, "error translator panicked", [("request_id", info.id)]⟩)
      return .internalError

/-- The records that finding a route leaves. -/
def routingRecords (info : RequestInfo) (failures : List BindingFailure)
    (found : Option RouteMatch) : List LogRecord :=
  let target := [("method", info.method.token), ("path", info.path)]
  let rejection (f : BindingFailure) : LogRecord :=
    ⟨.debug, "candidate route rejected by parameter binding",
      target ++ [("route", toString f.index), ("handler", f.route.handler),
        ("error", f.source.message)]⟩
  let ending : LogRecord :=
    match found with
    | some m =>
      ⟨.debug, "route matched",
        target ++ [("route", toString m.index), ("handler", m.route.handler)]⟩
    | none =>
      ⟨.debug, "no route found", target ++ [("rejected", toString failures.length)]⟩
  failures.map rejection ++ [ending]

/-- The context in which the chain of a route is run. -/
def contextFor (d : Dispatcher σ μ) (info : RequestInfo) (request : Request)
    (found : RouteMatch) : Context μ where
  request
  info
  found
  metadata := d.service.metadata
  chunkSize := max d.service.config.chunkSize 1

/-- The response of a chain, with the headers that its filters and its handler queued. -/
def runChain (d : Dispatcher σ μ) (info : RequestInfo) (chain : Chain σ μ)
    (context : Context μ) : StateM (World σ) Response := do
  let turn := (chain.run context).run .empty (← get)
  set turn.world
  let response ←
    match turn.result with
    | .ok (.ok response) => pure response
    | .ok (.error e) => d.translate info e
    | .error p => d.translate info p.toError
  return { response with headers := response.headers ++ turn.queued }

/-- The response to a request, which has the identifier `fresh` if the client sent none. -/
def prepare (d : Dispatcher σ μ) (fresh : String) (request : Request) :
    StateM (World σ) Prepared := do
  let info := RequestInfo.ofRequest request (d.requestId fresh request)
  let (failures, found) := d.routes.router.candidates request.method request.path request.query
  modify (·.recordAll (routingRecords info failures found))
  let response ←
    match found with
    | none => do
      let e : RouteNotFound := ⟨request.method, request.path, failures⟩
      modify (·.record ⟨.debug, "responding 404",
        [("request_id", info.id), ("error", e.message),
          ("rejected", toString failures.length)]⟩)
      pure Response.notFound
    | some m =>
      match d.routes.chains[m.index]? with
      | some chain => d.runChain info chain (d.contextFor info request m)
      | none => pure Response.internalError
  return ⟨info, request.keepAlive, d.finish info request.keepAlive response⟩

/-- The response to a request, which is not written. -/
def dispatch (d : Dispatcher σ μ) (fresh : String) (request : Request) :
    StateM (World σ) Response := do
  return (← d.prepare fresh request).response

/-! ### Writing the response -/

/-- Writes a response to a sink. -/
def write (d : Dispatcher σ μ) (info : RequestInfo) (r : Response) (sink : Sink) :
    Except DeliveryError Delivered × Sink :=
  (r.write info.version d.service.config.lengthTrailer).run.run sink

/-- Writes a prepared response or, as long as nothing of it could be sent, one that takes its
place. -/
def deliver (d : Dispatcher σ μ) (p : Prepared) (sink : Sink) :
    StateM (World σ) (Except DeliveryError Delivered × Sink) := do
  match d.write p.info p.response sink with
  | (.error (.unsent reason), sink) =>
    let fallback ← d.translate p.info (.body reason)
    match d.write p.info (d.finish p.info p.keepAlive fallback) sink with
    | (.error (.unsent _), sink) =>
      return d.write p.info (d.finish p.info p.keepAlive .internalError) sink
    | result => return result
  | result => return result

/-- Runs the hook for a response that was written in full. -/
def complete (d : Dispatcher σ μ) (info : RequestInfo) (delivered : Delivered) :
    StateM (World σ) Unit := do
  let completion : Completion :=
    ⟨info.id, info.method, info.path, delivered.status, delivered.bodyBytes⟩
  match ← (d.service.hook completion).run with
  | .ok () => return ()
  | .error _ =>
    modify (·.record ⟨.error, "completion hook panicked", [("request_id", info.id)]⟩)

/-- Writes the response to a request, which has the identifier `fresh` if the client sent
none, and runs the hook if it was written in full.  A response that panics leaves no record. -/
def respond (d : Dispatcher σ μ) (fresh : String) (request : Request) (sink : Sink) :
    StateM (World σ) (Except DeliveryError Delivered × Sink) := do
  let p ← d.prepare fresh request
  let (result, sink) ← d.deliver p sink
  match result with
  | .ok delivered => d.complete p.info delivered
  | .error .oversized => pure ()
  | .error e =>
    modify (·.record ⟨.error, "response aborted",
      [("request_id", p.info.id), ("method", p.info.method.token), ("path", p.info.path),
        ("error", e.message)]⟩)
  return (result, sink)

/-- The dispatcher inside messages. -/
def debugText (d : Dispatcher σ μ) : String :=
  "Dispatcher \x7b routes: " ++ toString d.routes.router.routes.length
    ++ ", handlers: " ++ d.service.handlers.debugText
    ++ ", config: " ++ d.service.config.debugText ++ " \x7d"

end Dispatcher

end HttpDispatch
