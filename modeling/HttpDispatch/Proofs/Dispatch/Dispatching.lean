import HttpDispatch.Proofs.Dispatch.Observation
import HttpDispatch.Proofs.Dispatch.Responding
import HttpDispatch.Proofs.Route.Finding

/-!
# The response to a request

Whatever the filters, the handler and the translator do, there is a response to every request, and
one definition says which: `Dispatcher.completed`.  It adds to a response the headers queued by the
stages that ran and the identifier of the request.  The response that it is added to is the one of
the chain, or the one that stands for its failure: `Dispatcher.Answers`.
-/

namespace HttpDispatch

variable {σ μ : Type}

theorem World.recordAll_concat (w : World σ) (rs : List LogRecord) (r : LogRecord) :
  w.recordAll (rs ++ [r]) = (w.recordAll rs).record r
  := by
  rw [recordAll, recordAll, record, List.append_assoc]

/-! ### The routes of a dispatcher -/

namespace Dispatcher

/-- The dispatcher is built, and its routes may have been loaded again since then. -/
inductive Reachable : Dispatcher σ μ → Prop
  | build {s : Service σ μ} {table : String} {w : World σ} {d : Dispatcher σ μ}
      (h : ((s.build table).run w).1 = .ok d) : Reachable d
  | buildWith {s : Service σ μ} {routes : List Route} {w : World σ} {d : Dispatcher σ μ}
      (h : ((s.buildWith routes).run w).1 = .ok d) : Reachable d
  | reload {d : Dispatcher σ μ} (h : Reachable d) (table : String) (w : World σ) :
    Reachable ((d.reload table).run w).1.2

/-- At the place of every route stands the chain that the service makes for it. -/
def Served (d : Dispatcher σ μ) : Prop :=
  List.Forall₂ (fun route chain => d.service.chainOf route = .ok chain)
    d.routes.router.routes d.routes.chains

theorem served_of_assemble {s : Service σ μ} {routes : List Route} {set : RouteSet σ μ}
    (h : s.assemble routes = .ok set) :
  Served ⟨s, set⟩
  := by
  obtain ⟨chains, hchains, rfl⟩ := Fallible.map_eq_ok_iff.1 h
  apply Fallible.mapM_eq_ok_iff.1 hchains

theorem served_of_load {s : Service σ μ} {table : String} {set : RouteSet σ μ}
    (h : s.load table = .ok set) :
  Served ⟨s, set⟩
  := by
  rw [Service.load] at h
  split at h
  · cases h
  · apply served_of_assemble h

theorem start_eq_ok {s : Service σ μ} {routes : Except BuildError (RouteSet σ μ)} {w : World σ}
    {d : Dispatcher σ μ} (h : ((s.start routes).run w).1 = .ok d) :
  ∃ set, routes = .ok set ∧ d = ⟨s, set⟩
  := by
  cases routes with
  | error e => cases h
  | ok set => use set, rfl, (Except.ok.inj h).symm

theorem Reachable.served {d : Dispatcher σ μ} (h : d.Reachable) :
  d.Served
  := by
  induction h with
  | build h =>
    obtain ⟨set, hset, rfl⟩ := start_eq_ok h
    apply served_of_load hset
  | buildWith h =>
    obtain ⟨set, hset, rfl⟩ := start_eq_ok h
    apply served_of_assemble hset
  | @reload d _ table w ih =>
    rw [Dispatcher.reload]
    split
    · exact ih
    · rename_i set hset
      apply served_of_load hset

theorem Served.chain_at {d : Dispatcher σ μ} (h : d.Served) {i : ℕ} {route : Route}
    (hroute : d.routes.router.routes[i]? = some route) :
  ∃ chain, d.routes.chains[i]? = some chain ∧ d.service.chainOf route = .ok chain
  := by
  obtain ⟨hlt, rfl⟩ := List.getElem?_eq_some_iff.1 hroute
  have hlt' : i < d.routes.chains.length := h.length_eq ▸ hlt
  use d.routes.chains[i], List.getElem?_eq_getElem hlt'
  apply h.get hlt hlt'

/-- The chain of a route that is found is the one that the service makes for it. -/
theorem Served.chain_of_found {d : Dispatcher σ μ} (h : d.Served) {request : Request}
    {found : RouteMatch} (hfound : d.routes.router.findRequest request = .ok found) :
  ∃ chain, d.routes.chains[found.index]? = some chain
    ∧ d.service.chainOf found.route = .ok chain
  := h.chain_at (Router.getElem?_of_find hfound)

/-! ### The reference -/

/-- The identifier of a request: the value of its first header for identifiers, if that is there and
not empty, or else `fresh`. -/
def identifier (d : Dispatcher σ μ) (fresh : String) (request : Request) : String :=
  (((request.headers.fields.find? fun f => sameName f.1 d.service.config.requestIdHeader).map
    Prod.snd).filter (· ≠ "")).getD fresh

/-- What is known of a request. -/
def infoOf (d : Dispatcher σ μ) (fresh : String) (request : Request) : RequestInfo :=
  .ofRequest request (d.identifier fresh request)

/-- The response to a request for which the chain leads to `base` and its stages queue headers: no
header for identifiers is left but one. -/
def completed (d : Dispatcher σ μ) (fresh : String) (request : Request) (base : Response)
    (queued : Headers) : Response where
  status := base.status
  headers :=
    ⟨(base.headers.fields ++ queued.fields).filter
        (fun f => ! sameName f.1 d.service.config.requestIdHeader)
      ++ [(d.service.config.requestIdHeader, d.identifier fresh request)]⟩
  body := base.body
  keepAlive := request.keepAlive && base.keepAlive

/-- The record of a failure. -/
def failureRecord (info : RequestInfo) (e : DispatchError) : LogRecord :=
  ⟨.error, "dispatch failed",
    [("request_id", info.id), ("method", info.method.token), ("path", info.path),
      ("stage", e.stage?.getD "-"), ("error", e.message)]⟩

/-- The response that stands for a failure in a world. -/
inductive Translates (d : Dispatcher σ μ) (info : RequestInfo) (e : DispatchError) (w : World σ) :
    Response → Prop
  /-- It is the response of the translator. -/
  | translated {t : Translator σ} {r : Response} (ht : d.service.translator = some t)
      (hr : ((t info e).run.run (w.record (failureRecord info e))).1 = .ok r) :
    Translates d info e w r
  /-- There is no translator. -/
  | absent (ht : d.service.translator = none) : Translates d info e w .internalError
  /-- The translator panics. -/
  | panicked {t : Translator σ} {p : Panic} (ht : d.service.translator = some t)
      (hp : ((t info e).run.run (w.record (failureRecord info e))).1 = .error p) :
    Translates d info e w .internalError

/-- The response that a run of a chain leads to, without the headers queued in it. -/
inductive Answers (d : Dispatcher σ μ) (info : RequestInfo)
    (turn : Turn σ (Except DispatchError Response)) : Response → Prop
  /-- It is the response of the chain. -/
  | chain {r : Response} (h : turn.result = .ok (.ok r)) : Answers d info turn r
  /-- It stands for the error of the chain. -/
  | failed {e : DispatchError} {r : Response} (h : turn.result = .ok (.error e))
      (hr : d.Translates info e turn.world r) : Answers d info turn r
  /-- It stands for a panic in the chain. -/
  | panicked {p : Panic} {r : Response} (h : turn.result = .error p)
      (hr : d.Translates info (.panicked p.message) turn.world r) : Answers d info turn r

variable {d : Dispatcher σ μ}

theorem requestId_eq_identifier (fresh : String) (request : Request) :
  d.requestId fresh request = d.identifier fresh request
  := by
  rw [requestId, identifier, Headers.get?, Headers.getAll, List.head?_map, List.head?_filter]
  cases List.find? _ request.headers.fields with
  | none => rfl
  | some f =>
    by_cases hempty : f.2 = ""
    · simp [Option.filter, hempty]
    · simp [Option.filter, hempty]

theorem finish_eq_completed (fresh : String) (request : Request) (base : Response)
    (queued : Headers) :
  d.finish (d.infoOf fresh request) request.keepAlive
      { base with headers := base.headers ++ queued }
    = d.completed fresh request base queued
  := rfl

theorem finish_eq_completed_empty (fresh : String) (request : Request) (base : Response) :
  d.finish (d.infoOf fresh request) request.keepAlive base
    = d.completed fresh request base .empty
  := by
  rw [← finish_eq_completed, Headers.append_empty]

/-- A failure is translated, whatever the translator does. -/
theorem translates (d : Dispatcher σ μ) (info : RequestInfo) (e : DispatchError) (w : World σ) :
  d.Translates info e w ((d.translate info e).run w).1
  := by
  rw [translate, World.run_bind]
  generalize hrecord : (modify _ : StateM (World σ) Unit).run w = recorded
  obtain rfl : recorded = ((), w.record (failureRecord info e)) := hrecord.symm
  cases ht : d.service.translator with
  | none => apply Translates.absent ht
  | some t =>
    simp only [World.run_bind]
    generalize hrun : (t info e).run.run (w.record (failureRecord info e)) = turn
    obtain ⟨result, w'⟩ := turn
    cases result with
    | ok r => apply Translates.translated ht (congrArg Prod.fst hrun)
    | error p => apply Translates.panicked ht (congrArg Prod.fst hrun)

/-- One response stands for a failure in a world. -/
theorem Translates.unique {info : RequestInfo} {e : DispatchError} {w : World σ} {r r' : Response}
    (h : d.Translates info e w r) (h' : d.Translates info e w r') :
  r = r'
  := by
  cases h with
  | translated ht hr =>
    cases h' with
    | translated ht' hr' =>
      obtain rfl := Option.some.inj (ht.symm.trans ht')
      exact Except.ok.inj (hr.symm.trans hr')
    | absent ht' => cases ht.symm.trans ht'
    | panicked ht' hp' =>
      obtain rfl := Option.some.inj (ht.symm.trans ht')
      cases hr.symm.trans hp'
  | absent ht =>
    cases h' with
    | translated ht' _ => cases ht.symm.trans ht'
    | absent _ => rfl
    | panicked ht' _ => cases ht.symm.trans ht'
  | panicked ht hp =>
    cases h' with
    | translated ht' hr' =>
      obtain rfl := Option.some.inj (ht.symm.trans ht')
      cases hp.symm.trans hr'
    | absent ht' => cases ht.symm.trans ht'
    | panicked _ _ => rfl

/-- The response that stands for a failure is the one that it is translated to. -/
theorem Translates.fst_run_translate {info : RequestInfo} {e : DispatchError} {w : World σ}
    {r : Response} (h : d.Translates info e w r) :
  ((d.translate info e).run w).1 = r
  := (d.translates info e w).unique h

/-- A chain that is run leads to a response, to which the headers queued in the run are added. -/
theorem exists_answers (d : Dispatcher σ μ) (info : RequestInfo) (chain : Chain σ μ)
    (context : Context μ) (w : World σ) :
  ∃ r, d.Answers info ((chain.run context).run .empty w) r
    ∧ ((d.runChain info chain context).run w).1
      = { r with headers := r.headers ++ ((chain.run context).run .empty w).queued }
  := by
  rw [runChain]
  simp only [World.run_bind]
  generalize hgot : (get : StateM (World σ) (World σ)).run w = got
  obtain rfl : got = (w, w) := hgot.symm
  generalize (chain.run context).run .empty w = turn
  cases hresult : turn.result with
  | ok outcome =>
    cases outcome with
    | ok r => exact ⟨r, .chain hresult, rfl⟩
    | error e => exact ⟨_, .failed hresult (d.translates info e turn.world), rfl⟩
  | error p => exact ⟨_, .panicked hresult (d.translates info p.toError turn.world), rfl⟩

/-! ### Dispatching -/

/-- What is prepared for a request is the response to it, with what is known of the request. -/
theorem run_prepare (fresh : String) (request : Request) (w : World σ) :
  (d.prepare fresh request).run w
    = (⟨d.infoOf fresh request, request.keepAlive, ((d.dispatch fresh request).run w).1⟩,
      ((d.dispatch fresh request).run w).2)
  := by
  rw [dispatch, prepare, infoOf, ← requestId_eq_identifier]
  rcases d.routes.router.candidates request.method request.path request.query with
    ⟨failures, _ | found⟩
  · rfl
  · simp only
    cases d.routes.chains[found.index]? <;> rfl

/-- The world in which the chain of a request is run: finding the route left its records. -/
def routed (d : Dispatcher σ μ) (fresh : String) (request : Request) (w : World σ) : World σ :=
  let (failures, found) := d.routes.router.candidates request.method request.path request.query
  w.recordAll (routingRecords (d.infoOf fresh request) failures found)

/-- The record of a request without a route. -/
def missRecord (info : RequestInfo) (e : RouteNotFound) : LogRecord :=
  ⟨.debug, "responding 404",
    [("request_id", info.id), ("error", e.message), ("rejected", toString e.failures.length)]⟩

/-- A request without a route is answered without its chains. -/
theorem run_dispatch_of_missed {request : Request} {e : RouteNotFound}
    (h : d.routes.router.findRequest request = .error e) (fresh : String) (w : World σ) :
  (d.dispatch fresh request).run w
    = (d.completed fresh request .notFound .empty,
      w.recordAll (routingRecords (d.infoOf fresh request) e.failures none
        ++ [missRecord (d.infoOf fresh request) e]))
  := by
  rw [Router.findRequest, Router.find] at h
  rcases hcandidates : d.routes.router.candidates request.method request.path request.query with
    ⟨failures, _ | found⟩
  · rw [hcandidates] at h
    obtain rfl := Except.error.inj h
    rw [dispatch, prepare, hcandidates, requestId_eq_identifier, World.recordAll_concat]
    rfl
  · rw [hcandidates] at h
    cases h

/-- A request with a route is answered by its chain. -/
theorem fst_run_dispatch_of_found {request : Request} {found : RouteMatch} {chain : Chain σ μ}
    (h : d.routes.router.findRequest request = .ok found)
    (hchain : d.routes.chains[found.index]? = some chain) (fresh : String) (w : World σ) :
  ((d.dispatch fresh request).run w).1
    = d.finish (d.infoOf fresh request) request.keepAlive
      ((d.runChain (d.infoOf fresh request) chain
        (d.contextFor (d.infoOf fresh request) request found)).run (d.routed fresh request w)).1
  := by
  rw [Router.findRequest, Router.find] at h
  rcases hcandidates : d.routes.router.candidates request.method request.path request.query with
    ⟨failures, _ | found'⟩
  · rw [hcandidates] at h
    cases h
  · rw [hcandidates] at h
    obtain rfl := Except.ok.inj h
    rw [dispatch, prepare, routed, hcandidates, requestId_eq_identifier]
    simp only [hchain]
    rfl

/-- A run of the chain that is made for a route that a request takes, in the world that finding the
route leaves, and what is observed of it. -/
structure Runs (d : Dispatcher σ μ) (fresh : String) (request : Request) (found : RouteMatch)
    (w : World σ) (chain : Chain σ μ) (turn : Turn σ (Except DispatchError Response))
    (seen : List Observation) : Prop where
  made : d.service.chainOf found.route = .ok chain
  ran : (chain.run (d.contextFor (d.infoOf fresh request) request found)).run .empty
    (d.routed fresh request w) = turn
  noted : (chain.observed.run (d.contextFor (d.infoOf fresh request) request found)).run .empty
    ((d.routed fresh request w).observe []) = turn.observe seen

/-- The response to a request with a route is the one that a run of its chain leads to, with the
headers queued in the run. -/
theorem Reachable.exists_completed {d : Dispatcher σ μ} (hd : d.Reachable) (fresh : String)
    {request : Request} {found : RouteMatch}
    (hfound : d.routes.router.findRequest request = .ok found) (w : World σ) :
  ∃ chain turn seen base, d.Runs fresh request found w chain turn seen
    ∧ turn.queued = queuedIn seen
    ∧ d.Answers (d.infoOf fresh request) turn base
    ∧ ((d.dispatch fresh request).run w).1 = d.completed fresh request base (queuedIn seen)
  := by
  obtain ⟨chain, hchain, hof⟩ := hd.served.chain_of_found hfound
  obtain ⟨base, hanswers, hresponse⟩ := d.exists_answers (d.infoOf fresh request) chain
    (d.contextFor (d.infoOf fresh request) request found) (d.routed fresh request w)
  obtain ⟨seen, hseen, -, hqueued⟩ := chain.run_run_observed
    (d.contextFor (d.infoOf fresh request) request found) .empty (d.routed fresh request w)
  refine ⟨chain, _, seen, base, ⟨hof, rfl, hseen⟩, hqueued, hanswers, ?_⟩
  rw [fst_run_dispatch_of_found hfound hchain, hresponse, hqueued]
  apply finish_eq_completed

/-- A filter that queues headers, one of them under the name for identifiers. -/
def timing : Filter Unit Unit where
  name := "timing"
  start context _ := do
    Act.queue "Server-Timing" "filter"
    Act.queue "x-request-id" "filter"
    return .delegate context fun result => return Filter.passOn result

/-- A handler that queues a header and panics. -/
def outOfPaper : Handler Unit Unit := fun _ => do
  Act.queue "Server-Timing" "handler"
  Act.panic ⟨some "out of paper"⟩

/-- A request for the only route. -/
def statusRequest : Request := ⟨⟨"GET"⟩, "/status", 1, ⟨[("X-Request-Id", "r-1")]⟩, none, []⟩

end Dispatcher

end HttpDispatch
