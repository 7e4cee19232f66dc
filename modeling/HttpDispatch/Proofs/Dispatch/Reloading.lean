import HttpDispatch.Proofs.Dispatch.Dispatching

/-!
# Loading routes again

However often the routes of a dispatcher are loaded again, a table is taken exactly if a dispatcher
can be built from it, and the routes in use are those of the last table that was taken.  At the
place of every route stands the chain that leads to its handler: `Service.Built.reloads`.
-/

namespace HttpDispatch

variable {σ μ : Type}

theorem Handlers.filtersOf_eq (h : Handlers σ μ) (name : String) :
  h.filtersOf name = (h.filters.filter (·.1 = name)).map (·.2)
  := by
  rw [filtersOf, ← List.filterMap_eq_map, List.filterMap_filter]
  apply List.filterMap_congr
  intro f _
  simp only [decide_eq_true_eq]
  rfl

namespace Service

/-- The dispatcher is built from the service, with the routes of a table or with given ones. -/
inductive Built (s : Service σ μ) : Dispatcher σ μ → Prop
  | table {table : String} {w : World σ} {d : Dispatcher σ μ}
      (h : ((s.build table).run w).1 = .ok d) : Built s d
  | routes {routes : List Route} {w : World σ} {d : Dispatcher σ μ}
      (h : ((s.buildWith routes).run w).1 = .ok d) : Built s d

/-- The routes of a new dispatcher for a table, if it can be built. -/
def freshRoutes? (s : Service σ μ) (w : World σ) (table : String) : Option (RouteSet σ μ) :=
  ((s.build table).run w).1.toOption.map Dispatcher.routes

/-- The chain leads to the handler that the route names: through the filters before those of every
handler, the filters declared for this one, and the filters after them, each group in the order of
its declaration. -/
structure Leads (s : Service σ μ) (route : Route) (chain : Chain σ μ) : Prop where
  handler : s.handlers.get? route.handler = some chain.handler
  handlerName : chain.handlerName = route.handler
  stages : chain.stages
    = s.before.map (⟨.before, ·⟩)
      ++ (s.handlers.filters.filter (·.1 = route.handler)).map (⟨.handler, ·.2⟩)
      ++ s.after.map (⟨.after, ·⟩)

variable {s : Service σ μ}

theorem leads_of_chainOf {route : Route} {chain : Chain σ μ} (h : s.chainOf route = .ok chain) :
  s.Leads route chain
  := by
  rw [chainOf] at h
  split at h
  · cases h
  · rename_i handler hhandler
    obtain rfl := Except.ok.inj h
    refine ⟨hhandler, rfl, ?_⟩
    rw [Chain.ofGroups, Handlers.filtersOf_eq, List.map_map]
    rfl

theorem build_eq_ok_iff {table : String} {w : World σ} {d : Dispatcher σ μ} :
  ((s.build table).run w).1 = .ok d ↔ ∃ set, s.load table = .ok set ∧ d = ⟨s, set⟩
  := by
  constructor
  · apply Dispatcher.start_eq_ok
  · rintro ⟨set, hset, rfl⟩
    rw [build, hset]
    rfl

theorem build_eq_error_iff {table : String} {w : World σ} {e : BuildError} :
  ((s.build table).run w).1 = .error e ↔ s.load table = .error e
  := by
  rw [build]
  cases hload : s.load table with
  | error e' =>
    constructor
    · intro h
      exact congrArg Except.error (Except.error.inj h)
    · intro h
      exact congrArg Except.error (Except.error.inj h)
  | ok set =>
    constructor
    · intro h
      cases h
    · intro h
      cases h

theorem freshRoutes?_eq (w : World σ) (table : String) :
  s.freshRoutes? w table = (s.load table).toOption
  := by
  rw [freshRoutes?, build]
  cases s.load table <;> rfl

theorem Built.service_eq {d : Dispatcher σ μ} (h : s.Built d) :
  d.service = s
  := by
  cases h with
  | table h | routes h =>
    obtain ⟨set, -, rfl⟩ := Dispatcher.start_eq_ok h
    rfl

theorem Built.reachable {d : Dispatcher σ μ} (h : s.Built d) :
  d.Reachable
  := by
  cases h with
  | table h => exact .build h
  | routes h => exact .buildWith h

end Service

namespace Dispatcher

/-- Loads the routes of one table after the other. -/
def reloadAll (d : Dispatcher σ μ) : List String → StateM (World σ) (Dispatcher σ μ)
  | [] => return d
  | table :: tables => do
    let (_, d) ← d.reload table
    d.reloadAll tables

variable {d : Dispatcher σ μ}

theorem reload_of_ok {table : String} {set : RouteSet σ μ} (h : d.service.load table = .ok set)
    (w : World σ) :
  ((d.reload table).run w).1 = (.ok set.router.routes.length, ⟨d.service, set⟩)
  := by
  rw [reload, h]
  rfl

theorem reload_of_error {table : String} {e : BuildError} (h : d.service.load table = .error e)
    (w : World σ) :
  ((d.reload table).run w).1 = (.error e, d)
  := by
  rw [reload, h]
  rfl

theorem service_reload (d : Dispatcher σ μ) (table : String) (w : World σ) :
  ((d.reload table).run w).1.2.service = d.service
  := by
  cases h : d.service.load table with
  | error e => rw [reload_of_error h]
  | ok set => rw [reload_of_ok h]

theorem routes_reload (d : Dispatcher σ μ) (table : String) (w : World σ) :
  ((d.reload table).run w).1.2.routes = (d.service.load table).toOption.getD d.routes
  := by
  cases h : d.service.load table with
  | error e =>
    rw [reload_of_error h]
    rfl
  | ok set =>
    rw [reload_of_ok h]
    rfl

/-- A history of tables leaves a dispatcher with the same service, which is in use from now on. -/
theorem reachable_reloadAll (hd : d.Reachable) (tables : List String) (w : World σ) :
  ((d.reloadAll tables).run w).1.Reachable
    ∧ ((d.reloadAll tables).run w).1.service = d.service
  := by
  induction tables generalizing d w with
  | nil => exact ⟨hd, rfl⟩
  | cons table tables ih =>
    rw [reloadAll, World.run_bind]
    obtain ⟨hreachable, hservice⟩ := ih (.reload hd table w) _
    exact ⟨hreachable, hservice.trans (d.service_reload table w)⟩

/-- The routes in use are those of the last table that could be loaded. -/
theorem routes_reloadAll (d : Dispatcher σ μ) (tables : List String) (w : World σ) :
  ((d.reloadAll tables).run w).1.routes
    = (tables.reverse.findSome? fun table => (d.service.load table).toOption).getD d.routes
  := by
  induction tables generalizing d w with
  | nil => rfl
  | cons table tables ih =>
    rw [reloadAll, World.run_bind, List.reverse_cons, List.findSome?_append,
      List.findSome?_singleton]
    have hih := ih ((d.reload table).run w).1.2 ((d.reload table).run w).2
    rw [service_reload, routes_reload] at hih
    refine hih.trans ?_
    cases tables.reverse.findSome? _ <;> rfl

theorem Served.length_chains (h : d.Served) :
  d.routes.chains.length = d.routes.router.routes.length
  := (List.Forall₂.length_eq h).symm

theorem Served.leads (h : d.Served) {i : ℕ} {route : Route}
    (hroute : d.routes.router.routes[i]? = some route) :
  ∃ chain, d.routes.chains[i]? = some chain ∧ d.service.Leads route chain
  := by
  obtain ⟨chain, hchain, hof⟩ := h.chain_at hroute
  use chain, hchain
  apply Service.leads_of_chainOf hof

end Dispatcher

namespace Service

/-- The dispatcher takes a table as the service builds a new one from it, and every route of it has
its own chain. -/
structure Maintains (s : Service σ μ) (d : Dispatcher σ μ) : Prop where
  /-- A table is taken if a new dispatcher can be built from it. -/
  taken : ∀ table w₁ w₂ fresh, ((s.build table).run w₁).1 = .ok fresh →
    ((d.reload table).run w₂).1 = (.ok fresh.routes.router.routes.length, fresh)
  /-- It is refused with the error of building one otherwise, and the routes stay. -/
  refused : ∀ table w₁ w₂ e, ((s.build table).run w₁).1 = .error e →
    ((d.reload table).run w₂).1 = (.error e, d)
  aligned : d.routes.chains.length = d.routes.router.routes.length
  leads : ∀ (i : ℕ) route, d.routes.router.routes[i]? = some route →
    ∃ chain, d.routes.chains[i]? = some chain ∧ s.Leads route chain
  found : ∀ method path query found, d.routes.router.find method path query = .ok found →
    ∃ chain, d.routes.chains[found.index]? = some chain ∧ s.Leads found.route chain

theorem maintains_of_reachable {d : Dispatcher σ μ} (h : d.Reachable) :
  d.service.Maintains d
  := by
  constructor
  case taken =>
    intro table w₁ w₂ fresh hfresh
    obtain ⟨set, hset, rfl⟩ := build_eq_ok_iff.1 hfresh
    apply Dispatcher.reload_of_ok hset
  case refused =>
    intro table w₁ w₂ e he
    apply Dispatcher.reload_of_error (build_eq_error_iff.1 he)
  case aligned => apply h.served.length_chains
  case leads =>
    intro i route hroute
    apply h.served.leads hroute
  case found =>
    intro method path query found hfound
    apply h.served.leads (Router.getElem?_of_find hfound)

/-- After any history of tables, taken or refused, the dispatcher maintains the service, and the
routes in use are those of the last table from which a new dispatcher can be built, or else those
from the beginning. -/
theorem Built.reloads {s : Service σ μ} {d : Dispatcher σ μ} (hd : s.Built d)
    (tables : List String) (w : World σ) :
  s.Maintains ((d.reloadAll tables).run w).1
    ∧ ∀ w₁, ((d.reloadAll tables).run w).1.routes
        = (tables.reverse.findSome? (s.freshRoutes? w₁)).getD d.routes
  := by
  obtain ⟨hreachable, hservice⟩ := Dispatcher.reachable_reloadAll hd.reachable tables w
  rw [hd.service_eq] at hservice
  constructor
  · have hmaintains := maintains_of_reachable hreachable
    rwa [hservice] at hmaintains
  · intro w₁
    rw [Dispatcher.routes_reloadAll, hd.service_eq, funext (freshRoutes?_eq w₁)]

/-- A service with one handler, which has a filter of its own. -/
def printing : Service Unit Unit where
  registry := .standard
  handlers := (Handlers.empty.register "Printer.status" Dispatcher.outOfPaper).addFilter
    "Printer.status" { Dispatcher.timing with name := "paper" }
  before := [Dispatcher.timing]
  after := [{ Dispatcher.timing with name := "ink" }]
  translator := none
  hook := .logging
  config := .default
  metadata := ()

/-- The tables of a day: the second has a wrong line, and the last names a handler that does not
exist. -/
def printingTables : List String :=
  ["GET /a Printer.status()", "GET /b", "GET /c Printer.status()", "GET /d Scanner.status()"]

theorem Built.reloads_printing :
  ∃ d, printing.Built d
    ∧ printing.Maintains ((d.reloadAll printingTables).run ⟨(), []⟩).1
    ∧ ((d.reloadAll printingTables).run ⟨(), []⟩).1.routes.router.routes.map Route.path = ["/c"]
    ∧ ((d.reloadAll printingTables).run ⟨(), []⟩).1.routes.chains.map (·.stages.map Stage.name)
      = [["timing", "paper", "ink"]]
  := by
  have hbuild : ((printing.buildWith []).run ⟨(), []⟩).1
      = .ok ⟨printing, ⟨⟨[], .standard⟩, []⟩⟩ := rfl
  obtain ⟨hmaintains, hroutes⟩ := Built.reloads (.routes hbuild) printingTables ⟨(), []⟩
  refine ⟨_, .routes hbuild, hmaintains, ?_, ?_⟩
  · rw [hroutes ⟨(), []⟩]
    decide +kernel
  · rw [hroutes ⟨(), []⟩]
    decide +kernel

end Service

end HttpDispatch
