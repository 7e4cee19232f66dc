import HttpDispatch.Proofs.Dispatch.Dispatching
import HttpDispatch.Proofs.Dispatch.Replacement

/-!
# Queued headers

The headers that the stages of a chain queue are added to its response, or to the one that stands
for its failure, and are sent with it, but for those of a name that the dispatcher or the framing of
the body sets.  They are lost with a response whose body fails before any data: nothing is added to
the response that takes its place.
-/

namespace HttpDispatch

/-! ### Headers of other names -/

namespace Headers

/-- The headers without the values of some names. -/
def without (h : Headers) (names : List String) : Headers :=
  ⟨h.fields.filter fun f => ! names.any (sameName f.1)⟩

variable {names : List String} {name : String}

theorem without_append (h k : Headers) :
  (h ++ k).without names = h.without names ++ k.without names
  := congrArg Headers.mk (List.filter_append ..)

theorem without_remove (h : Headers) (hname : name ∈ names) :
  (h.remove name).without names = h.without names
  := by
  rw [without, without, remove, List.filter_filter]
  congr 1
  apply List.filter_congr
  intro f _
  cases hsame : sameName f.1 name with
  | false => simp
  | true =>
    have hany : names.any (sameName f.1) = true := List.any_eq_true.2 ⟨name, hname, hsame⟩
    rw [hany]
    rfl

theorem without_set (h : Headers) (value : String) (hname : name ∈ names) :
  (h.set name value).without names = h.without names
  := by
  have hnone : without ⟨[(name, value)]⟩ names = .empty := by
    have hany : names.any (sameName name) = true :=
      List.any_eq_true.2 ⟨name, hname, beq_self_eq_true _⟩
    simp [without, hany, empty]
  change ((h.remove name) ++ (⟨[(name, value)]⟩ : Headers)).without names = _
  rw [without_append, hnone, append_empty, without_remove h hname]

end Headers

/-! ### Headers that are set to send a response -/

namespace Response

/-- The names of the headers that say how the body is delimited. -/
def framingNames (r : Response) (framing : Framing) : List String :=
  if r.status.forbidsBody then ["content-length", "transfer-encoding", "trailer"]
  else
    match framing with
    | .length _ => ["Content-Length"]
    | .chunked _ => ["content-length", "Transfer-Encoding", "Trailer"]
    | .close => ["content-length"]

/-- The type that is sent for a body that has none. -/
def addedType (r : Response) (framing : Framing) : Headers :=
  if ! r.status.forbidsBody && framing != .length 0 && ! r.headers.contains "content-type" then
    ⟨[("Content-Type", defaultContentType)]⟩
  else .empty

variable {r : Response} {framing : Framing} {names : List String}

theorem typedHeaders_eq :
  r.typedHeaders framing = r.headers ++ r.addedType framing
  := by
  rw [typedHeaders, addedType]
  split
  · rfl
  · rw [Headers.append_empty]

/-- Saying how the body is delimited leaves the headers of other names as they are. -/
theorem framedHeaders_without (h : Headers) (hnames : r.framingNames framing ⊆ names) :
  (r.framedHeaders framing h).without names = h.without names
  := by
  rw [framingNames.eq_def] at hnames
  rw [framedHeaders.eq_def]
  split
  · rename_i hforbids
    rw [if_pos hforbids] at hnames
    rw [Headers.without_remove _ (hnames (by simp)), Headers.without_remove _ (hnames (by simp)),
      Headers.without_remove _ (hnames (by simp))]
  · rename_i hforbids
    rw [if_neg hforbids] at hnames
    cases framing with
    | length n => rw [Headers.without_set _ _ (hnames (by simp))]
    | chunked trailer =>
      rw [Headers.without_set _ _ (hnames (by simp)), Headers.without_set _ _ (hnames (by simp)),
        Headers.without_remove _ (hnames (by simp))]
    | close => rw [Headers.without_remove _ (hnames (by simp))]

theorem sentHeaders_without (hconnection : "Connection" ∈ names)
    (hnames : r.framingNames framing ⊆ names) :
  (r.sentHeaders framing).without names = (r.headers ++ r.addedType framing).without names
  := by
  rw [sentHeaders, framedHeaders_without _ hnames, Headers.without_set _ _ hconnection,
    typedHeaders_eq]

theorem FailsEarly.unique {reason reason' : String} (h : r.FailsEarly reason)
    (h' : r.FailsEarly reason') :
  reason = reason'
  := by
  obtain ⟨source, hbody, hfails⟩ := h
  obtain ⟨source', hbody', hfails'⟩ := h'
  obtain rfl : source = source' := Body.stream.inj (hbody.symm.trans hbody')
  have hfirst := failsFirst?_eq_some_iff.2 hfails
  rw [failsFirst?_eq_some_iff.2 hfails'] at hfirst
  exact (SourceError.failed.inj (Option.some.inj hfirst)).symm

end Response

namespace Dispatcher

variable {σ μ : Type} {d : Dispatcher σ μ}

/-- The names of the headers that are set whatever headers the response has. -/
def ownNames (d : Dispatcher σ μ) (r : Response) (framing : Framing) : List String :=
  d.service.config.requestIdHeader :: "Connection" :: r.framingNames framing

/-- A response is sent with its headers and the queued ones, but for those of the names that are
set anyway. -/
theorem sentHeaders_completed (fresh : String) (request : Request) (base : Response)
    (queued : Headers) (framing : Framing) {r : Response}
    (h : r = d.completed fresh request base queued) :
  (r.sentHeaders framing).without (d.ownNames r framing)
    = (base.headers ++ queued ++ r.addedType framing).without (d.ownNames r framing)
  := by
  have hid : r.headers = (base.headers ++ queued).set d.service.config.requestIdHeader
      (d.identifier fresh request) := by
    rw [h]
    rfl
  have hnames : r.framingNames framing ⊆ d.ownNames r framing := by
    intro name hname
    exact .tail _ (.tail _ hname)
  have hconnection : "Connection" ∈ d.ownNames r framing := .tail _ (.head _)
  have hidentifier : d.service.config.requestIdHeader ∈ d.ownNames r framing := .head _
  rw [Response.sentHeaders_without hconnection hnames, Headers.without_append, hid,
    Headers.without_set _ _ hidentifier, ← Headers.without_append]

/-! ### The response that is written -/

/-- A response that takes the place of another is sent without the queued headers. -/
theorem Sends.exists_completed {fresh : String} {request : Request} {base r : Response}
    {queued : Headers} {world : World σ}
    (h : d.Sends fresh request (d.completed fresh request base queued) world r) :
  ∃ sent queued', r = d.completed fresh request sent queued'
    ∧ ((∀ reason, ¬ base.FailsEarly reason) → sent = base ∧ queued' = queued)
    ∧ ∀ reason, base.FailsEarly reason →
      queued' = .empty ∧ ∃ other,
        d.Translates (d.infoOf fresh request) (.body reason) world other
          ∧ (sent = other ∨ sent = .internalError ∧ ∃ reason', other.FailsEarly reason')
  := by
  cases h with
  | prepared sound =>
    use base, queued, rfl, fun _ => ⟨rfl, rfl⟩
    intro reason hfails
    exact absurd hfails (sound reason)
  | @translated reason other fails translates _ =>
    use other, .empty, rfl, fun hsound => absurd fails (hsound reason)
    intro reason' hfails
    obtain rfl := hfails.unique fails
    exact ⟨rfl, other, translates, .inl rfl⟩
  | @generic reason reason' other fails translates failsAgain =>
    use .internalError, .empty, rfl, fun hsound => absurd fails (hsound reason)
    intro reason'' hfails
    obtain rfl := hfails.unique fails
    exact ⟨rfl, other, translates, .inr ⟨rfl, reason', failsAgain⟩⟩

/-- For a request with a route one response is written, whatever the sink; its head is sent, unless
its body panics early.  It is the one that the chain leads to, with the headers queued in the chain,
unless the body of that one fails before any data.  Then it is one that stands for the failure, and
no queued headers are added to it.  What is added is sent, but for headers of the names that are set
anyway. -/
theorem respond_queued {d : Dispatcher σ μ} (hd : d.Reachable) (fresh : String)
    {request : Request} {found : RouteMatch}
    (hfound : d.routes.router.findRequest request = .ok found) (world : World σ) :
  ∃ chain turn seen base sent queued r framing,
    d.Runs fresh request found world chain turn seen
      ∧ turn.queued = queuedIn seen
      ∧ d.Answers (d.infoOf fresh request) turn base
      ∧ r = d.completed fresh request sent queued
      ∧ (∀ sink,
        ((d.respond fresh request sink).run world).1 = d.write (d.infoOf fresh request) r sink)
      ∧ framing = d.framingOf (d.infoOf fresh request) r
      ∧ (r.PanicsEarly ∧ (d.write (d.infoOf fresh request) r .unlimited).2.written = []
        ∨ r.head framing <+: (d.write (d.infoOf fresh request) r .unlimited).2.written)
      ∧ (r.sentHeaders framing).without (d.ownNames r framing)
        = (sent.headers ++ queued ++ r.addedType framing).without (d.ownNames r framing)
      ∧ ((∀ reason, ¬ base.FailsEarly reason) → sent = base ∧ queued = queuedIn seen)
      ∧ ∀ reason, base.FailsEarly reason →
        queued = .empty ∧ ∃ other,
          d.Translates (d.infoOf fresh request) (.body reason)
              ((d.dispatch fresh request).run world).2 other
            ∧ (sent = other ∨ sent = .internalError ∧ ∃ reason', other.FailsEarly reason')
  := by
  obtain ⟨chain, turn, seen, base, hruns, hqueued, hanswers, hbase⟩ :=
    hd.exists_completed fresh hfound world
  rcases hdispatch : (d.dispatch fresh request).run world with ⟨_, world'⟩
  rw [hdispatch] at hbase
  obtain rfl : _ = d.completed fresh request base (queuedIn seen) := hbase
  obtain ⟨r, hsends⟩ := d.exists_sends fresh request _ world'
  obtain ⟨sent, queued, hr, hsound, hfails⟩ := hsends.exists_completed
  refine ⟨chain, turn, seen, base, sent, queued, r, _, hruns, hqueued, hanswers, hr,
    hsends.fst_run_respond hdispatch, rfl, ?_, ?_, hsound, hfails⟩
  · apply (write_of_not_failsEarly (d.infoOf fresh request) hsends.not_failsEarly .unlimited).2.2
  · apply sentHeaders_completed fresh request sent queued _ hr

/-- The response of a chain is the one that it leads to. -/
theorem Answers.eq_of_ok {info : RequestInfo} {turn : Turn σ (Except DispatchError Response)}
    {r r' : Response} (h : d.Answers info turn r) (hok : turn.result = .ok (.ok r')) :
  r = r'
  := by
  cases h with
  | chain h => exact Except.ok.inj (Except.ok.inj (h.symm.trans hok))
  | failed h _ => cases h.symm.trans hok
  | panicked h _ => cases h.symm.trans hok

/-- A filter that queues a header. -/
def tracing : Filter Unit Unit where
  name := "tracing"
  start context _ := do
    Act.queue "X-Trace" "on"
    return .delegate context fun result => return Filter.passOn result

/-- A handler that answers with a body. -/
def answering (body : Body) : Handler Unit Unit := fun _ =>
  return .ok ((Response.new .ok).withBody body)

/-- A dispatcher whose only handler answers with a body. -/
def traced (body : Body) : Dispatcher Unit Unit where
  service := {
    registry := .standard
    handlers := Handlers.empty.register "Printer.status" (answering body)
    before := [tracing]
    after := []
    translator := none
    hook := .logging
    config := .default
    metadata := () }
  routes := {
    router := ⟨[⟨⟨"GET"⟩, "/status", [.literal "status"], "Printer.status", [], [], 1⟩], .standard⟩
    chains := [.ofGroups "Printer.status" (answering body) [tracing] [] []] }

theorem reachable_traced (body : Body) :
  (traced body).Reachable
  := by
  have hbuild : (((traced body).service.buildWith (traced body).routes.router.routes).run
      ⟨(), []⟩).1 = .ok (traced body) := rfl
  exact .buildWith hbuild

/-- The only route with what the request gives for it. -/
def statusMatch : RouteMatch :=
  ⟨0, ⟨⟨"GET"⟩, "/status", [.literal "status"], "Printer.status", [], [], 1⟩, []⟩

/-- The only route is found, whatever the handler answers. -/
theorem findRequest_traced (body : Body) :
  (traced body).routes.router.findRequest statusRequest = .ok statusMatch
  := by
  have hfound : (traced .empty).routes.router.findRequest statusRequest = .ok statusMatch := by
    decide +kernel
  exact hfound

/-- The header is queued, whatever the handler answers. -/
theorem Runs.turn_of_traced {body : Body} {world : World Unit} {chain : Chain Unit Unit}
    {turn : Turn Unit (Except DispatchError Response)} {seen : List Observation}
    (h : (traced body).Runs "r-2" statusRequest statusMatch world chain turn seen) :
  turn = ⟨.ok (.ok ((Response.new .ok).withBody body)), ⟨[("X-Trace", "on")]⟩,
    (traced body).routed "r-2" statusRequest world⟩
  := by
  obtain rfl : Chain.ofGroups "Printer.status" (answering body) [tracing] [] [] = chain :=
    Except.ok.inj h.made
  rw [← h.ran, Chain.run_eq_foldr]
  rfl

/-- A dispatcher whose only handler answers with a text. -/
def ready : Dispatcher Unit Unit := traced (.ofText "ready")

theorem respond_queued_ready :
  ready.Reachable ∧ ready.routes.router.findRequest statusRequest = .ok statusMatch
    ∧ ∀ world, ∃ seen base r, queuedIn seen = ⟨[("X-Trace", "on")]⟩
      ∧ r = ready.completed "r-2" statusRequest base (queuedIn seen)
      ∧ (∀ sink, ((ready.respond "r-2" statusRequest sink).run world).1
        = ready.write (ready.infoOf "r-2" statusRequest) r sink)
      ∧ ("X-Trace", "on")
        ∈ (r.sentHeaders (ready.framingOf (ready.infoOf "r-2" statusRequest) r)).fields
  := by
  refine ⟨reachable_traced _, findRequest_traced _, ?_⟩
  intro world
  obtain ⟨chain, turn, seen, base, sent, queued, r, framing, hruns, hqueued, hanswers, hr, hwrite,
    rfl, -, hsent, hsound, -⟩ :=
    respond_queued (reachable_traced (.ofText "ready")) "r-2" (findRequest_traced _) world
  obtain rfl := hruns.turn_of_traced
  obtain rfl := hanswers.eq_of_ok rfl
  have hfull : ((Response.new .ok).withBody (.ofText "ready")).body
      = .full (Text.utf8 "ready") := rfl
  obtain ⟨rfl, rfl⟩ := hsound (Response.not_failsEarly_of_full hfull)
  use seen, (Response.new .ok).withBody (.ofText "ready"), r, hqueued.symm, hr, hwrite
  have hclosed : r = ready.completed "r-2" statusRequest
      ((Response.new .ok).withBody (.ofText "ready")) ⟨[("X-Trace", "on")]⟩ := by
    rw [hr, ← hqueued, ready]
  rw [hclosed]
  decide +kernel

/-- A dispatcher whose only handler answers with a body that fails before any data. -/
def gone : Dispatcher Unit Unit := traced (.stream [.failure (.failed "gone")])

/-- The queued header is lost with the response that fails before any data. -/
theorem respond_queued_gone :
  gone.Reachable ∧ gone.routes.router.findRequest statusRequest = .ok statusMatch
    ∧ (∃ chain turn seen, gone.Runs "r-2" statusRequest statusMatch ⟨(), []⟩ chain turn seen
      ∧ queuedIn seen = ⟨[("X-Trace", "on")]⟩)
    ∧ ((gone.respond "r-2" statusRequest .unlimited).run ⟨(), []⟩).1.2.written
      = Text.utf8 ("HTTP/1.1 500 Internal Server Error\r\n"
        ++ "X-Request-ID: r-1\r\n"
        ++ "Content-Type: text/plain; charset=utf-8\r\n"
        ++ "Connection: keep-alive\r\n"
        ++ "Content-Length: 21\r\n\r\n"
        ++ "Internal Server Error")
    ∧ ¬ Text.utf8 "X-Trace"
      <:+: ((gone.respond "r-2" statusRequest .unlimited).run ⟨(), []⟩).1.2.written
  := by
  obtain ⟨chain, turn, seen, base, hruns, hqueued, hanswers, hbase⟩ :=
    (reachable_traced (.stream [.failure (.failed "gone")])).exists_completed "r-2"
      (findRequest_traced _) ⟨(), []⟩
  obtain rfl := hruns.turn_of_traced
  obtain rfl := hanswers.eq_of_ok rfl
  have hwritten : ((gone.respond "r-2" statusRequest .unlimited).run ⟨(), []⟩).1.2.written
      = Text.utf8 ("HTTP/1.1 500 Internal Server Error\r\n"
        ++ "X-Request-ID: r-1\r\n"
        ++ "Content-Type: text/plain; charset=utf-8\r\n"
        ++ "Connection: keep-alive\r\n"
        ++ "Content-Length: 21\r\n\r\n"
        ++ "Internal Server Error") := by
    rw [fst_run_respond, run_prepare, gone, hbase, ← hqueued]
    rfl
  refine ⟨reachable_traced _, findRequest_traced _, ⟨chain, _, seen, hruns, hqueued.symm⟩, hwritten,
    ?_⟩
  rw [hwritten]
  decide +kernel

end Dispatcher

end HttpDispatch
