import HttpDispatch.Proofs.Connection.Step
import HttpDispatch.Proofs.Dispatch.Queueing
import HttpDispatch.Proofs.Http.Aborting
import HttpDispatch.Proofs.Http.Framing

/-!
# What a head says of the connection

Whether a connection stays open is decided when a response is completed, when its head is written
and when all of it is delivered.  The three agree: `Dispatcher.respond_announced`.
-/

namespace HttpDispatch

open Text

/-! ### Delivered responses -/

theorem Body.eq_of_framing_eq_chunked {body : Body} {version : ℕ} {trailer trailer' : String}
    (h : body.framing version trailer = .chunked trailer') :
  trailer = trailer'
  := by
  cases body with
  | full data => cases h
  | stream source =>
    rw [framing] at h
    split at h
    · exact Framing.chunked.inj h
    · cases h

namespace Response

variable {r : Response} {version : ℕ} {trailer : String}

/-- Only the end of the connection tells a client that speaks version 1.`version` where the body
ends. -/
def UntilClose (r : Response) (version : ℕ) : Prop :=
  r.status.forbidsBody = false ∧ version = 0 ∧ ∃ source, r.body = .stream source

theorem framing_sentBody_eq_close_iff :
  r.sentBody.framing version trailer = .close ↔ r.UntilClose version
  := by
  rw [UntilClose, sentBody]
  cases r.status.forbidsBody with
  | true => simp [Body.framing, Body.empty]
  | false =>
    cases r.body with
    | full data => simp [Body.framing]
    | stream source =>
      by_cases hversion : 1 ≤ version
      · simp [Body.framing, hversion, Nat.ne_of_gt hversion]
      · simp [Body.framing, Nat.eq_zero_of_not_pos hversion]

theorem staysOpen_iff :
  r.staysOpen (r.sentBody.framing version trailer) = true
    ↔ r.keepAlive = true ∧ ¬ r.UntilClose version
  := by
  rw [staysOpen, Bool.and_eq_true, bne_iff_ne, ne_eq, framing_sentBody_eq_close_iff]

/-- A response that is delivered leaves the connection as its framing does. -/
theorem keepAlive_of_ending {delivered : Delivered}
    (h : (r.transcript version trailer).ending = .ok delivered) :
  delivered.keepAlive = r.staysOpen (r.sentBody.framing version trailer)
  := by
  cases hbody : r.sentBody with
  | full data =>
    rw [transcript_of_full hbody] at h
    obtain rfl := Except.ok.inj h
    exact (Bool.and_true _).symm
  | stream source =>
    rw [transcript_of_stream hbody, streamTranscript] at h
    cases hfirst : failsFirst? source with
    | some e => cases e <;> simp [hfirst] at h
    | none =>
      rw [hfirst] at h
      simp only at h
      generalize (source.writes _ 0).2 = ending at h
      cases ending with
      | error e => cases h
      | ok sent =>
        obtain rfl := Except.ok.inj h
        by_cases hversion : 1 ≤ version
        · simp [Body.framing, hversion, staysOpen]
        · simp [Body.framing, hversion, staysOpen]

/-- A response that is delivered is written from its head on. -/
theorem write_eq_ok {w w' : Sink} {delivered : Delivered}
    (h : (r.write version trailer).run.run w = (.ok delivered, w')) :
  delivered.keepAlive = r.staysOpen (r.sentBody.framing version trailer)
    ∧ ∃ body, w'.written = w.written ++ (r.head (r.sentBody.framing version trailer) ++ body)
  := by
  have hperformed := (r.transcript version trailer).performed_perform w
  rw [← write_eq_perform, h] at hperformed
  cases hperformed with
  | flushed ending outcome written flushes =>
    obtain rfl : delivered = _ := by simpa using outcome
    obtain ⟨body, hbody⟩ := head_prefix_of_ending ending
    use keepAlive_of_ending ending, body
    rw [written, hbody]

end Response

/-! ### Responses to a request -/

namespace Dispatcher

variable {σ μ : Type} {d : Dispatcher σ μ} {fresh : String} {request : Request} {world : World σ}

/-- The response that a request leads to, before anything is added to it. -/
inductive Drafts (d : Dispatcher σ μ) (fresh : String) (request : Request) (world : World σ) :
    Response → Prop
  /-- The request has no route. -/
  | missed {e : RouteNotFound} (missing : d.routes.router.findRequest request = .error e) :
    Drafts d fresh request world .notFound
  /-- The chain of its route leads to the response. -/
  | answered {found : RouteMatch} {chain : Chain σ μ}
      {turn : Turn σ (Except DispatchError Response)} {seen : List Observation} {r : Response}
      (found_eq : d.routes.router.findRequest request = .ok found)
      (runs : d.Runs fresh request found world chain turn seen)
      (answers : d.Answers (d.infoOf fresh request) turn r) : Drafts d fresh request world r

/-- The response that is sent for a request, before anything is added to it: the first one of the
draft, the one to its failure and the one that says nothing that does not fail early. -/
inductive Settles (d : Dispatcher σ μ) (fresh : String) (request : Request) (world : World σ) :
    Response → Prop
  | draft {r : Response} (drafts : d.Drafts fresh request world r)
      (sound : ∀ reason, ¬ r.FailsEarly reason) : Settles d fresh request world r
  | translated {base r : Response} {reason : String}
      (drafts : d.Drafts fresh request world base) (fails : base.FailsEarly reason)
      (translates : d.Translates (d.infoOf fresh request) (.body reason)
        ((d.dispatch fresh request).run world).2 r)
      (sound : ∀ reason, ¬ r.FailsEarly reason) : Settles d fresh request world r
  | generic {base other : Response} {reason reason' : String}
      (drafts : d.Drafts fresh request world base) (fails : base.FailsEarly reason)
      (translates : d.Translates (d.infoOf fresh request) (.body reason)
        ((d.dispatch fresh request).run world).2 other)
      (failsAgain : other.FailsEarly reason') : Settles d fresh request world .internalError

/-- The response is the one that is written for a request. -/
def SendsFor (d : Dispatcher σ μ) (fresh : String) (request : Request) (world : World σ)
    (r : Response) : Prop :=
  d.Sends fresh request ((d.dispatch fresh request).run world).1
    ((d.dispatch fresh request).run world).2 r

theorem Reachable.exists_drafts (hd : d.Reachable) (fresh : String) (request : Request)
    (world : World σ) :
  ∃ base queued, d.Drafts fresh request world base
    ∧ ((d.dispatch fresh request).run world).1 = d.completed fresh request base queued
  := by
  cases hfound : d.routes.router.findRequest request with
  | error e =>
    use .notFound, .empty, .missed hfound
    rw [run_dispatch_of_missed hfound]
  | ok found =>
    obtain ⟨chain, turn, seen, base, hruns, -, hanswers, hbase⟩ :=
      hd.exists_completed fresh hfound world
    exact ⟨base, _, .answered hfound hruns hanswers, hbase⟩

/-- The response that is written for a request is one that is settled on, with what the dispatcher
adds to it. -/
theorem SendsFor.exists_settles (hd : d.Reachable) {r : Response}
    (h : d.SendsFor fresh request world r) :
  ∃ own queued, d.Settles fresh request world own ∧ r = d.completed fresh request own queued
  := by
  obtain ⟨base, queued, hdrafts, hbase⟩ := hd.exists_drafts fresh request world
  have hsound := Sends.not_failsEarly h
  rw [SendsFor, hbase] at h
  obtain ⟨own, queued', rfl, hkept, hreplaced⟩ := h.exists_completed
  refine ⟨own, queued', ?_, rfl⟩
  by_cases hfails : ∃ reason, base.FailsEarly reason
  · obtain ⟨reason, hfails⟩ := hfails
    obtain ⟨-, other, htranslates, rfl | ⟨rfl, reason', hagain⟩⟩ := hreplaced reason hfails
    · exact .translated hdrafts hfails htranslates hsound
    · exact .generic hdrafts hfails htranslates hagain
  · obtain ⟨rfl, -⟩ := hkept (not_exists.1 hfails)
    exact .draft hdrafts hsound

end Dispatcher

/-- What arrives on the connection still has an effect. -/
def Connection.ReadsOn {σ μ : Type} (c : Connection) (d : Dispatcher σ μ) : Prop :=
  ∃ fresh arrived world, (c.receive d fresh arrived).run world ≠ (c, world)

/-- A connection reads on as long as it is open: even the end of what arrives closes it. -/
theorem Connection.readsOn_iff {σ μ : Type} (c : Connection) (d : Dispatcher σ μ)
    (world : World σ) :
  c.ReadsOn d ↔ c.isOpen = true
  := by
  constructor
  · rintro ⟨fresh, arrived, world', hne⟩
    by_contra hclosed
    exact hne (receive_of_closed (Bool.eq_false_iff.2 hclosed))
  · intro hopen
    use "", [], world
    rw [receive_of_nil hopen]
    intro heq
    have hclosed : false = c.isOpen := congrArg (fun after => after.1.isOpen) heq
    rw [hopen] at hclosed
    cases hclosed

namespace Dispatcher

variable {σ μ : Type}

/-- When a response is delivered, its head says one thing of the connection, whatever it says
already.  It is that the connection stays open, if the client and the response that is sent, also
one that stands for a failure, both let it and the body ends before the connection does.  A
connection on which the request was served reads on exactly if its client was told so. -/
theorem respond_announced {d : Dispatcher σ μ} (hd : d.Reachable) {fresh : String}
    {request : Request} {world : World σ} {r : Response}
    (hr : d.SendsFor fresh request world r) (hfields : ∀ f ∈ r.headers.fields, Sendable f)
    (htrailer : Unbroken d.service.config.lengthTrailer) {sink sink' : Sink}
    {delivered : Delivered}
    (hrespond : ((d.respond fresh request sink).run world).1 = (.ok delivered, sink')) :
  ∃ own queued body stays, d.Settles fresh request world own
    ∧ r = d.completed fresh request own queued
    ∧ sink'.written
      = sink.written ++ (r.head (d.framingOf (d.infoOf fresh request) r) ++ body)
    ∧ readValues (r.head (d.framingOf (d.infoOf fresh request) r) ++ body) "Connection"
      = [utf8 (if stays then "keep-alive" else "close")]
    ∧ (stays = true
      ↔ request.keepAlive = true ∧ own.keepAlive = true ∧ ¬ own.UntilClose request.version)
    ∧ ∀ (c : Connection) arrived length, c.isOpen = true → c.sink = sink → arrived ≠ [] →
      Connection.demand d.service.config.maxRequestSize (c.buffer ++ arrived)
          = .serve request length →
        ((c.receive d fresh arrived).run world).1.isOpen = stays
          ∧ (((c.receive d fresh arrived).run world).1.ReadsOn d ↔ stays = true)
  := by
  obtain ⟨own, queued, hsettles, hown⟩ := hr.exists_settles hd
  have hwrite := hrespond
  rw [Sends.fst_run_respond hr rfl] at hwrite
  obtain ⟨hkeep, body, hwritten⟩ := Response.write_eq_ok hwrite
  use own, queued, body, delivered.keepAlive, hsettles, hown, hwritten
  refine ⟨?_, ?_, ?_⟩
  · rw [hkeep]
    apply Response.readValues_connection hfields
    intro trailer hframing
    rw [← Body.eq_of_framing_eq_chunked hframing]
    exact htrailer
  · rw [hkeep, Response.staysOpen_iff, hown]
    change (request.keepAlive && own.keepAlive) = true ∧ ¬ own.UntilClose request.version ↔ _
    rw [Bool.and_eq_true, and_assoc]
  · rintro c arrived length hopen rfl harrived hdemand
    have hrun : (d.respond fresh request c.sink).run world
        = ((.ok delivered, sink'), ((d.respond fresh request c.sink).run world).2) :=
      Prod.ext hrespond rfl
    rw [Connection.receive_of_serve hopen harrived hdemand hrun]
    use rfl
    apply Connection.readsOn_iff _ d world

/-- A handler that says of the connection what is not for it to say, and answers with a stream. -/
def insisting : Handler Unit Unit := fun _ =>
  return .ok (((Response.new .ok).addHeader "connection" "upgrade").withBody
    (.stream [.item (utf8 "ready")]))

/-- A dispatcher whose only handler is `insisting`. -/
def insistent : Dispatcher Unit Unit where
  service := {
    registry := .standard
    handlers := Handlers.empty.register "Printer.status" insisting
    before := []
    after := []
    translator := none
    hook := .logging
    config := .default
    metadata := () }
  routes := {
    router := ⟨[⟨⟨"GET"⟩, "/status", [.literal "status"], "Printer.status", [], [], 1⟩], .standard⟩
    chains := [.ofGroups "Printer.status" insisting [] [] []] }

/-- The request of a client of version 1.0 that keeps the connection open. -/
def keptRequest : Request := ⟨⟨"GET"⟩, "/status", 0, ⟨[("Connection", "keep-alive")]⟩, none, []⟩

/-- The bytes of `keptRequest`. -/
def keptBytes : Bytes := utf8 "GET /status HTTP/1.0\r\nConnection: keep-alive\r\n\r\n"

theorem fst_run_dispatch_insistent (world : World Unit) :
  ((insistent.dispatch "r-2" keptRequest).run world).1
    = { ((Response.new .ok).addHeader "connection" "upgrade").setHeader "X-Request-ID" "r-2" with
      body := .stream [.item (utf8 "ready")] }
  := by
  have hfound : insistent.routes.router.findRequest keptRequest = .ok statusMatch := by
    decide +kernel
  have hchain : insistent.routes.chains[statusMatch.index]?
      = some (.ofGroups "Printer.status" insisting [] [] []) := rfl
  rw [fst_run_dispatch_of_found hfound hchain, runChain, Chain.run_eq_foldr]
  rfl

/-- Though the client and the response would keep it open, the connection ends with the body. -/
theorem respond_announced_insistent :
  insistent.Reachable ∧ keptRequest.keepAlive = true
    ∧ ∀ world, ∃ r : Response, insistent.SendsFor "r-2" keptRequest world r ∧ r.keepAlive = true
      ∧ r.headers.getAll "Connection" = ["upgrade"]
      ∧ readValues ((insistent.respond "r-2" keptRequest .unlimited).run world).1.2.written
        "Connection" = [utf8 "close"]
      ∧ ¬ (((Connection.new .unlimited).receive insistent "r-2" keptBytes).run world).1.ReadsOn
        insistent
  := by
  have hreachable : insistent.Reachable := by
    have hbuild : ((insistent.service.buildWith insistent.routes.router.routes).run ⟨(), []⟩).1
        = .ok insistent := rfl
    exact .buildWith hbuild
  refine ⟨hreachable, by decide +kernel, ?_⟩
  intro world
  have hbase := fst_run_dispatch_insistent world
  generalize hr : ((insistent.dispatch "r-2" keptRequest).run world).1 = r at hbase
  have hsends : insistent.SendsFor "r-2" keptRequest world r := by
    rw [SendsFor, hr]
    apply Sends.prepared
    rintro reason ⟨source, hbody, hfails⟩
    rw [hbase] at hbody
    obtain rfl := Body.stream.inj hbody
    cases Response.failsFirst?_eq_some_iff.2 hfails
  have hfields : ∀ f ∈ r.headers.fields, Sendable f := by
    rw [hbase]
    change ∀ f ∈ [("connection", "upgrade"), ("X-Request-ID", "r-2")], Sendable f
    simp only [List.forall_mem_cons, List.not_mem_nil]
    use sendable_mk (by decide) (by decide) (by decide)
    use sendable_mk (by decide) (by decide) (by decide)
    simp
  obtain ⟨sink', hrespond⟩ : ∃ sink', ((insistent.respond "r-2" keptRequest .unlimited).run world).1
      = (.ok ⟨.ok, 5, false⟩, sink') := by
    rw [Sends.fst_run_respond hsends rfl, hbase]
    exact ⟨_, rfl⟩
  have hdemand : Connection.demand insistent.service.config.maxRequestSize
      ((Connection.new .unlimited).buffer ++ keptBytes) = .serve keptRequest keptBytes.length := by
    decide +kernel
  obtain ⟨own, queued, body, stays, hsettles, hown, hwritten, hread, hstays, hconnection⟩ :=
    respond_announced hreachable hsends hfields (by decide) hrespond
  have hclose : stays = false := by
    have huntil : (insistent.completed "r-2" keptRequest own queued).UntilClose 0 := by
      rw [← hown, hbase]
      exact ⟨rfl, rfl, _, rfl⟩
    rw [Bool.eq_false_iff, ne_eq, hstays]
    rintro ⟨-, -, hnot⟩
    exact hnot huntil
  obtain rfl := hclose
  refine ⟨r, hsends, by rw [hbase]; rfl, by rw [hbase]; decide +kernel, ?_, ?_⟩
  · rw [hrespond, hwritten]
    exact hread
  · obtain ⟨-, hreads⟩ := hconnection (.new .unlimited) keptBytes _ rfl rfl (by decide) hdemand
    rw [hreads]
    exact Bool.false_ne_true

end Dispatcher

end HttpDispatch
