import HttpDispatch.Proofs.Connection.Step
import HttpDispatch.Proofs.Dispatch.Replacement
import HttpDispatch.Proofs.Http.Exact

/-!
# Accounts of a connection

Of the bytes that arrive while a connection is open, each belongs to one served request, as a part
of its head or of the body that it declares, or is kept.  What is written is one response for each
request, in order, and at most one more that refuses what has arrived; it is the last.  After it,
and after a response that could not be written or does not keep the connection open, nothing
happens any more.
-/

namespace HttpDispatch

/-! ### Bytes of a request -/

/-- The bytes of a served request are a head and as many more as it declares, which then are its
body. -/
structure Served.Framed (s : Served) (front body : Bytes) : Prop where
  bytes : s.bytes = front ++ body
  head : ∃ head, Head.read front = .done head [] ∧ s.request = Request.ofHead head s.request.body
  length : body.length = s.request.contentLength?.getD 0
  body : ∀ n, s.request.contentLength? = some n → s.request.body = body

/-- A served request of at most `max` bytes. -/
structure Served.Accounted (max : ℕ) (s : Served) : Prop where
  framed : ∃ front body, s.Framed front body
  fits : s.bytes.length ≤ max

/-- A request is read off its head and what it declares. -/
theorem Request.framed_of_read {bs : Bytes} {r : Request} {headLength : ℕ}
    (h : Request.read bs = .request r headLength)
    (hlength : headLength + r.contentLength?.getD 0 ≤ bs.length) :
  ∃ front body,
    (⟨r, bs.take (headLength + r.contentLength?.getD 0)⟩ : Served).Framed front body
  := by
  obtain ⟨head, rest, hhead⟩ := of_read h
  rw [read_of_done hhead] at h
  obtain ⟨front, rfl, hfront⟩ := Head.exact_read bs head rest hhead
  obtain rfl : headLength = front.length := by
    rw [headLength_of_ofRest h, List.length_append, Nat.add_sub_cancel]
  obtain ⟨hrequest, hbody⟩ := of_ofRest h
  rw [List.length_append] at hlength
  use front, rest.take (r.contentLength?.getD 0)
  constructor
  · rw [List.take_length_add_append]
  · exact ⟨head, hfront, hrequest⟩
  · change (rest.take (r.contentLength?.getD 0)).length = r.contentLength?.getD 0
    rw [List.length_take]
    omega
  · intro n hn
    simp only at hn
    rw [hn] at hbody
    rw [hn]
    exact hbody

namespace Connection

/-- The bytes that a demand takes up are those of the request. -/
theorem accounted_of_demand {max : ℕ} {buffer : Bytes} {request : Request} {length : ℕ}
    (h : demand max buffer = .serve request length) :
  (⟨request, buffer.take length⟩ : Served).Accounted max
  := by
  rw [demand] at h
  split at h
  · cases h
  · rename_i hmax
    split at h
    · cases h
    · cases h
    · cases h
    · rename_i r headLength hread
      dsimp only at h
      split at h
      · cases h
      · rename_i hlength
        obtain ⟨rfl, rfl⟩ := Demand.serve.inj h
        use Request.framed_of_read hread (Nat.le_of_not_lt hlength)
        rw [List.length_take]
        omega

/-- A response that refuses what has arrived. -/
inductive Refusal : Response → Prop
  | tooLarge : Refusal tooLarge
  | badRequest (e : RequestError) : Refusal (badRequest e)

theorem refusal_of_demand {max : ℕ} {buffer : Bytes} {response : Response}
    (h : demand max buffer = .refuse response) :
  Refusal response
  := by
  rw [demand] at h
  split at h
  · obtain rfl := Demand.refuse.inj h
    exact .tooLarge
  · split at h
    · cases h
    · obtain rfl := Demand.refuse.inj h
      exact .badRequest _
    · cases h
    · dsimp only at h
      split at h
      · cases h
      · cases h

end Connection

/-! ### Responses to requests -/

section

variable {σ μ : Type}

/-- The answer to a request: one response is written for it, which begins with its head unless its
body panics early, and the sink takes what fits of its `bytes`. -/
structure Dispatcher.Exchange (d : Dispatcher σ μ) (fresh : String) (request : Request)
    (sink : Sink) (world : World σ) (bytes : Bytes) (result : Except DeliveryError Delivered)
    (sink' : Sink) (world' : World σ) : Prop where
  answer : (d.respond fresh request sink).run world = ((result, sink'), world')
  response : ∃ base dispatched r, (d.dispatch fresh request).run world = (base, dispatched)
    ∧ d.Sends fresh request base dispatched r
    ∧ bytes = (d.write (d.infoOf fresh request) r .unlimited).2.written
    ∧ (r.PanicsEarly ∧ bytes = [] ∨ r.head (d.framingOf (d.infoOf fresh request) r) <+: bytes)
  written : sink'.written = sink.written ++ sink.fitting bytes
  room : result.isOk = true →
    ∀ more, sink.fitting (bytes ++ more) = bytes ++ sink'.fitting more

/-- A response that is written in full leaves the room that is left after it. -/
theorem Dispatcher.fitting_of_write_ok {d : Dispatcher σ μ} {info : RequestInfo} {r : Response}
    {sink : Sink} {delivered : Delivered} (h : (d.write info r sink).1 = .ok delivered)
    (more : Bytes) :
  sink.fitting ((d.write info r .unlimited).2.written ++ more)
    = (d.write info r .unlimited).2.written ++ (d.write info r sink).2.fitting more
  := by
  have hunlimited : d.write info r .unlimited = _ := write_of_takesAll info r ⟨rfl, rfl⟩
  rw [hunlimited, Transcript.written_takenBy]
  rw [write, Response.write_eq_perform] at h ⊢
  exact Transcript.fitting_of_perform_ok h more

theorem Dispatcher.exists_exchange (d : Dispatcher σ μ) (fresh : String) (request : Request)
    (sink : Sink) (world : World σ) :
  ∃ bytes result sink' world',
    d.Exchange fresh request sink world bytes result sink' world'
  := by
  rcases hdispatch : (d.dispatch fresh request).run world with ⟨base, dispatched⟩
  rcases hrespond : (d.respond fresh request sink).run world with ⟨⟨result, sink'⟩, world'⟩
  obtain ⟨r, hsends⟩ := d.exists_sends fresh request base dispatched
  have hwrite := (hsends.fst_run_respond hdispatch sink).symm
  rw [hrespond] at hwrite
  obtain ⟨hwritten, -, hhead⟩ :=
    write_of_not_failsEarly (d := d) (d.infoOf fresh request) hsends.not_failsEarly sink
  use (d.write (d.infoOf fresh request) r .unlimited).2.written, result, sink', world'
  constructor
  · exact hrespond
  · exact ⟨base, dispatched, r, hdispatch, hsends, rfl, hhead⟩
  · rw [hwrite] at hwritten
    exact hwritten
  · intro hok more
    obtain ⟨delivered, rfl⟩ : ∃ delivered, result = .ok delivered := by
      cases result with
      | ok delivered => exact ⟨delivered, rfl⟩
      | error e => cases hok
    have hfitting := Dispatcher.fitting_of_write_ok (congrArg Prod.fst hwrite) more
    rw [hwrite] at hfitting
    exact hfitting

namespace Connection

/-- The bytes of a response that refuses what has arrived. -/
def refusalBytes (d : Dispatcher σ μ) (response : Response) : Bytes :=
  (response.transcript 1 d.service.config.lengthTrailer).bytes

/-- What is written on a connection, and whether it is open then: one response for each of the
requests, in order, each after responses that leave the connection open, or in place of the next
one a response that refuses what has arrived.  The client may end the connection at any time. -/
inductive Log (d : Dispatcher σ μ) (fresh : ℕ → String) (sink : Sink) (world : World σ) :
    List Request → List Bytes → Bool → Sink → World σ → Prop
  | start : Log d fresh sink world [] [] true sink world
  | answered {requests : List Request} {sent : List Bytes} {sink' sink'' : Sink}
      {world' world'' : World σ} {request : Request} {bytes : Bytes}
      {result : Except DeliveryError Delivered}
      (before : Log d fresh sink world requests sent true sink' world')
      (exchange : d.Exchange (fresh requests.length) request sink' world' bytes result sink''
        world'') :
      Log d fresh sink world (requests ++ [request]) (sent ++ [bytes]) (staysOpen result) sink''
        world''
  | refused {requests : List Request} {sent : List Bytes} {sink' : Sink} {world' : World σ}
      {response : Response} (before : Log d fresh sink world requests sent true sink' world')
      (refusal : Refusal response) :
      Log d fresh sink world requests (sent ++ [refusalBytes d response]) false
        ((response.write 1 d.service.config.lengthTrailer).run.run sink').2 world'
  | ended {requests : List Request} {sent : List Bytes} {sink' : Sink} {world' : World σ}
      (before : Log d fresh sink world requests sent true sink' world') :
      Log d fresh sink world requests sent false sink' world'

variable {d : Dispatcher σ μ} {fresh : ℕ → String} {sink : Sink} {world : World σ}

section

variable {requests : List Request} {sent : List Bytes} {isOpen : Bool} {sink' : Sink}
  {world' : World σ}

/-- For every request one response was written, and at most one more. -/
theorem Log.length_sent (h : Log d fresh sink world requests sent isOpen sink' world') :
  sent.length = requests.length ∨ isOpen = false ∧ sent.length = requests.length + 1
  := by
  induction h with
  | start => exact .inl rfl
  | answered _ _ ih =>
    left
    rcases ih with hlength | ⟨hopen, -⟩
    · rw [List.length_append, List.length_append, hlength]
      rfl
    · cases hopen
  | refused _ _ ih =>
    right
    rcases ih with hlength | ⟨hopen, -⟩
    · rw [List.length_append, hlength]
      exact ⟨rfl, rfl⟩
    · cases hopen
  | ended _ ih =>
    rcases ih with hlength | ⟨hopen, -⟩
    · exact .inl hlength
    · cases hopen

/-- The sink takes what fits of all responses in a row. -/
theorem Log.written (h : Log d fresh sink world requests sent isOpen sink' world') :
  sink'.written = sink.written ++ sink.fitting sent.flatten
    ∧ (isOpen = true →
      ∀ more, sink.fitting (sent.flatten ++ more) = sent.flatten ++ sink'.fitting more)
  := by
  -- What was sent before has fitted, so that what is sent next goes on from there.
  have hnext : ∀ {sink' sink'' : Sink} {sent : List Bytes} {bytes : Bytes},
      sink'.written = sink.written ++ sink.fitting sent.flatten →
      (∀ more, sink.fitting (sent.flatten ++ more) = sent.flatten ++ sink'.fitting more) →
      sink''.written = sink'.written ++ sink'.fitting bytes →
      sink''.written = sink.written ++ sink.fitting (sent ++ [bytes]).flatten := by
    intro sink' sink'' sent bytes hwritten hroom hbytes
    have hall := hroom []
    rw [List.append_nil, Sink.fitting_nil, List.append_nil] at hall
    rw [hbytes, hwritten, hall, List.flatten_append, List.flatten_singleton, hroom,
      List.append_assoc]
  induction h with
  | start =>
    rw [List.flatten_nil, Sink.fitting_nil, List.append_nil]
    exact ⟨rfl, fun _ _ => rfl⟩
  | @answered _ sent _ _ _ _ _ bytes result _ exchange ih =>
    refine ⟨hnext ih.1 (ih.2 rfl) exchange.written, ?_⟩
    intro hopen more
    have hok : result.isOk = true := by
      cases result with
      | ok _ => rfl
      | error _ => cases hopen
    rw [List.flatten_append, List.flatten_singleton, List.append_assoc, ih.2 rfl,
      exchange.room hok, List.append_assoc]
  | refused _ _ ih =>
    refine ⟨hnext ih.1 (ih.2 rfl) ?_, ?_⟩
    · rw [Response.write_eq_perform]
      apply (Transcript.perform_cases _ _).1
    · intro hopen
      cases hopen
  | ended _ ih =>
    refine ⟨ih.1, ?_⟩
    intro hopen
    cases hopen

end

/-! ### Steps -/

/-- What an arrival of bytes does. -/
inductive Step (d : Dispatcher σ μ) (fresh : String) (c : Connection) (arrived : Bytes)
    (world : World σ) : Connection × World σ → Prop
  | closed (hclosed : c.isOpen = false) : Step d fresh c arrived world (c, world)
  | ended (hopen : c.isOpen = true) (hnil : arrived = []) :
      Step d fresh c arrived world ({ c with isOpen := false }, world)
  | waiting (hopen : c.isOpen = true) :
      Step d fresh c arrived world ({ c with buffer := c.buffer ++ arrived }, world)
  /-- The lengths of head and body add up to too much. -/
  | overflow (hopen : c.isOpen = true) :
      Step d fresh c arrived world
        ({ c with buffer := c.buffer ++ arrived, isOpen := false }, world)
  | refused (hopen : c.isOpen = true) {response : Response} (refusal : Refusal response) :
      Step d fresh c arrived world
        (⟨c.buffer ++ arrived,
          ((response.write 1 d.service.config.lengthTrailer).run.run c.sink).2, false, c.served⟩,
          world)
  | served (hopen : c.isOpen = true) {s : Served} {more bytes : Bytes}
      {result : Except DeliveryError Delivered} {sink' : Sink} {world' : World σ}
      (hbuffer : c.buffer ++ arrived = s.bytes ++ more)
      (accounted : s.Accounted d.service.config.maxRequestSize)
      (exchange : d.Exchange fresh s.request c.sink world bytes result sink' world') :
      Step d fresh c arrived world
        (⟨more, sink', staysOpen result, c.served ++ [s]⟩, world')

theorem step_receive (d : Dispatcher σ μ) (fresh : String) (c : Connection) (arrived : Bytes)
    (world : World σ) :
  Step d fresh c arrived world ((c.receive d fresh arrived).run world)
  := by
  cases hopen : c.isOpen with
  | false =>
    rw [receive_of_closed hopen]
    exact .closed hopen
  | true =>
    by_cases hnil : arrived = []
    · rw [receive, hopen, hnil]
      exact .ended hopen rfl
    · cases hdemand : demand d.service.config.maxRequestSize (c.buffer ++ arrived) with
      | wait =>
        rw [receive_of_wait hopen hnil hdemand]
        exact .waiting hopen
      | close =>
        rw [receive_of_close hopen hnil hdemand]
        exact .overflow hopen
      | refuse response =>
        rw [receive, hopen, List.isEmpty_eq_false_iff.2 hnil]
        simp only [Bool.not_true, Bool.false_eq_true, if_false, hdemand]
        exact .refused hopen (refusal_of_demand hdemand)
      | serve request length =>
        obtain ⟨bytes, result, sink', world', hexchange⟩ :=
          d.exists_exchange fresh request c.sink world
        rw [receive_of_serve hopen hnil hdemand hexchange.answer]
        exact .served hopen (List.take_append_drop length _).symm (accounted_of_demand hdemand)
          hexchange

/-! ### Runs -/

/-- What the arrivals `reads` have made of a connection. -/
structure Accounts (d : Dispatcher σ μ) (fresh : ℕ → String) (sink : Sink) (world : World σ)
    (reads : List Bytes) (after : Connection × World σ) : Prop where
  /-- All that arrived while the connection was open is served or kept. -/
  bytes : ∃ front back, reads = front ++ back
    ∧ after.1.consumed ++ after.1.buffer = front.flatten ∧ (after.1.isOpen = true → back = [])
  served : ∀ s ∈ after.1.served, s.Accounted d.service.config.maxRequestSize
  log : ∃ sent, Log d fresh sink world (after.1.served.map Served.request) sent after.1.isOpen
    after.1.sink after.2

theorem accounts_new (d : Dispatcher σ μ) (fresh : ℕ → String) (sink : Sink) (world : World σ) :
  Accounts d fresh sink world [] (new sink, world)
  := by
  constructor
  · exact ⟨[], [], rfl, rfl, fun _ => rfl⟩
  · simp [new]
  · exact ⟨[], .start⟩

/-- What has arrived on an open connection, after one arrival more. -/
theorem Accounts.bytes_concat {reads : List Bytes} {c : Connection} {world' : World σ}
    (h : Accounts d fresh sink world reads (c, world')) (hopen : c.isOpen = true)
    (arrived : Bytes) :
  c.consumed ++ (c.buffer ++ arrived) = (reads ++ [arrived]).flatten
  := by
  obtain ⟨⟨front, back, rfl, hbytes, hback⟩, -, -⟩ := h
  rw [hback hopen, List.append_nil, List.flatten_append, List.flatten_singleton, ← hbytes,
    List.append_assoc]

/-- What is true of a connection stays true when more bytes arrive. -/
theorem Accounts.step {reads : List Bytes} {c : Connection} {world' : World σ}
    (h : Accounts d fresh sink world reads (c, world')) {arrived : Bytes}
    {after : Connection × World σ} (hstep : Step d (fresh c.served.length) c arrived world' after) :
  Accounts d fresh sink world (reads ++ [arrived]) after
  := by
  obtain ⟨sent, hlog⟩ := h.log
  cases hstep with
  | closed hclosed =>
    obtain ⟨front, back, rfl, hbytes, hback⟩ := h.bytes
    refine ⟨⟨front, back ++ [arrived], List.append_assoc .., hbytes, ?_⟩, h.served, h.log⟩
    intro hopen
    rw [hclosed] at hopen
    cases hopen
  | ended hopen hnil =>
    have hbytes := h.bytes_concat hopen arrived
    rw [hnil, List.append_nil] at hbytes
    rw [hnil]
    rw [hopen] at hlog
    exact ⟨⟨_, [], (List.append_nil _).symm, hbytes, fun _ => rfl⟩, h.served, sent, hlog.ended⟩
  | waiting hopen =>
    exact ⟨⟨_, [], (List.append_nil _).symm, h.bytes_concat hopen arrived, fun _ => rfl⟩,
      h.served, sent, hlog⟩
  | overflow hopen =>
    rw [hopen] at hlog
    exact ⟨⟨_, [], (List.append_nil _).symm, h.bytes_concat hopen arrived, fun _ => rfl⟩,
      h.served, sent, hlog.ended⟩
  | refused hopen refusal =>
    rw [hopen] at hlog
    exact ⟨⟨_, [], (List.append_nil _).symm, h.bytes_concat hopen arrived, fun _ => rfl⟩,
      h.served, _, hlog.refused refusal⟩
  | @served hopen s more bytes result sink' world' hbuffer accounted exchange =>
    rw [hopen] at hlog
    constructor
    · refine ⟨_, [], (List.append_nil _).symm, ?_, fun _ => rfl⟩
      rw [← h.bytes_concat hopen arrived, hbuffer]
      simp [consumed]
    · intro s' hs'
      rcases List.mem_append.1 hs' with hs' | hs'
      · exact h.served s' hs'
      · rw [List.mem_singleton.1 hs']
        exact accounted
    · rw [← List.length_map Served.request] at exchange
      use sent ++ [bytes]
      rw [List.map_append]
      exact hlog.answered exchange

theorem accounts_run (d : Dispatcher σ μ) (fresh : ℕ → String) (sink : Sink) (world : World σ)
    (reads : List Bytes) :
  Accounts d fresh sink world reads (((new sink).run d fresh reads).run world)
  := by
  induction reads using List.reverseRecOn with
  | nil => exact accounts_new d fresh sink world
  | append_singleton reads arrived ih =>
    rw [run_concat]
    exact ih.step (step_receive ..)

/-- The accounts of a connection, after any arrivals `reads`. -/
theorem run_accounted (d : Dispatcher σ μ) (fresh : ℕ → String) (sink : Sink) (world : World σ)
    (reads : List Bytes) :
  ∃ c world' front back sent,
    ((new sink).run d fresh reads).run world = (c, world')
      ∧ reads = front ++ back
      ∧ c.consumed ++ c.buffer = front.flatten
      ∧ (c.isOpen = true → back = [])
      ∧ (∀ s ∈ c.served, s.Accounted d.service.config.maxRequestSize)
      ∧ Log d fresh sink world (c.served.map Served.request) sent c.isOpen c.sink world'
      ∧ (sent.length = c.served.length ∨ c.isOpen = false ∧ sent.length = c.served.length + 1)
      ∧ c.sink.written = sink.written ++ sink.fitting sent.flatten
      ∧ (c.isOpen = false →
        ∀ more, ((new sink).run d fresh (reads ++ more)).run world = (c, world'))
  := by
  have haccounts := accounts_run d fresh sink world reads
  obtain ⟨front, back, hreads, hbytes, hback⟩ := haccounts.bytes
  obtain ⟨sent, hlog⟩ := haccounts.log
  use (((new sink).run d fresh reads).run world).1, (((new sink).run d fresh reads).run world).2,
    front, back, sent
  refine ⟨rfl, hreads, hbytes, hback, haccounts.served, hlog, ?_, hlog.written.1, ?_⟩
  · rw [← List.length_map Served.request]
    exact hlog.length_sent
  · exact run_append_of_closed

end Connection

end

end HttpDispatch
