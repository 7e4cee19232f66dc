import HttpDispatch.Proofs.Connection.Schedule
import HttpDispatch.Proofs.Connection.Step

/-!
# Pacing

A run of a connection follows the schedule of its reads as far as they fit.  So the requests whose
bytes arrive in some reads are all answered exactly if the reads are paced: `run_eq_iff`.
-/

namespace HttpDispatch.Connection

/-! ### Runs -/

variable {σ μ : Type} {d : Dispatcher σ μ} {fresh : ℕ → String} {sink : Sink} {world : World σ}
  {requests : List Served}

/-- After the reads `front`, the connection has served the requests that the schedule has
answered, each with its own bytes. -/
structure Tracks (d : Dispatcher σ μ) (fresh : ℕ → String) (sink : Sink) (world : World σ)
    (requests : List Served) (front : List Bytes) (after : Connection × World σ) : Prop where
  isOpen : after.1.isOpen = true
  served : after.1.served = requests.take (answered requests front)
  buffer : after.1.consumed ++ after.1.buffer = front.flatten
  takesAll : after.1.sink.TakesAll
  answers : (d.respondAll fresh 0 (after.1.served.map Served.request) sink).run world
    = (after.1.sink, after.2)

theorem tracks_new (hsink : sink.TakesAll) :
  Tracks d fresh sink world requests [] (new sink, world)
  := ⟨rfl, rfl, rfl, hsink, rfl⟩

/-- The bytes that have arrived and are not served are the beginning of the next requests. -/
theorem Tracks.pending {front : List Bytes} {after : Connection × World σ}
    (h : Tracks d fresh sink world requests front after) {read : Bytes}
    (hcut : (front ++ [read]).flatten <+: bytesOf requests) :
  after.1.buffer ++ read <+: bytesOf (requests.drop (answered requests front))
    ∧ (front ++ [read]).flatten.length
      = (bytesOf (requests.take (answered requests front))).length
        + (after.1.buffer ++ read).length
  := by
  have hconsumed : after.1.consumed = bytesOf (requests.take (answered requests front)) := by
    rw [consumed, h.served]
    rfl
  have harrived : (front ++ [read]).flatten
      = bytesOf (requests.take (answered requests front)) ++ (after.1.buffer ++ read) := by
    rw [List.flatten_append, ← h.buffer, hconsumed, List.flatten_singleton, List.append_assoc]
  constructor
  · have hrequests : bytesOf requests
        = bytesOf (requests.take (answered requests front))
          ++ bytesOf (requests.drop (answered requests front)) := by
      rw [← bytesOf_append, List.take_append_drop]
    rw [harrived, hrequests, List.prefix_append_right_inj] at hcut
    exact hcut
  · rw [harrived, List.length_append]

/-- Either the next request is complete and answered, or a part of it has yet to arrive. -/
theorem Tracks.next {front : List Bytes} {after : Connection × World σ}
    (h : Tracks d fresh sink world requests front after) {read : Bytes} (hread : read ≠ [])
    (hcut : (front ++ [read]).flatten <+: bytesOf requests) :
  ∃ s, requests[answered requests front]? = some s
    ∧ ((∃ more, after.1.buffer ++ read = s.bytes ++ more
          ∧ answered requests (front ++ [read]) = answered requests front + 1)
      ∨ ∃ back, back ≠ [] ∧ s.bytes = after.1.buffer ++ read ++ back
          ∧ answered requests (front ++ [read]) = answered requests front)
  := by
  obtain ⟨hpending, hlength⟩ := h.pending hcut
  cases hnext : requests[answered requests front]? with
  | none =>
    -- All requests are answered, and yet more bytes of them have arrived.
    rw [List.drop_eq_nil_of_le (List.getElem?_eq_none_iff.1 hnext)] at hpending
    have hnil := List.prefix_nil.1 hpending
    exact absurd (List.append_eq_nil_iff.1 hnil).2 hread
  | some s =>
    use s, rfl
    rw [List.drop_eq_getElem?_toList_append, hnext, Option.toList_some, List.singleton_append,
      bytesOf_cons] at hpending
    have hs := List.prefix_append s.bytes (bytesOf (requests.drop (answered requests front + 1)))
    rw [answered_concat_of_getElem? hnext hlength]
    by_cases hlong : s.bytes.length ≤ (after.1.buffer ++ read).length
    · left
      obtain ⟨more, hmore⟩ := List.prefix_of_prefix_length_le hs hpending hlong
      exact ⟨more, hmore.symm, if_pos hlong⟩
    · right
      obtain ⟨back, hback⟩ := List.prefix_of_prefix_length_le hpending hs (by omega)
      refine ⟨back, ?_, hback.symm, if_neg hlong⟩
      rintro rfl
      apply hlong
      rw [← hback, List.append_nil]

section

variable (complete : ∀ s ∈ requests, s.Complete d.service.config.maxRequestSize)

include complete

/-- At a read that fits, the next request is served as it is if it is complete. -/
theorem Tracks.demand_of_fits {front : List Bytes} {after : Connection × World σ}
    (h : Tracks d fresh sink world requests front after) {read more : Bytes} {s : Served}
    (hs : requests[answered requests front]? = some s)
    (hmore : after.1.buffer ++ read = s.bytes ++ more)
    (hcut : (front ++ [read]).flatten <+: bytesOf requests)
    (hfits : Fits d.service.config.maxRequestSize requests front read) :
  demand d.service.config.maxRequestSize (after.1.buffer ++ read)
    = .serve s.request s.bytes.length
  := by
  have hcomplete := complete s (List.mem_of_getElem? hs)
  obtain ⟨-, hlength⟩ := h.pending hcut
  rw [hmore] at hlength ⊢
  have hroom : (s.bytes ++ more).length ≤ d.service.config.maxRequestSize := by
    have := hfits.room
    omega
  have halone : s.request.among more = s.request := by
    apply Request.among_eq_self_iff.2
    intro hnone
    have := hfits.alone s hs hnone
    rw [hlength, length_bytesOf_take_add_one hs, List.length_append] at this
    apply List.length_eq_zero_iff.1 (by omega)
  rw [demand_append hcomplete.request hroom, halone]

/-- A read at which the next request is served as it is is tracked. -/
theorem Tracks.serve (alive : d.KeepsAlive) {front : List Bytes}
    {after : Connection × World σ} (h : Tracks d fresh sink world requests front after)
    {read more : Bytes} (hread : read ≠ []) {s : Served}
    (hs : requests[answered requests front]? = some s)
    (hmore : after.1.buffer ++ read = s.bytes ++ more)
    (hanswered : answered requests (front ++ [read]) = answered requests front + 1)
    (hdemand : demand d.service.config.maxRequestSize (after.1.buffer ++ read)
      = .serve s.request s.bytes.length) :
  Tracks d fresh sink world requests (front ++ [read])
    ((after.1.receive d (fresh after.1.served.length) read).run after.2)
  := by
  obtain ⟨delivered, hdelivered, hkeep⟩ := alive (fresh after.1.served.length) s.request
    after.1.sink after.2 (complete s (List.mem_of_getElem? hs)).keepAlive h.takesAll
  have htakes := d.takesAll_respond (fresh after.1.served.length) s.request h.takesAll after.2
  have hanswers := d.respondAll_concat fresh 0 (after.1.served.map Served.request) s.request sink
  rw [List.length_map, Nat.zero_add] at hanswers
  generalize hrespond : (d.respond (fresh after.1.served.length) s.request after.1.sink).run
    after.2 = answer at hdelivered htakes
  obtain ⟨⟨result, sink'⟩, world'⟩ := answer
  obtain rfl : result = .ok delivered := hdelivered
  rw [receive_of_serve h.isOpen hread hdemand hrespond, hmore, List.drop_left, List.take_left]
  constructor
  · exact hkeep
  · rw [hanswered, take_add_one_of_getElem? hs, ← h.served]
  · have hconsumed : consumed ⟨more, sink', staysOpen (.ok delivered),
        after.1.served ++ [⟨s.request, s.bytes⟩]⟩ = after.1.consumed ++ s.bytes := by
      simp [consumed]
    rw [hconsumed, List.flatten_append, ← h.buffer, List.flatten_singleton, List.append_assoc,
      List.append_assoc, hmore]
  · exact htakes
  · rw [List.map_append, List.map_singleton, hanswers, StateT.run_bind, h.answers]
    change (StateT.run (d.respond (fresh after.1.served.length) s.request after.1.sink
      >>= _) after.2) = _
    rw [StateT.run_bind, hrespond]
    rfl

omit complete in
/-- A read that is waited after is tracked. -/
theorem Tracks.wait {front : List Bytes} {after : Connection × World σ}
    (h : Tracks d fresh sink world requests front after) {read : Bytes} (hread : read ≠ [])
    (hanswered : answered requests (front ++ [read]) = answered requests front)
    (hdemand : demand d.service.config.maxRequestSize (after.1.buffer ++ read) = .wait) :
  Tracks d fresh sink world requests (front ++ [read])
    ((after.1.receive d (fresh after.1.served.length) read).run after.2)
  := by
  rw [receive_of_wait h.isOpen hread hdemand]
  constructor
  · apply h.isOpen
  · rw [hanswered]
    apply h.served
  · change after.1.consumed ++ (after.1.buffer ++ read) = _
    rw [List.flatten_append, ← h.buffer, List.flatten_singleton, List.append_assoc]
  · apply h.takesAll
  · apply h.answers

/-- A read that fits is tracked. -/
theorem Tracks.step (alive : d.KeepsAlive) {front : List Bytes} {after : Connection × World σ}
    (h : Tracks d fresh sink world requests front after) {read : Bytes} (hread : read ≠ [])
    (hcut : (front ++ [read]).flatten <+: bytesOf requests)
    (hfits : Fits d.service.config.maxRequestSize requests front read) :
  Tracks d fresh sink world requests (front ++ [read])
    ((after.1.receive d (fresh after.1.served.length) read).run after.2)
  := by
  obtain ⟨s, hs, hnext⟩ := h.next hread hcut
  rcases hnext with ⟨more, hmore, hanswered⟩ | ⟨back, hback, hbytes, hanswered⟩
  · apply h.serve complete alive hread hs hmore hanswered
    apply h.demand_of_fits complete hs hmore hcut hfits
  · apply h.wait hread hanswered
    have hcomplete := complete s (List.mem_of_getElem? hs)
    have hlength := congrArg List.length hbytes
    rw [List.length_append] at hlength
    apply demand_front hcomplete.request hbytes hback
    apply (Nat.le.intro hlength.symm).trans hcomplete.fits

omit complete in
/-- As long as all is served, there is room for every read. -/
theorem Tracks.room {front rest : List Bytes} {read : Bytes}
    (h : Tracks d fresh sink world requests front (((new sink).run d fresh front).run world))
    (hread : read ≠ []) (hnext : answered requests front < requests.length)
    (hserved :
      (((new sink).run d fresh (front ++ [read] ++ rest)).run world).1.served = requests) :
  ((((new sink).run d fresh front).run world).1.buffer ++ read).length
    ≤ d.service.config.maxRequestSize
  := by
  by_contra hfull
  have hdemand := demand_of_lt (Nat.lt_of_not_le hfull)
  obtain ⟨hclosed, hsame⟩ := receive_of_refuse h.isOpen hread hdemand
  rw [← run_concat] at hclosed hsame
  rw [run_append_of_closed hclosed rest, hsame, h.served] at hserved
  have hall := congrArg List.length hserved
  rw [List.length_take] at hall
  omega

/-- As long as all is served as it was sent, nothing follows a request without a declared
length. -/
theorem Tracks.alone {front rest : List Bytes} {read more : Bytes} {s : Served}
    (h : Tracks d fresh sink world requests front (((new sink).run d fresh front).run world))
    (hread : read ≠ []) (hs : requests[answered requests front]? = some s)
    (hmore : (((new sink).run d fresh front).run world).1.buffer ++ read = s.bytes ++ more)
    (hroom : ((((new sink).run d fresh front).run world).1.buffer ++ read).length
      ≤ d.service.config.maxRequestSize)
    (hserved :
      (((new sink).run d fresh (front ++ [read] ++ rest)).run world).1.served = requests)
    (hnone : s.request.contentLength? = none) :
  more = []
  := by
  have hdemand : demand d.service.config.maxRequestSize
      ((((new sink).run d fresh front).run world).1.buffer ++ read)
        = .serve (s.request.among more) s.bytes.length := by
    rw [hmore] at hroom ⊢
    apply demand_append (complete s (List.mem_of_getElem? hs)).request hroom
  have hprefix := served_prefix_run d fresh (new sink) (front ++ [read]) rest world
  rw [hserved, run_concat, receive_of_serve h.isOpen hread hdemand rfl, h.served] at hprefix
  -- The request was served with the bytes after it, and it is among those that were sent.
  obtain ⟨tail, htail⟩ := hprefix
  rw [List.append_assoc] at htail
  have hnth := List.append_cancel_left (htail.trans (List.take_append_drop _ requests).symm)
  rw [List.drop_eq_getElem?_toList_append, hs] at hnth
  have hrequest := congrArg Served.request (List.cons.inj hnth).1
  apply Request.among_eq_self_iff.1 hrequest hnone

/-- As long as all is served as it was sent, every read fits. -/
theorem Tracks.fits {front rest : List Bytes} {read : Bytes}
    (h : Tracks d fresh sink world requests front (((new sink).run d fresh front).run world))
    (hread : read ≠ []) (hcut : (front ++ [read]).flatten <+: bytesOf requests)
    (hserved :
      (((new sink).run d fresh (front ++ [read] ++ rest)).run world).1.served = requests) :
  Fits d.service.config.maxRequestSize requests front read
  := by
  obtain ⟨s, hs, hnext⟩ := h.next hread hcut
  obtain ⟨-, hlength⟩ := h.pending hcut
  have hroom := h.room hread (List.getElem?_eq_some_iff.1 hs).1 hserved
  constructor
  · omega
  · intro s' hs' hnone
    obtain rfl := Option.some.inj (hs.symm.trans hs')
    rw [length_bytesOf_take_add_one hs, hlength]
    apply Nat.add_le_add_left
    rcases hnext with ⟨more, hmore, -⟩ | ⟨back, -, hbytes, -⟩
    · obtain rfl := h.alone complete hread hs hmore hroom hserved hnone
      rw [hmore, List.append_nil]
    · rw [hbytes]
      apply (List.prefix_append _ back).length_le

end

/-- The reads up to one are a beginning of the requests. -/
theorem flatten_prefix {reads front back : List Bytes} {read : Bytes}
    (hcut : reads.flatten = bytesOf requests) (hsplit : reads = front ++ [read] ++ back) :
  (front ++ [read]).flatten <+: bytesOf requests
  := by
  use back.flatten
  rw [← hcut, hsplit, ← List.flatten_append]

/-- A run is tracked as far as its reads fit. -/
theorem tracks_run (alive : d.KeepsAlive)
    (complete : ∀ s ∈ requests, s.Complete d.service.config.maxRequestSize) {reads : List Bytes}
    (hreads : ∀ read ∈ reads, read ≠ []) (hcut : reads.flatten = bytesOf requests)
    (hsink : sink.TakesAll)
    (hfits : ∀ front read back, reads = front ++ [read] ++ back →
      Tracks d fresh sink world requests front (((new sink).run d fresh front).run world) →
      Fits d.service.config.maxRequestSize requests front read)
    {front back : List Bytes} (hsplit : reads = front ++ back) :
  Tracks d fresh sink world requests front (((new sink).run d fresh front).run world)
  := by
  induction front using List.reverseRecOn generalizing back with
  | nil => exact tracks_new hsink
  | append_singleton front read ih =>
    have h := ih (hsplit.trans (List.append_assoc _ _ _))
    rw [run_concat]
    apply h.step complete alive
    · apply hreads
      rw [hsplit]
      simp
    · apply flatten_prefix hcut hsplit
    · apply hfits front read back hsplit h

/-- When a dispatcher keeps connections alive, the complete requests whose bytes arrive in some
reads are served and answered, each with its own bytes and in order, exactly if the reads are
paced. -/
theorem run_eq_iff (alive : d.KeepsAlive)
    (complete : ∀ s ∈ requests, s.Complete d.service.config.maxRequestSize) {reads : List Bytes}
    (hreads : ∀ read ∈ reads, read ≠ []) (hcut : reads.flatten = bytesOf requests)
    (hsink : sink.TakesAll) :
  ((((new sink).run d fresh (reads ++ [[]])).run world).1.served = requests
      ∧ (d.respondAll fresh 0 (requests.map Served.request) sink).run world
        = ((((new sink).run d fresh (reads ++ [[]])).run world).1.sink,
          (((new sink).run d fresh (reads ++ [[]])).run world).2))
    ↔ Paced d.service.config.maxRequestSize requests reads
  := by
  have hbytes : ∀ s ∈ requests, s.bytes ≠ [] := fun s hs => (complete s hs).bytes_ne_nil
  have hwhole : reads = reads ++ [] := (List.append_nil reads).symm
  rw [run_concat, receive_nil.1, receive_nil.2.1, receive_nil.2.2]
  constructor
  · rintro ⟨hserved, -⟩
    have hfits : ∀ front read back, reads = front ++ [read] ++ back →
        Tracks d fresh sink world requests front (((new sink).run d fresh front).run world) →
        Fits d.service.config.maxRequestSize requests front read := by
      intro front read back hsplit h
      apply h.fits complete
      · apply hreads
        rw [hsplit]
        simp
      · apply flatten_prefix hcut hsplit
      · rw [← hsplit]
        exact hserved
    constructor
    · apply (le_answered_iff hbytes).1
      have h := tracks_run alive complete hreads hcut hsink hfits hwhole
      have hall := congrArg List.length (h.served.symm.trans hserved)
      rw [List.length_take] at hall
      omega
    · intro front read back hsplit
      apply hfits front read back hsplit
        (tracks_run alive complete hreads hcut hsink hfits (hsplit.trans (List.append_assoc _ _ _)))
  · intro hpaced
    have h : Tracks d fresh sink world requests reads (((new sink).run d fresh reads).run world) :=
      tracks_run alive complete hreads hcut hsink
        (fun front read back hsplit _ => hpaced.fits front read back hsplit) hwhole
    have hall := h.served
    rw [List.take_of_length_le ((le_answered_iff hbytes).2 hpaced.enough)] at hall
    have hanswers := h.answers
    rw [hall] at hanswers
    exact ⟨hall, hanswers⟩

/-! ### Two requests -/

/-- A dispatcher without routes. -/
def unrouted : Dispatcher Unit Unit where
  service :=
    { registry := .empty, handlers := .empty, before := [], after := [], translator := none
      hook := .logging, config := .default, metadata := () }
  routes := ⟨⟨[], .empty⟩, []⟩

theorem unrouted_keepsAlive :
  unrouted.KeepsAlive
  := by
  apply Dispatcher.keepsAlive_of_full
  intro fresh request world hkeep
  use Text.utf8 "Not Found", rfl
  change (request.keepAlive && true) = true
  rw [hkeep]
  rfl

/-- A request with a body of two bytes. -/
def greeting (path : String) : Served where
  request := ⟨⟨"PUT"⟩, path, 1, ⟨[("Content-Length", "2")]⟩, none, Text.utf8 "hi"⟩
  bytes := Text.utf8 ("PUT " ++ path ++ " HTTP/1.1\r\nContent-Length: 2\r\n\r\nhi")

/-- Two requests in a row. -/
def greetings : List Served := [greeting "/a", greeting "/b"]

/-- The bytes of the two requests in three reads, neither of which ends where a request does but the
last. -/
def greetingReads : List Bytes :=
  [(bytesOf greetings).take 20, ((bytesOf greetings).drop 20).take 30, (bytesOf greetings).drop 50]

theorem complete_greetings {s : Served} (h : s ∈ greetings) :
  s.Complete unrouted.service.config.maxRequestSize
  := by
  rw [greetings, List.mem_pair] at h
  rcases h with rfl | rfl
  · refine ⟨⟨38, ?_, ?_⟩, ?_, ?_⟩ <;> decide +kernel
  · refine ⟨⟨38, ?_, ?_⟩, ?_, ?_⟩ <;> decide +kernel

theorem run_eq_iff_greetings :
  (((new .unlimited).run unrouted toString (greetingReads ++ [[]])).run ⟨(), []⟩).1.served
      = greetings
    ∧ (unrouted.respondAll toString 0 (greetings.map Served.request) .unlimited).run ⟨(), []⟩
      = ((((new .unlimited).run unrouted toString (greetingReads ++ [[]])).run ⟨(), []⟩).1.sink,
        (((new .unlimited).run unrouted toString (greetingReads ++ [[]])).run ⟨(), []⟩).2)
  := by
  have hpaced : Paced unrouted.service.config.maxRequestSize greetings greetingReads := by
    decide +kernel
  apply (run_eq_iff unrouted_keepsAlive (fun s => complete_greetings) ?_ ?_ ⟨rfl, rfl⟩).2 hpaced
  · decide +kernel
  · decide +kernel

/-- The second of two requests that arrive in one read stays unanswered. -/
theorem run_one_read :
  (∀ s ∈ greetings, s.Complete unrouted.service.config.maxRequestSize)
    ∧ unrouted.KeepsAlive
    ∧ (((new .unlimited).run unrouted toString [bytesOf greetings, []]).run ⟨(), []⟩).1.served
      = [greeting "/a"]
  := ⟨fun _ => complete_greetings, unrouted_keepsAlive, by decide +kernel⟩

end HttpDispatch.Connection
