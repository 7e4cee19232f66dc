import HttpDispatch.Proofs.Connection.Pacing

/-!
# Pipelining

A client may send a request before the one before it is answered.  What a connection hands to its
dispatcher then depends on the bytes behind a request: a request that declares no length is handed
on with all that has arrived behind it, and each read has one request handed on.  Two runs in which
the same requests arrive hand on the same exactly if neither makes a difference: `handed_eq_iff`.
-/

namespace HttpDispatch

variable {σ μ : Type}

/-- The requests that are answered, one after the other as long as the connection stays open. -/
def Dispatcher.answerable (d : Dispatcher σ μ) (fresh : ℕ → String) (n : ℕ) :
    List Request → Sink → World σ → List Request
  | [], _, _ => []
  | request :: requests, sink, world =>
    let answer := (d.respond (fresh n) request sink).run world
    request :: if Connection.staysOpen answer.1.1 then
      d.answerable fresh (n + 1) requests answer.1.2 answer.2 else []

namespace Connection

/-- The requests handed to the dispatcher, in order. -/
def handed (c : Connection) : List Request := c.served.map Served.request

/-- The requests that reads hand on if the connection stays open, where `buffer` arrived before. -/
def offered (max : ℕ) (buffer : Bytes) : List Bytes → List Request
  | [] => []
  | read :: reads =>
    if read = [] then [] else
      match demand max (buffer ++ read) with
      | .wait => offered max (buffer ++ read) reads
      | .serve request length => request :: offered max ((buffer ++ read).drop length) reads
      | .refuse _ => []
      | .close => []

/-- What has arrived behind each of the requests when it is handed on, where `buffer` arrived
before the reads. -/
def behind (max : ℕ) (requests : List Served) (buffer : Bytes) : List Bytes → List Bytes
  | [] => []
  | read :: reads =>
    match requests with
    | [] => []
    | s :: rest =>
      if read = [] ∨ max < (buffer ++ read).length then []
      else if (buffer ++ read).length < s.bytes.length then
        behind max (s :: rest) (buffer ++ read) reads
      else
        (buffer ++ read).drop s.bytes.length
          :: behind max rest ((buffer ++ read).drop s.bytes.length) reads

/-- The requests as they are read with what is behind them. -/
def amongAll (requests : List Served) (behinds : List Bytes) : List Request :=
  requests.zipWith (fun s more => s.request.among more) behinds

end Connection

namespace Dispatcher

variable (d : Dispatcher σ μ) (fresh : ℕ → String) (n : ℕ) (requests : List Request) (sink : Sink)
  (world : World σ)

theorem answerable_prefix :
  d.answerable fresh n requests sink world <+: requests
  := by
  induction requests generalizing n sink world with
  | nil => exact List.prefix_rfl
  | cons request requests ih =>
    rw [answerable, List.prefix_cons_inj]
    split
    · apply ih
    · apply List.nil_prefix

theorem take_answerable (k : ℕ) :
  (d.answerable fresh n requests sink world).take k
    = d.answerable fresh n (requests.take k) sink world
  := by
  induction requests generalizing k n sink world with
  | nil => rw [List.take_nil, answerable, List.take_nil]
  | cons request requests ih =>
    cases k with
    | zero => rfl
    | succ k =>
      rw [List.take_succ_cons, answerable, answerable, List.take_succ_cons]
      split
      · rw [ih]
      · rw [List.take_nil]

/-- The first requests are all answered if as many are answered at all. -/
theorem take_answerable_of_le {k : ℕ} (h : k ≤ (d.answerable fresh n requests sink world).length) :
  (d.answerable fresh n requests sink world).take k = requests.take k
  := by
  have hprefix := d.answerable_prefix fresh n requests sink world
  rw [List.prefix_iff_eq_take.1 hprefix, List.take_take, Nat.min_eq_left h]

end Dispatcher

namespace Connection

variable {d : Dispatcher σ μ} {fresh : ℕ → String}

theorem run_cons (c : Connection) (read : Bytes) (reads : List Bytes) (world : World σ) :
  (c.run d fresh (read :: reads)).run world
    = ((((c.receive d (fresh c.served.length) read).run world).1).run d fresh reads).run
        ((c.receive d (fresh c.served.length) read).run world).2
  := rfl

theorem run_of_closed {c : Connection} (h : c.isOpen = false) (reads : List Bytes)
    (world : World σ) :
  (c.run d fresh reads).run world = (c, world)
  := by
  have hnil : ((c.run d fresh []).run world).1.isOpen = false := h
  exact run_append_of_closed hnil reads

/-- What is handed to the dispatcher is what the reads offer, as long as the connection stays
open. -/
theorem handed_run (c : Connection) (reads : List Bytes) (world : World σ) :
  ((c.run d fresh reads).run world).1.handed
    = c.handed ++ if c.isOpen then
        d.answerable fresh c.served.length
          (offered d.service.config.maxRequestSize c.buffer reads) c.sink world
      else []
  := by
  induction reads generalizing c world with
  | nil =>
    rw [offered, Dispatcher.answerable, ite_self]
    exact (List.append_nil _).symm
  | cons read reads ih =>
    cases hopen : c.isOpen with
    | false =>
      rw [run_of_closed hopen]
      exact (List.append_nil _).symm
    | true =>
      rw [run_cons, offered, if_pos rfl]
      by_cases hread : read = []
      · rw [if_pos hread, hread, ih, receive_of_nil hopen]
        rfl
      rw [if_neg hread]
      cases hdemand : demand d.service.config.maxRequestSize (c.buffer ++ read) with
      | wait =>
        rw [receive_of_wait hopen hread hdemand, ih]
        exact congrArg _ (if_pos hopen)
      | refuse response =>
        rw [run_of_closed (receive_of_refuse hopen hread hdemand).1, handed,
          (receive_of_refuse hopen hread hdemand).2]
        exact (List.append_nil _).symm
      | close =>
        rw [receive_of_close hopen hread hdemand, run_of_closed rfl]
        exact (List.append_nil _).symm
      | serve request length =>
        rcases hrespond : (d.respond (fresh c.served.length) request c.sink).run world
          with ⟨⟨result, sink⟩, world'⟩
        rw [receive_of_serve hopen hread hdemand hrespond, ih, Dispatcher.answerable, hrespond]
        simp [handed]

/-! ### Requests in a row -/

variable {requests : List Served} {max : ℕ}

/-- The requests whose bytes arrive are offered with what is behind them. -/
theorem take_offered (whole : ∀ s ∈ requests, s.Whole) {buffer : Bytes} {reads : List Bytes}
    (hcut : bytesOf requests <+: buffer ++ reads.flatten) :
  (offered max buffer reads).take requests.length
    = amongAll requests (behind max requests buffer reads)
  := by
  induction reads generalizing requests buffer with
  | nil => simp [offered, behind, amongAll]
  | cons read reads ih =>
    cases requests with
    | nil => rfl
    | cons s rest =>
      rw [List.forall_mem_cons] at whole
      rw [offered, behind]
      by_cases hread : read = []
      · rw [if_pos hread, if_pos (.inl hread)]
        rfl
      by_cases hmax : max < (buffer ++ read).length
      · rw [if_neg hread, if_pos (.inr hmax), demand_of_lt hmax]
        rfl
      rw [if_neg hread, if_neg (not_or.2 ⟨hread, hmax⟩)]
      rw [List.flatten_cons, ← List.append_assoc] at hcut
      -- The bytes of the request and those that have arrived are both the beginning of all that
      -- arrives, so that one is the beginning of the other.
      have hs : s.bytes <+: buffer ++ read ++ reads.flatten :=
        (List.prefix_append _ (bytesOf rest)).trans hcut
      have harrived : buffer ++ read <+: buffer ++ read ++ reads.flatten := List.prefix_append ..
      by_cases hlength : (buffer ++ read).length < s.bytes.length
      · obtain ⟨back, hback⟩ := List.prefix_of_prefix_length_le harrived hs (Nat.le_of_lt hlength)
        have hne : back ≠ [] := by
          rintro rfl
          rw [← hback, List.append_nil] at hlength
          exact Nat.lt_irrefl _ hlength
        rw [if_pos hlength, demand_front whole.1 hback.symm hne (Nat.le_of_not_lt hmax)]
        exact ih (List.forall_mem_cons.2 whole) hcut
      · obtain ⟨more, hmore⟩ :=
          List.prefix_of_prefix_length_le hs harrived (Nat.le_of_not_lt hlength)
        rw [← hmore] at hmax hcut ⊢
        rw [bytesOf_cons, List.append_assoc, List.prefix_append_right_inj] at hcut
        rw [if_neg (by simp), demand_append whole.1 (Nat.le_of_not_lt hmax)]
        simp only [List.drop_left]
        exact congrArg (s.request.among more :: ·) (ih whole.2 hcut)

/-! ### Two runs -/

/-- What is behind the request at a place does not change the request, or is the same. -/
def Alike (requests : List Served) (behinds behinds' : List Bytes) (i : ℕ) : Prop :=
  ∀ s ∈ requests[i]?, s.request.contentLength? = none → behinds[i]? = behinds'[i]?

instance (requests : List Served) (behinds behinds' : List Bytes) (i : ℕ) :
    Decidable (Alike requests behinds behinds' i) :=
  inferInstanceAs (Decidable (∀ s ∈ requests[i]?, _))

theorem length_amongAll (requests : List Served) (behinds : List Bytes) :
  (amongAll requests behinds).length = min requests.length behinds.length
  := List.length_zipWith

theorem getElem?_amongAll_eq_iff {behinds behinds' : List Bytes} {i : ℕ}
    (hi : i < requests.length) (hbehind : i < behinds.length) (hbehind' : i < behinds'.length) :
  (amongAll requests behinds')[i]? = (amongAll requests behinds)[i]?
    ↔ Alike requests behinds behinds' i
  := by
  have hs := List.getElem?_eq_getElem hi
  have hmore := List.getElem?_eq_getElem hbehind
  have hmore' := List.getElem?_eq_getElem hbehind'
  rw [amongAll, amongAll, List.getElem?_zipWith, List.getElem?_zipWith, Alike, hs, hmore, hmore']
  simp [Request.among_eq_among_iff, eq_comm]

theorem take_amongAll_eq_iff {behinds behinds' : List Bytes} {n : ℕ}
    (hn : n ≤ requests.length) (hbehind : n ≤ behinds.length) (hbehind' : n ≤ behinds'.length) :
  (amongAll requests behinds').take n = (amongAll requests behinds).take n
    ↔ ∀ i < n, Alike requests behinds behinds' i
  := by
  rw [List.ext_getElem?_iff]
  apply forall_congr'
  intro i
  by_cases hi : i < n
  · rw [List.getElem?_take_of_lt hi, List.getElem?_take_of_lt hi, forall_prop_of_true hi]
    apply getElem?_amongAll_eq_iff <;> omega
  · simp [hi]

theorem le_length_of_take_eq {xs ys : List Request} {n : ℕ} (h : xs.take n = ys.take n)
    (hn : n ≤ xs.length) :
  n ≤ ys.length
  := by
  have hlength := congrArg List.length h
  rw [List.length_take, List.length_take, Nat.min_eq_left hn] at hlength
  omega

variable {sink : Sink} {world : World σ}

/-- What a new connection hands to its dispatcher in some reads. -/
def handedIn (d : Dispatcher σ μ) (fresh : ℕ → String) (sink : Sink) (world : World σ)
    (reads : List Bytes) : List Request :=
  (((new sink).run d fresh reads).run world).1.handed

/-- What has arrived behind each of the requests when a new connection hands it on. -/
def behindIn (d : Dispatcher σ μ) (requests : List Served) (reads : List Bytes) : List Bytes :=
  behind d.service.config.maxRequestSize requests [] reads

/-- Of the requests whose bytes arrive, those are handed on that are answered. -/
theorem take_handedIn (whole : ∀ s ∈ requests, s.Whole) {reads : List Bytes}
    (hcut : bytesOf requests <+: reads.flatten) {n : ℕ} (hn : n ≤ requests.length) :
  (handedIn d fresh sink world reads).take n
    = (d.answerable fresh 0 (amongAll requests (behindIn d requests reads)) sink world).take n
  := by
  have hhanded : handedIn d fresh sink world reads
      = d.answerable fresh 0 (offered d.service.config.maxRequestSize [] reads) sink world :=
    handed_run (new sink) reads world
  rw [hhanded, behindIn, ← take_offered whole hcut, ← d.take_answerable, List.take_take,
    Nat.min_eq_left hn]

/-- As many as are handed on are read with what is behind them. -/
theorem take_handedIn_of_le (whole : ∀ s ∈ requests, s.Whole) {reads : List Bytes}
    (hcut : bytesOf requests <+: reads.flatten) {n : ℕ} (hn : n ≤ requests.length)
    (hhanded : n ≤ (handedIn d fresh sink world reads).length) :
  n ≤ (behindIn d requests reads).length
    ∧ (handedIn d fresh sink world reads).take n
      = (amongAll requests (behindIn d requests reads)).take n
  := by
  have htake : (handedIn d fresh sink world reads).take n = _ := take_handedIn whole hcut hn
  rw [htake]
  generalize behindIn d requests reads = behinds at htake
  have hanswerable := le_length_of_take_eq htake hhanded
  constructor
  · have hle := (d.answerable_prefix fresh 0 (amongAll requests behinds) sink world).length_le
    rw [length_amongAll] at hle
    omega
  · apply d.take_answerable_of_le _ _ _ _ _ hanswerable

theorem getElem?_handedIn (whole : ∀ s ∈ requests, s.Whole) {reads : List Bytes}
    (hcut : bytesOf requests <+: reads.flatten) {i : ℕ} (hi : i < requests.length)
    (hhanded : i < (handedIn d fresh sink world reads).length) :
  i < (behindIn d requests reads).length
    ∧ (handedIn d fresh sink world reads)[i]?
      = (amongAll requests (behindIn d requests reads))[i]?
  := by
  obtain ⟨hbehind, htake⟩ := take_handedIn_of_le whole hcut hi hhanded
  have hlast := Nat.lt_succ_self i
  use hbehind
  rw [← List.getElem?_take_of_lt hlast, htake, List.getElem?_take_of_lt hlast]

/-- A request that declares its length is handed on as it was sent, if it is handed on, whatever
arrives behind it and in whatever reads. -/
theorem getElem?_handedIn_of_declared (whole : ∀ s ∈ requests, s.Whole) {reads : List Bytes}
    (hcut : bytesOf requests <+: reads.flatten) {i : ℕ} {s : Served} (hs : requests[i]? = some s)
    (hdeclared : s.request.contentLength? ≠ none)
    (hhanded : i < (handedIn d fresh sink world reads).length) :
  (handedIn d fresh sink world reads)[i]? = some s.request
  := by
  have hi := (List.getElem?_eq_some_iff.1 hs).1
  obtain ⟨hbehind, hat⟩ := getElem?_handedIn whole hcut hi hhanded
  rw [hat, amongAll, List.getElem?_zipWith, hs, List.getElem?_eq_getElem hbehind]
  apply congrArg some
  apply Request.among_eq_self_iff.2
  intro hnone
  exact absurd hnone hdeclared

/-- Of the requests whose bytes arrive in two runs, and of which the first run hands on at least
`n`, the second run hands on the same `n` exactly if its reads get so far, and behind none of them
that declares no length has anything else arrived.  In whatever state the second run starts, the
request at a place where both runs hand one on is the same exactly if that is so of it. -/
theorem handed_eq_iff (whole : ∀ s ∈ requests, s.Whole) {reads reads' : List Bytes}
    (hcut : bytesOf requests <+: reads.flatten) (hcut' : bytesOf requests <+: reads'.flatten)
    {n : ℕ} (hn : n ≤ requests.length)
    (hhanded : n ≤ (handedIn d fresh sink world reads).length) :
  ((handedIn d fresh sink world reads').take n = (handedIn d fresh sink world reads).take n
      ↔ n ≤ (behindIn d requests reads').length
        ∧ ∀ i < n, Alike requests (behindIn d requests reads) (behindIn d requests reads') i)
    ∧ ∀ fresh' sink' world', ∀ i < n, i < (handedIn d fresh' sink' world' reads').length →
      ((handedIn d fresh' sink' world' reads')[i]? = (handedIn d fresh sink world reads)[i]?
        ↔ Alike requests (behindIn d requests reads) (behindIn d requests reads') i)
  := by
  obtain ⟨hbehind, htake⟩ := take_handedIn_of_le whole hcut hn hhanded
  constructor
  · constructor
    · intro hsame
      obtain ⟨hbehind', htake'⟩ :=
        take_handedIn_of_le whole hcut' hn (le_length_of_take_eq hsame.symm hhanded)
      use hbehind'
      rw [htake, htake'] at hsame
      apply (take_amongAll_eq_iff hn hbehind hbehind').1 hsame
    · rintro ⟨hbehind', halike⟩
      have hsame := (take_amongAll_eq_iff hn hbehind hbehind').2 halike
      rw [take_handedIn whole hcut' hn, take_handedIn whole hcut hn, d.take_answerable, hsame,
        ← d.take_answerable]
  · intro fresh' sink' world' i hi hhanded'
    have hi' := Nat.lt_of_lt_of_le hi hn
    obtain ⟨hbehind, hat⟩ := getElem?_handedIn whole hcut hi' (Nat.lt_of_lt_of_le hi hhanded)
    obtain ⟨hbehind', hat'⟩ := getElem?_handedIn whole hcut' hi' hhanded'
    rw [hat, hat']
    apply getElem?_amongAll_eq_iff hi' hbehind hbehind'

/-- A request that declares no length. -/
def question : Served where
  request := ⟨⟨"GET"⟩, "/q", 1, .empty, none, []⟩
  bytes := Text.utf8 "GET /q HTTP/1.1\r\n\r\n"

theorem whole_question :
  question.Whole
  := by
  refine ⟨19, ?_, ?_⟩ <;> decide +kernel

/-- A question, a greeting and the beginning of a request, in two reads. -/
def questionReads : List Bytes :=
  [question.bytes, (greeting "/b").bytes ++ Text.utf8 "GET /x"]

/-- A question, a greeting and the beginning of another request, in four reads. -/
def slowQuestionReads : List Bytes :=
  [question.bytes.take 5, question.bytes.drop 5, (greeting "/b").bytes.take 20,
    (greeting "/b").bytes.drop 20 ++ Text.utf8 "PUT /yy"]

theorem handed_eq_iff_questions :
  (handedIn unrouted toString .unlimited ⟨(), []⟩ slowQuestionReads).take 2
      = (handedIn unrouted toString .unlimited ⟨(), []⟩ questionReads).take 2
    ∧ (handedIn unrouted toString .unlimited ⟨(), []⟩ slowQuestionReads).take 2
      = [question.request, (greeting "/b").request]
  := by
  have whole : ∀ s ∈ [question, greeting "/b"], s.Whole := by
    intro s hs
    rcases List.mem_pair.1 hs with rfl | rfl
    · exact whole_question
    · refine ⟨38, ?_, ?_⟩ <;> decide +kernel
  constructor
  · apply (handed_eq_iff whole ?_ ?_ ?_ ?_).1.2
    · decide +kernel
    · decide +kernel
    · decide +kernel
    · decide +kernel
    · decide +kernel
  · decide +kernel

/-- A question is handed on with the request behind it as its body if that arrives with it. -/
theorem handed_question :
  question.Whole
    ∧ handedIn unrouted toString .unlimited ⟨(), []⟩ [question.bytes] = [question.request]
    ∧ handedIn unrouted toString .unlimited ⟨(), []⟩ [question.bytes ++ (greeting "/b").bytes]
      = [{ question.request with body := (greeting "/b").bytes }]
  := ⟨whole_question, by decide +kernel, by decide +kernel⟩

end Connection

end HttpDispatch
