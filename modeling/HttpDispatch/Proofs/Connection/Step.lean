import HttpDispatch.Connection
import HttpDispatch.Proofs.Dispatch.Responding
import HttpDispatch.Proofs.Http.Request
import Mathlib.Data.List.Induction
import Mathlib.Data.List.Infix

/-!
# Steps of a connection

What an arrival of bytes does, told by what the bytes call for, and what a complete request at the
beginning of the bytes calls for.  What was served stays served.
-/

namespace HttpDispatch

/-- The bytes are those of the request: its head, and as many more as it declares. -/
def Served.Whole (s : Served) : Prop :=
  ∃ headLength, Request.Complete s.bytes s.request headLength

/-- A complete request of at most `max` bytes, whose client keeps the connection open. -/
structure Served.Complete (max : ℕ) (s : Served) : Prop where
  request : ∃ headLength, Request.Complete s.bytes s.request headLength
  keepAlive : s.request.keepAlive = true
  fits : s.bytes.length ≤ max

theorem Served.Whole.bytes_ne_nil {s : Served} (h : s.Whole) :
  s.bytes ≠ []
  := by
  obtain ⟨headLength, hread, -⟩ := h
  intro hnil
  rw [hnil] at hread
  cases hread

theorem Served.Complete.bytes_ne_nil {max : ℕ} {s : Served} (h : s.Complete max) :
  s.bytes ≠ []
  := Served.Whole.bytes_ne_nil h.request

namespace Connection

/-! ### Demands -/

theorem demand_of_lt {max : ℕ} {buffer : Bytes} (h : max < buffer.length) :
  demand max buffer = .refuse tooLarge
  := by
  rw [demand, if_pos h]

/-- A complete request is served, with all that follows it if it declares no length. -/
theorem demand_append {max : ℕ} {s : Served} (h : s.Whole) {more : Bytes}
    (hmax : (s.bytes ++ more).length ≤ max) :
  demand max (s.bytes ++ more) = .serve (s.request.among more) s.bytes.length
  := by
  obtain ⟨headLength, hcomplete⟩ := h
  rw [demand, if_neg (Nat.not_lt_of_le hmax), hcomplete.read_append]
  simp only [Request.contentLength?_among, hcomplete.length]
  rw [if_neg (by rw [List.length_append]; omega)]

/-- A request of which a part has yet to arrive is waited for. -/
theorem demand_front {max : ℕ} {s : Served} (h : s.Whole) {front back : Bytes}
    (hbytes : s.bytes = front ++ back) (hback : back ≠ []) (hmax : front.length ≤ max) :
  demand max front = .wait
  := by
  obtain ⟨headLength, hcomplete⟩ := h
  rw [hbytes] at hcomplete
  have hback := List.length_pos_iff.2 hback
  rw [demand, if_neg (Nat.not_lt_of_le hmax)]
  rcases hcomplete.read_front with hread | ⟨r, hread, hr⟩
  · rw [hread]
  · have hlength := hcomplete.length
    rw [List.length_append] at hlength
    rw [hread]
    simp only [hr]
    rw [if_pos (by omega)]

/-! ### Arrivals -/

variable {σ μ : Type} {d : Dispatcher σ μ} {fresh : String} {c : Connection} {arrived : Bytes}
  {world : World σ}

theorem receive_of_closed (h : c.isOpen = false) :
  (c.receive d fresh arrived).run world = (c, world)
  := by
  rw [receive, h]
  rfl

theorem receive_of_nil (hopen : c.isOpen = true) :
  (c.receive d fresh []).run world = ({ c with isOpen := false }, world)
  := by
  rw [receive, hopen]
  rfl

theorem receive_nil :
  ((c.receive d fresh []).run world).1.served = c.served
    ∧ ((c.receive d fresh []).run world).1.sink = c.sink
    ∧ ((c.receive d fresh []).run world).2 = world
  := by
  rw [receive]
  cases c.isOpen
  · exact ⟨rfl, rfl, rfl⟩
  · exact ⟨rfl, rfl, rfl⟩

theorem receive_of_wait (hopen : c.isOpen = true) (harrived : arrived ≠ [])
    (h : demand d.service.config.maxRequestSize (c.buffer ++ arrived) = .wait) :
  (c.receive d fresh arrived).run world = ({ c with buffer := c.buffer ++ arrived }, world)
  := by
  rw [receive, hopen, List.isEmpty_eq_false_iff.2 harrived]
  simp only [Bool.not_true, Bool.false_eq_true, if_false, h]
  rfl

/-- A response that refuses the bytes is the last one. -/
theorem receive_of_refuse (hopen : c.isOpen = true) (harrived : arrived ≠ [])
    {response : Response}
    (h : demand d.service.config.maxRequestSize (c.buffer ++ arrived) = .refuse response) :
  ((c.receive d fresh arrived).run world).1.isOpen = false
    ∧ ((c.receive d fresh arrived).run world).1.served = c.served
  := by
  rw [receive, hopen, List.isEmpty_eq_false_iff.2 harrived]
  simp only [Bool.not_true, Bool.false_eq_true, if_false, h]
  exact ⟨rfl, rfl⟩

theorem receive_of_close (hopen : c.isOpen = true) (harrived : arrived ≠ [])
    (h : demand d.service.config.maxRequestSize (c.buffer ++ arrived) = .close) :
  (c.receive d fresh arrived).run world
    = ({ c with buffer := c.buffer ++ arrived, isOpen := false }, world)
  := by
  rw [receive, hopen, List.isEmpty_eq_false_iff.2 harrived]
  simp only [Bool.not_true, Bool.false_eq_true, if_false, h]
  rfl

/-- Whether the connection stays open after an answer. -/
def staysOpen : Except DeliveryError Delivered → Bool
  | .ok delivered => delivered.keepAlive
  | .error _ => false

/-- A request that is served is answered, and its bytes are taken off. -/
theorem receive_of_serve (hopen : c.isOpen = true) (harrived : arrived ≠ []) {request : Request}
    {length : ℕ}
    (h : demand d.service.config.maxRequestSize (c.buffer ++ arrived) = .serve request length)
    {result : Except DeliveryError Delivered} {sink : Sink} {world' : World σ}
    (hrespond : (d.respond fresh request c.sink).run world = ((result, sink), world')) :
  (c.receive d fresh arrived).run world
    = (⟨(c.buffer ++ arrived).drop length, sink, staysOpen result,
        c.served ++ [⟨request, (c.buffer ++ arrived).take length⟩]⟩, world')
  := by
  rw [receive, hopen, List.isEmpty_eq_false_iff.2 harrived]
  simp only [Bool.not_true, Bool.false_eq_true, if_false, h]
  rw [StateT.run_bind, hrespond]
  rfl

/-- What was served stays served. -/
theorem served_prefix_receive :
  c.served <+: ((c.receive d fresh arrived).run world).1.served
  := by
  cases hopen : c.isOpen with
  | false =>
    rw [receive_of_closed hopen]
  | true =>
    by_cases harrived : arrived = []
    · rw [harrived, receive_nil.1]
    · cases h : demand d.service.config.maxRequestSize (c.buffer ++ arrived) with
      | wait =>
        rw [receive_of_wait hopen harrived h]
      | refuse response =>
        rw [(receive_of_refuse hopen harrived h).2]
      | serve request length =>
        rw [receive_of_serve hopen harrived h rfl]
        apply List.prefix_append
      | close =>
        rw [receive_of_close hopen harrived h]

/-! ### Runs -/

theorem run_append (d : Dispatcher σ μ) (fresh : ℕ → String) (c : Connection)
    (front back : List Bytes) :
  c.run d fresh (front ++ back) = (do
    let c ← c.run d fresh front
    c.run d fresh back)
  := by
  induction front generalizing c with
  | nil => simp [run]
  | cons arrived front ih => simp [run, ih]

theorem run_concat (d : Dispatcher σ μ) (fresh : ℕ → String) (c : Connection)
    (front : List Bytes) (arrived : Bytes) (world : World σ) :
  (c.run d fresh (front ++ [arrived])).run world
    = (((c.run d fresh front).run world).1.receive d
        (fresh ((c.run d fresh front).run world).1.served.length) arrived).run
          ((c.run d fresh front).run world).2
  := by
  rw [run_append, StateT.run_bind]
  generalize (c.run d fresh front).run world = after
  obtain ⟨c', world'⟩ := after
  simp only [run, bind_pure]
  rfl

/-- What was served stays served, however much arrives after it. -/
theorem served_prefix_run (d : Dispatcher σ μ) (fresh : ℕ → String) (c : Connection)
    (front back : List Bytes) (world : World σ) :
  ((c.run d fresh front).run world).1.served
    <+: ((c.run d fresh (front ++ back)).run world).1.served
  := by
  induction back using List.reverseRecOn with
  | nil =>
    rw [List.append_nil]
  | append_singleton back arrived ih =>
    rw [← List.append_assoc, run_concat]
    apply ih.trans served_prefix_receive

/-- A closed connection stays as it is. -/
theorem run_append_of_closed {d : Dispatcher σ μ} {fresh : ℕ → String} {c : Connection}
    {front : List Bytes} {world : World σ}
    (h : ((c.run d fresh front).run world).1.isOpen = false) (back : List Bytes) :
  (c.run d fresh (front ++ back)).run world = (c.run d fresh front).run world
  := by
  induction back using List.reverseRecOn with
  | nil => rw [List.append_nil]
  | append_singleton back arrived ih =>
    rw [← List.append_assoc, run_concat, ih, receive_of_closed h]
    rfl

end Connection

end HttpDispatch
