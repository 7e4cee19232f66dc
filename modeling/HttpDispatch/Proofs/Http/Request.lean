import HttpDispatch.Http.Request
import HttpDispatch.Proofs.Http.Head

/-!
# Arriving requests

A request with a declared length is read the same whatever follows it; one without takes in all
that has arrived.  Before a request is complete, nothing is read, or a request that lacks a part of
its body.
-/

namespace HttpDispatch.Request

/-- The request as it is read when more bytes follow: without a declared length they belong to its
body. -/
def among (r : Request) (more : Bytes) : Request :=
  match r.contentLength? with
  | some _ => r
  | none => { r with body := r.body ++ more }

theorem contentLength?_among (r : Request) (more : Bytes) :
  (r.among more).contentLength? = r.contentLength?
  := by
  rw [among]
  split <;> rfl

/-- What follows a request changes it if it declares no length. -/
theorem among_eq_self_iff {r : Request} {more : Bytes} :
  r.among more = r ↔ r.contentLength? = none → more = []
  := by
  rw [among]
  cases hlength : r.contentLength? with
  | some n => simp
  | none =>
    simp only [forall_const]
    constructor
    · intro h
      simpa using congrArg Request.body h
    · rintro rfl
      rw [List.append_nil]

/-- A request that declares a length is read the same, whatever follows it. -/
theorem among_eq_among_iff {r : Request} {more more' : Bytes} :
  r.among more = r.among more' ↔ (r.contentLength? = none → more = more')
  := by
  rw [among, among]
  cases r.contentLength? with
  | some n => simp
  | none =>
    simp only [forall_const]
    constructor
    · intro h
      apply List.append_cancel_left (congrArg Request.body h)
    · rintro rfl
      rfl

/-! ### After the head -/

/-- The request with a head of the given length, and with the rest of what has arrived. -/
def ofRest (head : Head) (headLength : ℕ) (rest : Bytes) : ReadResult :=
  match (headersOf head.fields).get? "content-length" with
  | none => .request (ofHead head rest) headLength
  | some value =>
    match declaredLength value with
    | .error _ => .error (.invalidContentLength value)
    | .ok n =>
      if maxLength < headLength + n then .overflow
      else .request (ofHead head (rest.take n)) headLength

theorem read_of_done {bs rest : Bytes} {head : Head} (h : Head.read bs = .done head rest) :
  read bs = ofRest head (bs.length - rest.length) rest
  := by
  rw [read, h]
  rfl

theorem of_read {bs : Bytes} {r : Request} {headLength : ℕ}
    (h : read bs = .request r headLength) :
  ∃ head rest, Head.read bs = .done head rest
  := by
  rw [read] at h
  split at h
  · exact nomatch h
  · exact nomatch h
  · exact ⟨_, _, ‹_›⟩

/-- The declared length is that of the headers, whatever the body. -/
theorem contentLength?_ofHead (head : Head) (body : Bytes) :
  (ofHead head body).contentLength?
    = ((headersOf head.fields).get? "content-length").bind fun value =>
        (declaredLength value).toOption
  := by
  rw [contentLength?, ofHead]
  simp only
  split <;> rename_i h <;> rw [h] <;> rfl

theorem headLength_of_ofRest {head : Head} {n headLength : ℕ} {rest : Bytes} {r : Request}
    (h : ofRest head n rest = .request r headLength) :
  headLength = n
  := by
  rw [ofRest] at h
  split at h
  · apply (ReadResult.request.inj h).2.symm
  · split at h
    · exact nomatch h
    · split at h
      · exact nomatch h
      · apply (ReadResult.request.inj h).2.symm

/-- What follows a complete body belongs to it only if no length is declared. -/
theorem ofRest_append {head : Head} {n headLength : ℕ} {rest : Bytes} {r : Request}
    (h : ofRest head n rest = .request r headLength)
    (hrest : r.contentLength?.getD 0 = rest.length) (more : Bytes) :
  ofRest head n (rest ++ more) = .request (r.among more) headLength
  := by
  rw [ofRest] at h ⊢
  split at h
  · rename_i hnone
    obtain ⟨rfl, rfl⟩ := ReadResult.request.inj h
    have hlength := contentLength?_ofHead head rest
    rw [hnone] at hlength
    rw [among, hlength]
    rfl
  · rename_i value hvalue
    split at h
    · exact nomatch h
    · rename_i m hm
      split at h
      · exact nomatch h
      · rename_i hmax
        obtain ⟨rfl, rfl⟩ := ReadResult.request.inj h
        have hlength := contentLength?_ofHead head (rest.take m)
        rw [hvalue, Option.bind_some, hm] at hlength
        rw [hlength] at hrest
        obtain rfl : m = rest.length := hrest
        rw [if_neg hmax, among, hlength, List.take_left, List.take_length]
        rfl

/-- A body of which a part has arrived is that of a request with the same declared length. -/
theorem ofRest_front {head : Head} {n headLength : ℕ} {front back : Bytes} {r : Request}
    (h : ofRest head n (front ++ back) = .request r headLength) :
  ∃ r', ofRest head n front = .request r' headLength ∧ r'.contentLength? = r.contentLength?
  := by
  rw [ofRest] at h ⊢
  split at h
  · obtain ⟨rfl, rfl⟩ := ReadResult.request.inj h
    use ofHead head front, rfl
    rw [contentLength?_ofHead, contentLength?_ofHead]
  · split at h
    · exact nomatch h
    · rename_i m _
      split at h
      · exact nomatch h
      · rename_i hmax
        obtain ⟨rfl, rfl⟩ := ReadResult.request.inj h
        use ofHead head (front.take m), if_neg hmax
        rw [contentLength?_ofHead, contentLength?_ofHead]

/-! ### Complete requests -/

/-- The bytes are a request, with its body up to the end. -/
structure Complete (bytes : Bytes) (r : Request) (headLength : ℕ) : Prop where
  read : Request.read bytes = .request r headLength
  length : headLength + r.contentLength?.getD 0 = bytes.length

/-- A complete request is read off the bytes that have arrived. -/
theorem Complete.read_append {bytes : Bytes} {r : Request} {headLength : ℕ}
    (h : Complete bytes r headLength) (more : Bytes) :
  Request.read (bytes ++ more) = .request (r.among more) headLength
  := by
  obtain ⟨head, rest, hhead⟩ := of_read h.read
  have hread := h.read
  rw [read_of_done hhead] at hread
  have hmore : Head.read (bytes ++ more) = .done head (rest ++ more) := by
    rw [(Head.steady_read bytes).extend more (by simp [hhead]), hhead]
    rfl
  have hle := ((Head.steady_read bytes).suffix head rest hhead).length_le
  have hlength := headLength_of_ofRest hread
  have hbody := h.length
  rw [read_of_done hmore, List.length_append, List.length_append, Nat.add_sub_add_right]
  apply ofRest_append hread
  omega

/-- Before a request is complete, its head is, or not even that. -/
theorem Complete.read_front {front back : Bytes} {r : Request} {headLength : ℕ}
    (h : Complete (front ++ back) r headLength) :
  Request.read front = .error .incomplete
    ∨ ∃ r', Request.read front = .request r' headLength ∧ r'.contentLength? = r.contentLength?
  := by
  obtain ⟨head, rest, hhead⟩ := of_read h.read
  have hread := h.read
  rw [read_of_done hhead] at hread
  cases hfront : Head.read front with
  | incomplete =>
    left
    rw [Request.read, hfront]
  | failed e =>
    have hextend := (Head.steady_read front).extend back (by simp [hfront])
    rw [hhead, hfront] at hextend
    exact nomatch hextend
  | done head' rest' =>
    have hextend := (Head.steady_read front).extend back (by simp [hfront])
    rw [hhead, hfront] at hextend
    obtain ⟨rfl, rfl⟩ := Scan.done.inj hextend
    right
    rw [List.length_append, List.length_append, Nat.add_sub_add_right] at hread
    rw [read_of_done hfront]
    apply ofRest_front hread

end HttpDispatch.Request
