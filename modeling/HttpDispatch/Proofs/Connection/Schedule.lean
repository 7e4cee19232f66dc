import HttpDispatch.Connection
import Mathlib.Data.List.Induction
import Mathlib.Algebra.Order.Group.Nat

/-!
# Schedules

A client sends requests one after the other, and their bytes arrive in reads.  Every read has at
most one request answered, so that reads which hold several requests may leave some of them
unanswered.  Reads that do not are paced: `Paced`.
-/

namespace HttpDispatch.Connection

/-! ### Requests and reads -/

/-- The bytes of requests in a row. -/
def bytesOf (requests : List Served) : Bytes := (requests.map Served.bytes).flatten

/-- How many requests are complete when `n` bytes of them have arrived. -/
def completeIn : List Served → ℕ → ℕ
  | [], _ => 0
  | s :: requests, n =>
    if s.bytes.length ≤ n then completeIn requests (n - s.bytes.length) + 1 else 0

/-- How many requests are answered after more reads, one at each read if it is complete, where
`arrived` bytes came before them and `n` requests were answered. -/
def answeredFrom (requests : List Served) (arrived n : ℕ) : List Bytes → ℕ
  | [] => n
  | read :: reads =>
    answeredFrom requests (arrived + read.length)
      (min (n + 1) (completeIn requests (arrived + read.length))) reads

/-- How many requests are answered after some reads. -/
def answered (requests : List Served) (reads : List Bytes) : ℕ := answeredFrom requests 0 0 reads

theorem bytesOf_cons (s : Served) (requests : List Served) :
  bytesOf (s :: requests) = s.bytes ++ bytesOf requests
  := rfl

theorem bytesOf_singleton (s : Served) :
  bytesOf [s] = s.bytes
  := List.append_nil s.bytes

theorem bytesOf_append (requests more : List Served) :
  bytesOf (requests ++ more) = bytesOf requests ++ bytesOf more
  := by
  rw [bytesOf, List.map_append, List.flatten_append]
  rfl

theorem le_completeIn_iff {requests : List Served} {k n : ℕ} :
  k ≤ completeIn requests n ↔ k ≤ requests.length ∧ (bytesOf (requests.take k)).length ≤ n
  := by
  induction requests generalizing k n with
  | nil => simp [completeIn, bytesOf]
  | cons s requests ih =>
    cases k with
    | zero => simp [bytesOf]
    | succ k =>
      rw [completeIn, List.take_succ_cons, bytesOf_cons, List.length_append, List.length_cons]
      split
      · rw [Nat.add_le_add_iff_right, ih]
        omega
      · omega

theorem answered_concat (requests : List Served) (front : List Bytes) (read : Bytes) :
  answered requests (front ++ [read])
    = min (answered requests front + 1) (completeIn requests (front ++ [read]).flatten.length)
  := by
  have hfrom : ∀ arrived n, answeredFrom requests arrived n (front ++ [read])
      = min (answeredFrom requests arrived n front + 1)
          (completeIn requests (arrived + (front ++ [read]).flatten.length)) := by
    induction front with
    | nil => simp [answeredFrom]
    | cons r front ih =>
      intro arrived n
      rw [List.cons_append, answeredFrom, ih, answeredFrom, List.flatten_cons, List.length_append,
        Nat.add_assoc]
  rw [answered, hfrom, Nat.zero_add]
  rfl

theorem answered_le (requests : List Served) (reads : List Bytes) :
  answered requests reads ≤ completeIn requests reads.flatten.length
  := by
  induction reads using List.reverseRecOn with
  | nil => exact Nat.zero_le _
  | append_singleton front read _ =>
    rw [answered_concat]
    apply Nat.min_le_right

theorem take_add_one_of_getElem? {requests : List Served} {k : ℕ} {s : Served}
    (hs : requests[k]? = some s) :
  requests.take (k + 1) = requests.take k ++ [s]
  := by
  rw [List.take_add_one, hs]
  rfl

theorem length_bytesOf_take_add_one {requests : List Served} {k : ℕ} {s : Served}
    (hs : requests[k]? = some s) :
  (bytesOf (requests.take (k + 1))).length
    = (bytesOf (requests.take k)).length + s.bytes.length
  := by
  rw [take_add_one_of_getElem? hs, bytesOf_append, List.length_append, bytesOf_singleton]

/-- At a read the next request is answered if as many bytes are there as it has. -/
theorem answered_concat_of_getElem? {requests : List Served} {front : List Bytes} {read : Bytes}
    {s : Served} {n : ℕ} (hs : requests[answered requests front]? = some s)
    (hlength : (front ++ [read]).flatten.length
      = (bytesOf (requests.take (answered requests front))).length + n) :
  answered requests (front ++ [read])
    = if s.bytes.length ≤ n then answered requests front + 1 else answered requests front
  := by
  have hle := le_completeIn_iff.1 (answered_le requests front)
  have hanswered : answered requests front
      ≤ completeIn requests (front ++ [read]).flatten.length := by
    rw [le_completeIn_iff, hlength]
    omega
  have hnext : answered requests front + 1
        ≤ completeIn requests (front ++ [read]).flatten.length ↔ s.bytes.length ≤ n := by
    have hlt := (List.getElem?_eq_some_iff.1 hs).1
    rw [le_completeIn_iff, length_bytesOf_take_add_one hs, hlength]
    omega
  rw [answered_concat]
  split <;> omega

theorem completeIn_zero {requests : List Served} (hbytes : ∀ s ∈ requests, s.bytes ≠ []) :
  completeIn requests 0 = 0
  := by
  cases requests with
  | nil => rfl
  | cons s requests =>
    have hs := List.length_pos_iff.2 (hbytes s List.mem_cons_self)
    rw [completeIn, if_neg (by omega)]

/-- So many requests are answered if from every read on there are as many reads as requests to
answer. -/
theorem le_answered_iff {requests : List Served} (hbytes : ∀ s ∈ requests, s.bytes ≠ [])
    {reads : List Bytes} {n : ℕ} :
  n ≤ answered requests reads ↔ ∀ front back, reads = front ++ back →
    n ≤ completeIn requests front.flatten.length + back.length
  := by
  induction reads using List.reverseRecOn generalizing n with
  | nil =>
    constructor
    · intro h front back _
      apply h.trans (Nat.zero_le _)
    · intro h
      have hnil := h [] [] rfl
      rw [List.flatten_nil, List.length_nil, completeIn_zero hbytes] at hnil
      exact hnil
  | append_singleton reads read ih =>
    rw [answered_concat, Nat.le_min, ← Nat.sub_le_iff_le_add, ih]
    constructor
    · rintro ⟨hbefore, hhere⟩ front back hsplit
      rcases List.eq_nil_or_concat back with rfl | ⟨back, last, rfl⟩
      · rw [List.append_nil] at hsplit
        rw [← hsplit]
        exact hhere
      · rw [List.concat_eq_append, ← List.append_assoc] at hsplit
        have hn := hbefore front back (List.append_inj_left' hsplit rfl)
        rw [List.concat_eq_append, List.length_append, List.length_singleton]
        omega
    · intro h
      constructor
      · rintro front back rfl
        have hn := h front (back ++ [read]) (List.append_assoc _ _ _)
        rw [List.length_append, List.length_singleton] at hn
        omega
      · apply h (reads ++ [read]) [] (List.append_nil _).symm

/-! ### Paced reads -/

/-- The next read after `front` leaves room for what is not answered, and at it no request without
a declared length is answered together with bytes after it. -/
structure Fits (max : ℕ) (requests : List Served) (front : List Bytes) (read : Bytes) : Prop where
  room : (front ++ [read]).flatten.length
    ≤ (bytesOf (requests.take (answered requests front))).length + max
  alone : ∀ s, requests[answered requests front]? = some s → s.request.contentLength? = none →
    (front ++ [read]).flatten.length
      ≤ (bytesOf (requests.take (answered requests front + 1))).length

/-- Reads at which all requests are answered, each with its own bytes. -/
structure Paced (max : ℕ) (requests : List Served) (reads : List Bytes) : Prop where
  /-- From every read on there are as many reads as requests to answer. -/
  enough : ∀ front back, reads = front ++ back →
    requests.length ≤ completeIn requests front.flatten.length + back.length
  fits : ∀ front read back, reads = front ++ [read] ++ back → Fits max requests front read

/-! ### Reads of one request each -/

/-- No read goes beyond the end of the request that is arriving. -/
def Separate (requests : List Served) (reads : List Bytes) : Prop :=
  ∀ front read back, reads = front ++ [read] ++ back →
    (front ++ [read]).flatten.length
      ≤ (bytesOf (requests.take (completeIn requests front.flatten.length + 1))).length

/-- A separate read completes one request at most. -/
theorem Separate.completeIn_le {requests : List Served} (hbytes : ∀ s ∈ requests, s.bytes ≠ [])
    {reads front back : List Bytes} {read : Bytes} (h : Separate requests reads)
    (hsplit : reads = front ++ [read] ++ back) :
  completeIn requests (front ++ [read]).flatten.length
    ≤ completeIn requests front.flatten.length + 1
  := by
  by_contra hmore
  obtain ⟨hlt, hlength⟩ := le_completeIn_iff.1 (Nat.lt_of_not_le hmore)
  have hs := List.getElem?_eq_getElem (Nat.lt_of_succ_le hlt)
  have hread := h front read back hsplit
  have hpos := List.length_pos_iff.2 (hbytes _ (List.mem_of_getElem? hs))
  rw [Nat.succ_eq_add_one, length_bytesOf_take_add_one hs] at hlength
  omega

/-- With separate reads every request is answered when it is complete. -/
theorem Separate.answered_eq {requests : List Served} (hbytes : ∀ s ∈ requests, s.bytes ≠ [])
    {reads front back : List Bytes} (h : Separate requests reads)
    (hsplit : reads = front ++ back) :
  answered requests front = completeIn requests front.flatten.length
  := by
  induction front using List.reverseRecOn generalizing back with
  | nil => exact (completeIn_zero hbytes).symm
  | append_singleton front read ih =>
    rw [answered_concat, ih (hsplit.trans (List.append_assoc _ _ _))]
    apply Nat.min_eq_right (h.completeIn_le hbytes hsplit)

/-- Separate reads are paced: a client that sends a request when the one before it is answered has
all of them answered. -/
theorem Separate.paced {max : ℕ} {requests : List Served} (hbytes : ∀ s ∈ requests, s.bytes ≠ [])
    (hmax : ∀ s ∈ requests, s.bytes.length ≤ max) {reads : List Bytes}
    (hcut : reads.flatten = bytesOf requests) (h : Separate requests reads) :
  Paced max requests reads
  := by
  constructor
  · apply (le_answered_iff hbytes).1
    rw [h.answered_eq hbytes (List.append_nil reads).symm, hcut, le_completeIn_iff]
    use Nat.le_refl _
    rw [List.take_length]
  · intro front read back hsplit
    have hread := h front read back hsplit
    have hanswered := h.answered_eq hbytes (hsplit.trans (List.append_assoc _ _ _))
    constructor
    · rw [hanswered]
      apply hread.trans
      cases hs : requests[completeIn requests front.flatten.length]? with
      | none =>
        have hle := List.getElem?_eq_none_iff.1 hs
        rw [List.take_of_length_le hle, List.take_of_length_le (Nat.le_succ_of_le hle)]
        apply Nat.le_add_right
      | some s =>
        rw [length_bytesOf_take_add_one hs]
        apply Nat.add_le_add_left (hmax s (List.mem_of_getElem? hs)) _
    · intro s _ _
      rw [hanswered]
      exact hread

/-! ### Checking -/

/-- Reads are paced if they are at every place among them. -/
theorem paced_iff {max : ℕ} {requests : List Served} {reads : List Bytes} :
  Paced max requests reads ↔ ∀ n ≤ reads.length,
    requests.length ≤ completeIn requests (reads.take n).flatten.length + (reads.drop n).length
      ∧ ∀ read ∈ reads[n]?, Fits max requests (reads.take n) read
  := by
  constructor
  · intro h n _
    constructor
    · apply h.enough _ _ (List.take_append_drop n reads).symm
    · intro read hread
      apply h.fits _ _ (reads.drop (n + 1))
      have htake : reads.take (n + 1) = reads.take n ++ [read] := by
        rw [List.take_add_one, Option.mem_def.1 hread]
        rfl
      rw [← htake, List.take_append_drop]
  · intro h
    constructor
    · rintro front back rfl
      have hfront := (h front.length (by simp)).1
      rw [List.take_left, List.drop_left] at hfront
      exact hfront
    · rintro front read back rfl
      have hread := (h front.length (by simp)).2 read (by simp)
      rw [List.append_assoc, List.take_left] at hread
      exact hread

instance (max : ℕ) (requests : List Served) (front : List Bytes) (read : Bytes) :
    Decidable (Fits max requests front read) :=
  decidable_of_iff
    ((front ++ [read]).flatten.length
        ≤ (bytesOf (requests.take (answered requests front))).length + max
      ∧ ∀ s ∈ requests[answered requests front]?, s.request.contentLength? = none →
        (front ++ [read]).flatten.length
          ≤ (bytesOf (requests.take (answered requests front + 1))).length)
    ⟨fun h => ⟨h.1, h.2⟩, fun h => ⟨h.1, h.2⟩⟩

instance (max : ℕ) (requests : List Served) (reads : List Bytes) :
    Decidable (Paced max requests reads) :=
  decidable_of_iff _ paced_iff.symm

end HttpDispatch.Connection
