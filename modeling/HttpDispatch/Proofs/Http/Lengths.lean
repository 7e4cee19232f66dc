import HttpDispatch.Proofs.Fallible
import HttpDispatch.Proofs.Http.Exact
import Mathlib.Data.Int.Notation

/-!
# Lengths of requests

A client may declare any length of 64 bits for the body of a request.  A request is read, or its
bytes are refused, exactly if the declared length and that of the head add up to a number of
64 bits; then the body is a slice of what has arrived: `Request.read_bounded`.
-/

namespace HttpDispatch

/-! ### Numbers of a type -/

namespace IntegerFormat

/-- Digits are read as a number that is not above the limit. -/
theorem le_of_readDigits {limit : ℕ} {overflow : IntegerError} {acc : ℕ} (hacc : acc ≤ limit)
    {cs : List Char} {n : ℕ} (h : readDigits limit overflow acc cs = .ok n) :
  n ≤ limit
  := by
  induction cs generalizing acc with
  | nil =>
    obtain rfl := Except.ok.inj h
    exact hacc
  | cons c cs ih =>
    rw [readDigits] at h
    split at h
    · cases h
    · split at h
      · cases h
      · rename_i hle
        apply ih (Nat.le_of_not_lt hle) h

/-- A text is read as an integer of the type. -/
theorem bounds_of_read {f : IntegerFormat} {s : String} {i : ℤ} (h : f.read s = .ok i) :
  -f.least ≤ i ∧ i ≤ f.greatest
  := by
  have hpositive {cs : List Char}
      (h : (readDigits f.greatest .tooLarge 0 cs).map Int.ofNat = .ok i) :
      -f.least ≤ i ∧ i ≤ f.greatest := by
    obtain ⟨n, hn, rfl⟩ := Fallible.map_eq_ok_iff.1 h
    have hle := le_of_readDigits (Nat.zero_le _) hn
    rw [Int.ofNat_eq_natCast]
    omega
  rw [read] at h
  split at h
  · cases h
  · cases h
  · cases h
  · exact hpositive h
  · split at h
    · obtain ⟨n, hn, rfl⟩ := Fallible.map_eq_ok_iff.1 h
      have hle := le_of_readDigits (Nat.zero_le _) hn
      rw [Int.ofNat_eq_natCast]
      omega
    · cases h
  · exact hpositive h

end IntegerFormat

/-- A declared length is a number of 64 bits. -/
theorem le_of_declaredLength {value : String} {n : ℕ} (h : declaredLength value = .ok n) :
  n ≤ maxLength
  := by
  obtain ⟨i, hi, rfl⟩ := Fallible.map_eq_ok_iff.1 h
  obtain ⟨-, hle⟩ := IntegerFormat.bounds_of_read hi
  exact Int.toNat_le.2 hle

namespace Request

/-! ### Declared lengths -/

/-- What has arrived begins with a head of the given length, and the head declares a length of the
body. -/
inductive Declares : Bytes → ℕ → ℕ → Prop
  | head {front : Bytes} {head : Head} {value : String} {n : ℕ}
      (reads : Head.read front = .done head [])
      (header : (headersOf head.fields).get? "content-length" = some value)
      (declared : declaredLength value = .ok n) (rest : Bytes) :
    Declares (front ++ rest) front.length n

/-- After a head the request goes on with the rest of what has arrived. -/
theorem read_head_append {front : Bytes} {head : Head} (h : Head.read front = .done head [])
    (rest : Bytes) :
  read (front ++ rest) = ofRest head front.length rest
  := by
  have hextend : Head.read (front ++ rest) = .done head rest := by
    rw [(Head.steady_read front).extend rest (by simp [h]), h]
    rfl
  rw [read_of_done hextend, List.length_append, Nat.add_sub_cancel]

/-- A request is read off a head of its own and what follows that. -/
theorem exists_front_of_read {arrived : Bytes} {r : Request} {headLength : ℕ}
    (h : read arrived = .request r headLength) :
  ∃ front head rest, arrived = front ++ rest ∧ headLength = front.length
    ∧ Head.read front = .done head [] ∧ ofRest head headLength rest = .request r headLength
  := by
  obtain ⟨head, rest, hhead⟩ := of_read h
  obtain ⟨front, rfl, hfront⟩ := Head.exact_read arrived head rest hhead
  rw [read_head_append hfront] at h
  obtain rfl := headLength_of_ofRest h
  exact ⟨front, head, rest, rfl, rfl, hfront, h⟩

/-- Where the body of a request ends among the bytes that have arrived. -/
def bodyEnd (arrived : Bytes) (headLength : ℕ) (r : Request) : ℕ :=
  match r.contentLength? with
  | some n => min arrived.length (headLength + n)
  | none => arrived.length

theorem ofRest_eq_overflow_iff {head : Head} {headLength : ℕ} {rest : Bytes} :
  ofRest head headLength rest = .overflow
    ↔ ∃ value n, (headersOf head.fields).get? "content-length" = some value
      ∧ declaredLength value = .ok n ∧ maxLength < headLength + n
  := by
  rw [ofRest]
  cases (headersOf head.fields).get? "content-length" with
  | none => simp
  | some value => cases hdeclared : declaredLength value <;> simp [hdeclared]

/-- Bytes are too many for a request exactly if their head and what it declares are. -/
theorem read_eq_overflow_iff {arrived : Bytes} :
  read arrived = .overflow ↔ ∃ headLength n, Declares arrived headLength n
    ∧ maxLength < headLength + n
  := by
  constructor
  · intro h
    cases hhead : Head.read arrived with
    | incomplete =>
      rw [read, hhead] at h
      cases h
    | failed e =>
      rw [read, hhead] at h
      cases h
    | done head rest =>
      obtain ⟨front, rfl, hfront⟩ := Head.exact_read arrived head rest hhead
      rw [read_head_append hfront, ofRest_eq_overflow_iff] at h
      obtain ⟨value, n, hvalue, hn, hlt⟩ := h
      exact ⟨front.length, n, .head hfront hvalue hn rest, hlt⟩
  · rintro ⟨headLength, n, ⟨reads, header, declared, rest⟩, hlt⟩
    rw [read_head_append reads, ofRest_eq_overflow_iff]
    exact ⟨_, n, header, declared, hlt⟩

theorem Declares.le {arrived : Bytes} {headLength n : ℕ} (h : Declares arrived headLength n) :
  headLength ≤ arrived.length ∧ n ≤ maxLength
  := by
  obtain ⟨-, -, declared, rest⟩ := h
  rw [List.length_append]
  exact ⟨Nat.le_add_right _ _, le_of_declaredLength declared⟩

/-- A request that declares a length is read off bytes whose head declares it. -/
theorem declares_of_read {arrived : Bytes} {r : Request} {headLength n : ℕ}
    (h : read arrived = .request r headLength) (hn : r.contentLength? = some n) :
  Declares arrived headLength n
  := by
  obtain ⟨front, head, rest, rfl, rfl, hfront, h⟩ := exists_front_of_read h
  rw [(of_ofRest h).1, contentLength?_ofHead, Option.bind_eq_some_iff] at hn
  obtain ⟨value, hvalue, hn⟩ := hn
  cases hdeclared : declaredLength value with
  | error e =>
    rw [hdeclared] at hn
    cases hn
  | ok m =>
    rw [hdeclared] at hn
    obtain rfl := Option.some.inj hn
    exact .head hfront hvalue hdeclared rest

/-- The body of a request is what has arrived between its head and its end. -/
theorem slice_of_read {arrived : Bytes} {r : Request} {headLength : ℕ}
    (h : read arrived = .request r headLength) :
  headLength ≤ bodyEnd arrived headLength r
    ∧ bodyEnd arrived headLength r ≤ arrived.length
    ∧ r.body = (arrived.take (bodyEnd arrived headLength r)).drop headLength
  := by
  obtain ⟨front, head, rest, rfl, rfl, -, h⟩ := exists_front_of_read h
  have hbody := (of_ofRest h).2
  rw [bodyEnd, hbody]
  cases r.contentLength? with
  | none =>
    refine ⟨by simp, Nat.le_refl _, ?_⟩
    rw [List.take_length, List.drop_left]
  | some n =>
    refine ⟨by simp, Nat.min_le_left _ _, ?_⟩
    change rest.take n
      = ((front ++ rest).take (min (front ++ rest).length (front.length + n))).drop front.length
    rw [Nat.min_comm, ← List.take_take, List.take_length, List.take_length_add_append,
      List.drop_left]

/-- Bytes are a request or refused exactly if what they declare is a number of 64 bits together
with the length of the head.  Of a request the body is a slice of what has arrived, and the lengths
of its head and its body add up to a number of 64 bits. -/
theorem read_bounded {arrived : Bytes} (harrived : arrived.length ≤ maxLength) :
  ((∃ r headLength, read arrived = .request r headLength) ∨ (∃ e, read arrived = .error e)
      ↔ ∀ headLength n, Declares arrived headLength n → headLength + n ≤ maxLength)
    ∧ (∀ headLength n, Declares arrived headLength n →
      headLength ≤ arrived.length ∧ n ≤ maxLength)
    ∧ ∀ r headLength, read arrived = .request r headLength →
      headLength + r.contentLength?.getD 0 ≤ maxLength
        ∧ headLength ≤ bodyEnd arrived headLength r
        ∧ bodyEnd arrived headLength r ≤ arrived.length
        ∧ r.body = (arrived.take (bodyEnd arrived headLength r)).drop headLength
  := by
  have hiff : (∀ headLength n, Declares arrived headLength n → headLength + n ≤ maxLength)
      ↔ read arrived ≠ .overflow := by
    simp only [ne_eq, read_eq_overflow_iff, not_exists, not_and, Nat.not_lt]
  refine ⟨?_, fun headLength n h => h.le, ?_⟩
  · rw [hiff]
    cases read arrived <;> simp
  · intro r headLength h
    refine ⟨?_, slice_of_read h⟩
    cases hlength : r.contentLength? with
    | none =>
      obtain ⟨hle, hend, -⟩ := slice_of_read h
      exact Nat.le_trans (Nat.le_trans hle hend) harrived
    | some n =>
      have hne : read arrived ≠ .overflow := by simp [h]
      exact hiff.2 hne headLength n (declares_of_read h hlength)

/-- A request that declares fewer bytes than have arrived. -/
def shortened : Bytes := Text.utf8 "POST / HTTP/1.1\r\nContent-Length: 2\r\n\r\nhidden"

theorem read_bounded_shortened :
  shortened.length ≤ maxLength
    ∧ ∃ r, read shortened = .request r 38 ∧ r.body = Text.utf8 "hi"
      ∧ 38 + r.contentLength?.getD 0 ≤ maxLength
      ∧ r.body = (shortened.take (bodyEnd shortened 38 r)).drop 38
  := by
  have hlength : shortened.length ≤ maxLength := by decide +kernel
  obtain ⟨r, hread, hbody⟩ : ∃ r, read shortened = .request r 38 ∧ r.body = Text.utf8 "hi" := by
    refine ⟨⟨⟨"POST"⟩, "/", 1, ⟨[("Content-Length", "2")]⟩, none, Text.utf8 "hi"⟩, ?_, rfl⟩
    decide +kernel
  obtain ⟨hsum, -, -, hslice⟩ := (read_bounded hlength).2.2 r 38 hread
  exact ⟨hlength, r, hread, hbody, hsum, hslice⟩

/-- A request that declares the greatest length. -/
def boundless : Bytes :=
  Text.utf8 "POST / HTTP/1.1\r\nContent-Length: 18446744073709551615\r\n\r\nhello"

theorem read_boundless :
  Declares boundless 57 maxLength ∧ read boundless = .overflow
  := by
  refine ⟨?_, by decide +kernel⟩
  have hdeclares : Declares (boundless.take 57 ++ boundless.drop 57) (boundless.take 57).length
      maxLength := by
    have hhead : Head.read (boundless.take 57) = .done ⟨"POST", "/", 1,
        [("Content-Length", Text.utf8 "18446744073709551615")]⟩ [] := by
      decide +kernel
    have hvalue : declaredLength "18446744073709551615" = .ok maxLength := by decide +kernel
    exact .head hhead (by decide +kernel) hvalue _
  exact hdeclares

end Request

end HttpDispatch
