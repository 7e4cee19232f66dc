import HttpDispatch.Proofs.Http.Headers
import HttpDispatch.Proofs.Http.Lines
import Mathlib.Data.List.TakeWhile
import Mathlib.Data.Nat.Digits.Defs

/-!
# Framing of a head

The reader of a head takes the headers off its lines: what it reads is what was sent, if no name
holds a colon and no name or value the end of a line.  Then the head says in one way how the body is
delimited, but for a `Transfer-Encoding` that stands in the response already and is sent beside a
length, or before the end of the connection: `delimited_iff`.
-/

namespace HttpDispatch

open Text

/-! ### Reading headers -/

/-- The name before the first colon of a line, and the value after it without blanks at its ends. -/
def readField (line : Bytes) : Option (String × Bytes) :=
  match line.dropWhile (· ≠ byteOf ':') with
  | [] => none
  | _ :: value =>
    (ofUtf8? (line.takeWhile (· ≠ byteOf ':'))).map fun name => (name, Head.trimBlanks value)

/-- The headers between the first line of a head and its first empty line. -/
def readFields (head : Bytes) : List (String × Bytes) :=
  (((lines head).drop 1).takeWhile (· ≠ [])).filterMap readField

/-- The values of a name in a head. -/
def readValues (head : Bytes) (name : String) : List Bytes :=
  ((readFields head).filter fun f => sameName f.1 name).map (·.2)

/-- The text holds no part of the end of a line. -/
def Unbroken (s : String) : Prop := '\r' ∉ s.toList ∧ '\n' ∉ s.toList

instance (s : String) : Decidable (Unbroken s) :=
  inferInstanceAs (Decidable (_ ∧ _))

/-- A header that a reader can tell from what is around it. -/
structure Sendable (f : String × String) : Prop where
  colon : ':' ∉ f.1.toList
  name : Unbroken f.1
  value : Unbroken f.2

theorem sendable_mk {name value : String} (hcolon : ':' ∉ name.toList) (hname : Unbroken name)
    (hvalue : Unbroken value) :
  Sendable (name, value)
  := ⟨hcolon, hname, hvalue⟩

theorem Unbroken.oneLine {s : String} (h : Unbroken s) :
  OneLine (utf8 s)
  := by
  apply oneLine_of_notMem
  rw [show Head.cr = byteOf '\r' from rfl, byteOf_mem_utf8_iff (by decide)]
  apply h.1

theorem unbroken_toString (n : ℕ) :
  Unbroken (toString n)
  := by
  constructor
  · intro h
    cases isDigit_of_mem_toString h
  · intro h
    cases isDigit_of_mem_toString h

theorem trimBlanks_eq_self {bs : Bytes} (h : ∀ b ∈ bs, Head.isBlankByte b = false) :
  Head.trimBlanks bs = bs
  := by
  have hdrop : ∀ {bs : Bytes}, (∀ b ∈ bs, Head.isBlankByte b = false) →
      bs.dropWhile Head.isBlankByte = bs := by
    intro bs h
    rw [List.dropWhile_eq_self_iff]
    intro hpos
    simp [h _ (List.getElem_mem hpos)]
  rw [Head.trimBlanks, hdrop h, hdrop, List.reverse_reverse]
  intro b hb
  apply h b (List.mem_reverse.1 hb)

theorem trimBlanks_utf8_toString (n : ℕ) :
  Head.trimBlanks (utf8 (toString n)) = utf8 (toString n)
  := by
  apply trimBlanks_eq_self
  intro b hb
  by_contra hblank
  simp only [Head.isBlankByte, Bool.or_eq_false_iff, decide_eq_false_iff_not, not_and_or,
    not_not] at hblank
  rcases hblank with rfl | rfl
  · cases isDigit_of_mem_toString ((byteOf_mem_utf8_iff (c := ' ') (by decide)).1 hb)
  · cases isDigit_of_mem_toString ((byteOf_mem_utf8_iff (c := '\t') (by decide)).1 hb)

/-- The line of a header is read as the header. -/
theorem readField_fieldLine {f : String × String} (h : ':' ∉ f.1.toList) :
  readField (fieldLine f) = some (f.1, Head.trimBlanks (utf8 f.2))
  := by
  have hname : ∀ b ∈ utf8 f.1, decide (b ≠ byteOf ':') = true := by
    intro b hb
    rw [decide_eq_true_iff]
    rintro rfl
    apply h ((byteOf_mem_utf8_iff (by decide)).1 hb)
  rw [readField, fieldLine_eq, List.dropWhile_append_of_pos hname,
    List.takeWhile_append_of_pos hname, List.dropWhile_cons_of_neg (by simp),
    List.takeWhile_cons_of_neg (by simp), List.append_nil, ofUtf8?_utf8]
  rfl

namespace Response

variable {r : Response} {framing : Framing}

/-- What is added to headers that can be sent can be sent. -/
theorem sendable_sentHeaders (hfields : ∀ f ∈ r.headers.fields, Sendable f)
    (htrailer : ∀ trailer, framing = .chunked trailer → Unbroken trailer) :
  ∀ f ∈ (r.sentHeaders framing).fields, Sendable f
  := by
  have htyped : ∀ f ∈ (r.typedHeaders framing).fields, Sendable f := by
    rw [typedHeaders]
    split
    · apply Headers.forall_insert hfields
      apply sendable_mk (by decide) (by decide) (by decide)
    · exact hfields
  have hconnection : ∀ f ∈ ((r.typedHeaders framing).set "Connection"
      (if r.staysOpen framing then "keep-alive" else "close")).fields, Sendable f := by
    apply Headers.forall_set htyped
    apply sendable_mk (by decide) (by decide)
    split <;> decide
  rw [sentHeaders, framedHeaders.eq_def]
  split
  · apply Headers.forall_remove
    apply Headers.forall_remove
    apply Headers.forall_remove hconnection
  · cases framing with
    | length n =>
      apply Headers.forall_set hconnection
      apply sendable_mk (by decide) (by decide) (unbroken_toString n)
    | chunked trailer =>
      apply Headers.forall_set
      · apply Headers.forall_set
        · apply Headers.forall_remove hconnection
        · apply sendable_mk (by decide) (by decide) (by decide)
      · apply sendable_mk (by decide) (by decide) (htrailer trailer rfl)
    | close => apply Headers.forall_remove hconnection

/-- What is read off a head is what was sent, whatever body follows it. -/
theorem readFields_head_append (h : ∀ f ∈ (r.sentHeaders framing).fields, Sendable f)
    (body : Bytes) :
  readFields (r.head framing ++ body)
    = (r.sentHeaders framing).fields.map fun f => (f.1, Head.trimBlanks (utf8 f.2))
  := by
  have hlines : lines (r.head framing ++ body) = _ := lines_head_append body
    fun f hf => ⟨(h f hf).name.oneLine, (h f hf).value.oneLine⟩
  have hne : ∀ line ∈ (r.sentHeaders framing).fields.map fieldLine, decide (line ≠ []) = true := by
    rw [List.forall_mem_map]
    intro f _
    rw [decide_eq_true_iff]
    apply fieldLine_ne_nil
  rw [readFields, hlines, List.drop_one, List.tail_cons, List.takeWhile_append_of_pos hne,
    List.takeWhile_cons_of_neg (by simp), List.append_nil, List.filterMap_map,
    ← List.filterMap_eq_map]
  apply List.filterMap_congr
  intro f hf
  apply readField_fieldLine (h f hf).colon

theorem readValues_head_append (h : ∀ f ∈ (r.sentHeaders framing).fields, Sendable f)
    (body : Bytes) (name : String) :
  readValues (r.head framing ++ body) name
    = ((r.sentHeaders framing).getAll name).map fun value => Head.trimBlanks (utf8 value)
  := by
  rw [readValues, readFields_head_append h, Headers.getAll, List.filter_map, List.map_map,
    List.map_map]
  rfl

theorem readValues_head (h : ∀ f ∈ (r.sentHeaders framing).fields, Sendable f) (name : String) :
  readValues (r.head framing) name
    = ((r.sentHeaders framing).getAll name).map fun value => Head.trimBlanks (utf8 value)
  := by
  have hread := readValues_head_append h [] name
  rwa [List.append_nil] at hread

end Response

/-! ### Framing -/

namespace Framing

/-- The lengths that a head with the framing has to give. -/
def lengths : Framing → List String
  | .length n => [toString n]
  | .chunked _ => []
  | .close => []

/-- The codings that a head with the framing has to give. -/
def codings : Framing → List String
  | .length _ => []
  | .chunked _ => ["chunked"]
  | .close => []

/-- A reader keeps the lengths and the codings as they are. -/
theorem trimBlanks_lengths (framing : Framing) :
  (framing.lengths.map fun value => Head.trimBlanks (utf8 value)) = framing.lengths.map utf8
  := by
  cases framing with
  | length n => exact congrArg (fun bs => [bs]) (trimBlanks_utf8_toString n)
  | chunked trailer => rfl
  | close => rfl

theorem trimBlanks_codings (framing : Framing) :
  (framing.codings.map fun value => Head.trimBlanks (utf8 value)) = framing.codings.map utf8
  := by
  cases framing with
  | length n => rfl
  | chunked trailer => exact congrArg (fun bs => [bs]) (show _ = utf8 "chunked" by decide +kernel)
  | close => rfl

end Framing

namespace Response

/-- The head says as its framing does how the body is delimited, and in no other way.  That of a
response that has no body says nothing of it. -/
structure Delimited (r : Response) (framing : Framing) : Prop where
  length : readValues (r.head framing) "Content-Length"
    = if r.status.forbidsBody then [] else framing.lengths.map utf8
  coding : readValues (r.head framing) "Transfer-Encoding"
    = if r.status.forbidsBody then [] else framing.codings.map utf8
  trailer : r.status.forbidsBody = true → readValues (r.head framing) "Trailer" = []

variable {r : Response} {framing : Framing}

theorem getAll_typedHeaders {name : String} (htype : sameName "Content-Type" name = false) :
  (r.typedHeaders framing).getAll name = r.headers.getAll name
  := by
  rw [typedHeaders]
  split
  · rw [Headers.getAll_insert, htype]
    apply List.append_nil
  · rfl

/-- Every framing leaves the length that it has to give and no other. -/
theorem getAll_length (r : Response) (framing : Framing) :
  (r.sentHeaders framing).getAll "Content-Length"
    = if r.status.forbidsBody then [] else framing.lengths
  := by
  rw [sentHeaders, framedHeaders.eq_def]
  split
  · simp +decide only [Headers.getAll_remove, if_true, if_false]
  · cases framing with
    | length n => simp +decide only [Headers.getAll_set, Framing.lengths, if_true]
    | chunked trailer =>
      simp +decide only [Headers.getAll_set, Headers.getAll_remove, Framing.lengths, if_true,
        if_false]
    | close => simp +decide only [Headers.getAll_remove, Framing.lengths, if_true]

/-- What a head says of the connection. -/
def connectionValue (stays : Bool) : String := if stays then "keep-alive" else "close"

/-- Every framing leaves one word on the connection, whatever the response has. -/
theorem getAll_connection (r : Response) (framing : Framing) :
  (r.sentHeaders framing).getAll "Connection" = [connectionValue (r.staysOpen framing)]
  := by
  rw [sentHeaders, framedHeaders.eq_def]
  split
  · simp +decide only [Headers.getAll_remove, Headers.getAll_set, connectionValue, if_true,
      if_false]
  · cases framing with
    | length n =>
      simp +decide only [Headers.getAll_set, connectionValue, if_true, if_false]
    | chunked trailer =>
      simp +decide only [Headers.getAll_set, Headers.getAll_remove, connectionValue, if_true,
        if_false]
    | close =>
      simp +decide only [Headers.getAll_remove, Headers.getAll_set, connectionValue, if_true,
        if_false]

/-- If a reader can tell the headers apart, one word on the connection is read off the head. -/
theorem readValues_connection (hfields : ∀ f ∈ r.headers.fields, Sendable f)
    (htrailer : ∀ trailer, framing = .chunked trailer → Unbroken trailer) (body : Bytes) :
  readValues (r.head framing ++ body) "Connection"
    = [utf8 (connectionValue (r.staysOpen framing))]
  := by
  rw [readValues_head_append (sendable_sentHeaders hfields htrailer), getAll_connection]
  cases r.staysOpen framing
  · exact congrArg (fun bs => [bs]) (show _ = utf8 "close" by decide +kernel)
  · exact congrArg (fun bs => [bs]) (show _ = utf8 "keep-alive" by decide +kernel)

/-- Only the framing in chunks takes away the codings of the response. -/
theorem getAll_coding (r : Response) (framing : Framing) :
  (r.sentHeaders framing).getAll "Transfer-Encoding"
    = if r.status.forbidsBody then [] else
      if framing.codings = [] then r.headers.getAll "Transfer-Encoding" else framing.codings
  := by
  have htyped : ∀ value,
      ((r.typedHeaders framing).set "Connection" value).getAll "Transfer-Encoding"
        = r.headers.getAll "Transfer-Encoding" := by
    intro value
    rw [Headers.getAll_set, if_neg (by decide), getAll_typedHeaders (by decide)]
  rw [sentHeaders, framedHeaders.eq_def]
  split
  · simp +decide only [Headers.getAll_remove, if_true, if_false]
  · cases framing with
    | length n =>
      rw [Headers.getAll_set, if_neg (by decide), htyped]
      rfl
    | chunked trailer => simp +decide only [Headers.getAll_set, Framing.codings, if_true, if_false]
    | close =>
      rw [Headers.getAll_remove, if_neg (by decide), htyped]
      rfl

theorem getAll_trailer (h : r.status.forbidsBody = true) (framing : Framing) :
  (r.sentHeaders framing).getAll "Trailer" = []
  := by
  rw [sentHeaders, framedHeaders.eq_def, if_pos h, Headers.getAll_remove, if_pos (by decide)]

/-- If a reader can tell the headers apart, the head says in one way how the body is delimited,
unless a coding of the response is sent with a length or with the end of the connection. -/
theorem delimited_iff (r : Response) (framing : Framing)
    (hfields : ∀ f ∈ r.headers.fields, Sendable f)
    (htrailer : ∀ trailer, framing = .chunked trailer → Unbroken trailer) :
  r.Delimited framing
    ↔ r.status.forbidsBody = true ∨ framing.codings ≠ []
      ∨ r.headers.getAll "Transfer-Encoding" = []
  := by
  have hread := readValues_head (sendable_sentHeaders hfields htrailer)
  have hcoding := hread "Transfer-Encoding"
  rw [getAll_coding] at hcoding
  constructor
  · rintro ⟨-, hcoding', -⟩
    rw [hcoding] at hcoding'
    by_cases hforbids : r.status.forbidsBody = true
    · exact .inl hforbids
    by_cases hnone : framing.codings = []
    · right
      right
      rw [if_neg hforbids, if_neg hforbids, if_pos hnone, hnone] at hcoding'
      apply List.map_eq_nil_iff.1 hcoding'
    · exact .inr (.inl hnone)
  · intro h
    refine ⟨?_, ?_, ?_⟩
    · rw [hread, getAll_length]
      split
      · rfl
      · apply framing.trimBlanks_lengths
    · rw [hcoding]
      split
      · rfl
      · rename_i hforbids
        split
        · rename_i hnone
          rw [(h.resolve_left hforbids).resolve_left (· hnone), hnone]
          rfl
        · apply framing.trimBlanks_codings
    · intro hforbids
      rw [hread, getAll_trailer hforbids]
      rfl

/-- A length that the response has gives way to that of the framing. -/
theorem delimited_declared :
  let r := ((new .ok).addHeader "CONTENT-length" "7").addHeader "X-Name" "a: b"
  (∀ f ∈ r.headers.fields, Sendable f) ∧ r.Delimited (.length 5)
  := by
  intro r
  have hfields : ∀ f ∈ r.headers.fields, Sendable f := by
    rw [show r.headers.fields = [("CONTENT-length", "7"), ("X-Name", "a: b")] from rfl]
    simp only [List.forall_mem_cons, List.not_mem_nil]
    use sendable_mk (by decide) (by decide) (by decide)
    use sendable_mk (by decide) (by decide) (by decide)
    simp
  use hfields
  apply (delimited_iff r (.length 5) hfields _).2
  · exact .inr (.inr rfl)
  · rintro trailer hframing
    cases hframing

/-- A coding that the response has is sent beside a length, and before the end of the connection. -/
theorem delimited_coded :
  let r := (new .ok).addHeader "Transfer-Encoding" "chunked"
  (∀ f ∈ r.headers.fields, Sendable f)
    ∧ readValues (r.head (.length 5)) "Content-Length" = [utf8 "5"]
    ∧ readValues (r.head (.length 5)) "Transfer-Encoding" = [utf8 "chunked"]
    ∧ ¬ r.Delimited (.length 5)
    ∧ ¬ r.Delimited .close
  := by
  intro r
  have hfields : ∀ f ∈ r.headers.fields, Sendable f := by
    rw [show r.headers.fields = [("Transfer-Encoding", "chunked")] from rfl,
      List.forall_mem_singleton]
    apply sendable_mk (by decide) (by decide) (by decide)
  refine ⟨hfields, by decide +kernel, by decide +kernel, ?_, ?_⟩
  · rintro ⟨-, hcoding, -⟩
    revert hcoding
    decide +kernel
  · rintro ⟨-, hcoding, -⟩
    revert hcoding
    decide +kernel

end Response

end HttpDispatch
