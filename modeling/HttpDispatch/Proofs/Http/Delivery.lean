import HttpDispatch.Proofs.Http.Chunked

/-!
# What a response writes

A response is written as a list of writes, after which either the sink is flushed or the writing
ends with an error: `Response.transcript`.  A sink that takes everything takes the writes in a
row.  From what follows the head a client recovers the body, with the framing that the head
announces.
-/

namespace HttpDispatch

open Text

/-! ### Transcripts -/

/-- The writes of a response and how they end. -/
structure Transcript where
  /-- The writes, each with the number of bytes of the body that are sent if it fails. -/
  writes : List (ℕ × Bytes)
  /-- What is delivered if the sink is flushed after the writes, or an error instead. -/
  ending : Except DeliveryError Delivered

namespace Transcript

/-- Writes in a row. -/
def putAll : List (ℕ × Bytes) → Writing Unit
  | [] => return ()
  | w :: ws => do
    Writing.put w.1 w.2
    putAll ws

/-- Performs the writes and the flush. -/
def perform (t : Transcript) : Writing Delivered := do
  putAll t.writes
  match t.ending with
  | .ok delivered => do
    Writing.flush delivered.bodyBytes
    return delivered
  | .error e => throw e

/-- All bytes of the writes. -/
def bytes (t : Transcript) : Bytes := (t.writes.map Prod.snd).flatten

end Transcript

/-! ### Sinks that take everything -/

namespace Writing

/-- Steps go on from what the step before them left. -/
theorem run_bind_of_ok {α β : Type} {m : Writing α} {next : α → Writing β} {w w' : Sink} {a : α}
    (h : m.run.run w = (.ok a, w')) :
  (m >>= next).run.run w = (next a).run.run w'
  := by
  rw [ExceptT.run_bind, StateT.run_bind, h]
  rfl

theorem run_put {w : Sink} (hroom : w.room = none) (sent : ℕ) (data : Bytes) :
  (put sent data).run.run w = (.ok (), { w with taken := data :: w.taken })
  := by
  obtain ⟨room, flushFails, taken, flushes⟩ := w
  obtain rfl := hroom
  rfl

theorem run_flush {w : Sink} (hflush : w.flushFails = false) (sent : ℕ) :
  (flush sent).run.run w = (.ok (), { w with flushes := w.flushes + 1 })
  := by
  obtain ⟨room, flushFails, taken, flushes⟩ := w
  obtain rfl := hflush
  rfl

end Writing

/-- A sink that takes everything. -/
structure Sink.TakesAll (w : Sink) : Prop where
  room : w.room = none
  flush : w.flushFails = false

namespace Transcript

/-- The sink after the writes, and after a flush if they do not end with an error. -/
def takenBy (t : Transcript) (w : Sink) : Sink :=
  { w with
    taken := (t.writes.map Prod.snd).reverse ++ w.taken
    flushes := w.flushes + if t.ending.isOk then 1 else 0 }

theorem written_takenBy (t : Transcript) (w : Sink) :
  (t.takenBy w).written = w.written ++ t.bytes
  := by
  rw [Sink.written, takenBy, List.reverse_append, List.reverse_reverse, List.flatten_append]
  rfl

theorem run_putAll {w : Sink} (hroom : w.room = none) (ws : List (ℕ × Bytes)) :
  (putAll ws).run.run w = (.ok (), { w with taken := (ws.map Prod.snd).reverse ++ w.taken })
  := by
  induction ws generalizing w with
  | nil => rfl
  | cons v ws ih =>
    have hroom' : ({ w with taken := v.2 :: w.taken } : Sink).room = none := hroom
    rw [putAll, Writing.run_bind_of_ok (Writing.run_put hroom v.1 v.2), ih hroom', List.map_cons,
      List.reverse_cons, List.append_assoc]
    rfl

/-- A sink that takes everything takes the writes, and the writing ends as it should. -/
theorem run_perform (t : Transcript) {w : Sink} (hw : w.TakesAll) :
  t.perform.run.run w = (t.ending, t.takenBy w)
  := by
  obtain ⟨writes, ending⟩ := t
  rw [perform, Writing.run_bind_of_ok (run_putAll hw.room writes)]
  cases ending with
  | ok delivered =>
    have hflush : ({ w with taken := (writes.map Prod.snd).reverse ++ w.taken } : Sink).flushFails
        = false := hw.flush
    simp only
    rw [Writing.run_bind_of_ok (Writing.run_flush hflush delivered.bodyBytes)]
    rfl
  | error e => rfl

end Transcript

/-! ### Streams -/

/-- How the failure of a source ends a body of which `sent` bytes are written. -/
def SourceError.abort (sent : ℕ) : SourceError → DeliveryError
  | .failed reason => .aborted sent reason
  | .oversized => .oversized

namespace Source

/-- The writes of a source after `sent` bytes and how they end, as `Response.writeChunks` has
them. -/
def writes (trailer : Option String) (sent : ℕ) :
    Source → List (ℕ × Bytes) × Except DeliveryError ℕ
  | [] => ((trailer.map fun t => (sent, frameLast t sent)).toList, .ok sent)
  | .pending :: s => writes trailer sent s
  | .item [] :: s => writes trailer sent s
  | .item (b :: data) :: s =>
    let frame := if trailer.isSome then frameChunk (b :: data) else b :: data
    let rest := writes trailer (sent + (b :: data).length) s
    ((sent, frame) :: rest.1, rest.2)
  | .failure e :: _ => ([], .error (e.abort sent))

/-- The pieces of data of a source. -/
def items (s : Source) : List Bytes :=
  s.filterMap fun event =>
    match event with
    | .item data => some data
    | _ => none

/-- The pieces of data that are not empty. -/
def chunkItems (s : Source) : List Bytes := s.items.filter (! ·.isEmpty)

/-- The source does not fail. -/
def Succeeds (s : Source) : Prop := ∀ e, .failure e ∉ s

theorem Succeeds.tail {event : Event} {s : Source} (h : Succeeds (event :: s)) :
  Succeeds s
  := by
  intro e he
  apply h e (List.mem_cons_of_mem _ he)

theorem flatten_chunkItems (s : Source) :
  s.chunkItems.flatten = s.items.flatten
  := by
  rw [chunkItems, List.flatten_filter_not_isEmpty]

theorem ne_nil_of_mem_chunkItems {s : Source} {data : Bytes} (h : data ∈ s.chunkItems) :
  data ≠ []
  := by
  simpa using (List.mem_filter.1 h).2

theorem collect_eq {s : Source} (h : s.Succeeds) :
  s.collect = .ok s.items.flatten
  := by
  induction s with
  | nil => rfl
  | cons event s ih =>
    cases event with
    | pending => exact ih h.tail
    | item data =>
      rw [collect, ih h.tail]
      rfl
    | failure e => exact absurd List.mem_cons_self (h e)

theorem snd_writes {s : Source} (h : s.Succeeds) (trailer : Option String) (sent : ℕ) :
  (s.writes trailer sent).2 = .ok (sent + s.items.flatten.length)
  := by
  induction s generalizing sent with
  | nil => rfl
  | cons event s ih =>
    cases event with
    | pending => exact ih h.tail sent
    | item data =>
      cases data with
      | nil => exact ih h.tail sent
      | cons b data =>
        apply (ih h.tail _).trans
        rw [Nat.add_assoc, ← List.length_append]
        rfl
    | failure e => exact absurd List.mem_cons_self (h e)

/-- In chunks every piece of data that is not empty is framed, and the last chunk follows. -/
theorem flatten_writes_some {s : Source} (h : s.Succeeds) (trailer : String) (sent : ℕ) :
  ((s.writes (some trailer) sent).1.map Prod.snd).flatten
    = s.chunkItems.flatMap frameChunk ++ frameLast trailer (sent + s.items.flatten.length)
  := by
  induction s generalizing sent with
  | nil => exact List.append_nil _
  | cons event s ih =>
    cases event with
    | pending => exact ih h.tail sent
    | item data =>
      cases data with
      | nil => exact ih h.tail sent
      | cons b data =>
        have hitems : items (.item (b :: data) :: s) = (b :: data) :: items s := rfl
        have hchunks : chunkItems (.item (b :: data) :: s) = (b :: data) :: chunkItems s := rfl
        rw [hitems, hchunks, List.flatMap_cons, List.flatten_cons, List.length_append,
          ← Nat.add_assoc, List.append_assoc, ← ih h.tail]
        rfl
    | failure e => exact absurd List.mem_cons_self (h e)

/-- Without chunks the data stands for itself. -/
theorem flatten_writes_none {s : Source} (h : s.Succeeds) (sent : ℕ) :
  ((s.writes none sent).1.map Prod.snd).flatten = s.items.flatten
  := by
  induction s generalizing sent with
  | nil => rfl
  | cons event s ih =>
    cases event with
    | pending => exact ih h.tail sent
    | item data =>
      cases data with
      | nil => exact ih h.tail sent
      | cons b data => exact congrArg ((b :: data) ++ ·) (ih h.tail _)
    | failure e => exact absurd List.mem_cons_self (h e)

end Source

/-! ### Responses -/

namespace Response

theorem writeChunks_eq (trailer : Option String) (sent : ℕ) (s : Source) :
  writeChunks trailer sent s
    = Transcript.putAll (s.writes trailer sent).1 >>= fun _ =>
        ExceptT.mk (pure (s.writes trailer sent).2)
  := by
  induction s generalizing sent with
  | nil =>
    cases trailer with
    | none => rfl
    | some t =>
      rw [writeChunks, Source.writes]
      simp only [Option.map_some, Option.toList_some, Transcript.putAll, bind_assoc, pure_bind]
      rfl
  | cons event s ih =>
    cases event with
    | pending => exact ih sent
    | item data =>
      cases data with
      | nil => exact ih sent
      | cons b data =>
        rw [writeChunks, ih, Source.writes, Transcript.putAll, bind_assoc]
    | failure e => cases e <;> rfl

theorem failsFirst?_eq_none {s : Source} (h : s.Succeeds) :
  failsFirst? s = none
  := by
  have hpull : ∀ total e, (Encoder.pullSource total s).1 ≠ some (.error e) := by
    intro total e
    induction s with
    | nil => exact nofun
    | cons event s ih =>
      cases event with
      | pending => exact ih h.tail
      | item data =>
        cases data with
        | nil => exact ih h.tail
        | cons b data => exact nofun
      | failure e => exact absurd List.mem_cons_self (h e)
  rw [failsFirst?]
  split
  · rename_i e he
    exact absurd he (hpull 0 e)
  · rfl

/-- What is written of a response with all data at hand. -/
def fullTranscript (r : Response) (data : Bytes) : Transcript where
  writes := [(0, r.head (.length data.length) ++ data)]
  ending := .ok ⟨r.status, data.length, r.keepAlive⟩

/-- What is written of a response with a stream as its body. -/
def streamTranscript (r : Response) (source : Source) (version : ℕ) (trailer : String) :
    Transcript :=
  match failsFirst? source with
  | some (.failed reason) => ⟨[], .error (.unsent reason)⟩
  | some .oversized => ⟨[], .error .oversized⟩
  | none =>
    let chunked := decide (1 ≤ version)
    let body := source.writes (if chunked then some trailer else none) 0
    ⟨(0, r.head (if chunked then .chunked trailer else .close)) :: body.1,
      body.2.map fun sent => ⟨r.status, sent, r.keepAlive && chunked⟩⟩

/-- What is written of a response. -/
def transcript (r : Response) (version : ℕ) (trailer : String) : Transcript :=
  match if r.status.forbidsBody then .empty else r.body with
  | .full data => r.fullTranscript data
  | .stream source => r.streamTranscript source version trailer

theorem writeFull_eq_perform (r : Response) (data : Bytes) :
  r.writeFull data = (r.fullTranscript data).perform
  := by
  simp only [writeFull, Transcript.perform, fullTranscript, Transcript.putAll, bind_assoc,
    pure_bind]

theorem writeStream_eq_perform (r : Response) (source : Source) (version : ℕ)
    (trailer : String) :
  r.writeStream source version trailer = (r.streamTranscript source version trailer).perform
  := by
  rw [writeStream, streamTranscript]
  cases failsFirst? source with
  | some e => cases e <;> rfl
  | none =>
    simp only [Transcript.perform, Transcript.putAll, bind_assoc, writeChunks_eq]
    apply congrArg
    funext _
    apply congrArg
    funext _
    generalize (source.writes _ 0).2 = ending
    cases ending <;> rfl

/-- Writing a response performs its transcript. -/
theorem write_eq_perform (r : Response) (version : ℕ) (trailer : String) :
  r.write version trailer = (r.transcript version trailer).perform
  := by
  rw [write, transcript]
  generalize (if r.status.forbidsBody then Body.empty else r.body) = body
  cases body with
  | full data => exact writeFull_eq_perform r data
  | stream source => exact writeStream_eq_perform r source version trailer

end Response

/-! ### What a client recovers -/

/-- How the end of a body is found by a client that speaks version 1.`version`. -/
def Body.framing (version : ℕ) (trailer : String) : Body → Framing
  | .full data => .length data.length
  | .stream _ => if 1 ≤ version then .chunked trailer else .close

/-- The data that a client recovers from what follows the head, if it is all there. -/
def Framing.recovered? : Framing → Bytes → Option Bytes
  | .length n, sent => if sent.length = n then some sent else none
  | .close, sent => some sent
  | .chunked _, sent =>
    match Chunked.decode sent with
    | .done body [] => some body.1.flatten
    | _ => none

/-- A transcript is the head of a response, with the given framing, and bytes from which a client
recovers the payload. -/
structure Transcript.Carries (t : Transcript) (r : Response) (framing : Framing)
    (payload sent : Bytes) : Prop where
  bytes : t.bytes = r.head framing ++ sent
  ending : t.ending = .ok ⟨r.status, payload.length, r.staysOpen framing⟩
  recovered : framing.recovered? sent = some payload

namespace Response

theorem carries_fullTranscript (r : Response) (data : Bytes) :
  (r.fullTranscript data).Carries r (.length data.length) data data
  := by
  constructor
  · apply List.append_nil _
  · simp [fullTranscript, staysOpen]
  · exact if_pos rfl

theorem carries_streamTranscript_chunked (r : Response) {source : Source}
    (succeeds : source.Succeeds) {version : ℕ} (hversion : 1 ≤ version) {trailer : String}
    (hcr : '\r' ∉ trailer.toList) (hlf : '\n' ∉ trailer.toList) :
  (r.streamTranscript source version trailer).Carries r (.chunked trailer) source.items.flatten
    (source.chunkItems.flatMap frameChunk ++ frameLast trailer source.items.flatten.length)
  := by
  constructor
  · have hbytes := Source.flatten_writes_some succeeds trailer 0
    rw [Nat.zero_add] at hbytes
    simp only [streamTranscript, failsFirst?_eq_none succeeds, hversion, decide_true, if_true,
      Transcript.bytes, List.map_cons, List.flatten_cons, hbytes]
  · simp [streamTranscript, failsFirst?_eq_none succeeds, Source.snd_writes succeeds, Except.map,
      hversion, staysOpen]
  · have hall := Chunked.decode_frames hcr hlf
      (fun data => Source.ne_nil_of_mem_chunkItems (s := source)) source.items.flatten.length []
    rw [List.append_nil] at hall
    rw [Framing.recovered?, hall]
    exact congrArg some (Source.flatten_chunkItems source)

theorem carries_streamTranscript_close (r : Response) {source : Source}
    (succeeds : source.Succeeds) {version : ℕ} (hversion : ¬ 1 ≤ version) (trailer : String) :
  (r.streamTranscript source version trailer).Carries r .close source.items.flatten
    source.items.flatten
  := by
  constructor
  · simp [streamTranscript, failsFirst?_eq_none succeeds, hversion, Transcript.bytes,
      Source.flatten_writes_none succeeds 0]
  · simp [streamTranscript, failsFirst?_eq_none succeeds, Source.snd_writes succeeds, Except.map,
      hversion, staysOpen]
  · rfl

/-- The transcript of a response whose source does not fail carries its body. -/
theorem transcript_of_succeeds {r : Response} (version : ℕ) {trailer : String}
    (permits : r.status.forbidsBody = false) (succeeds : r.body.source.Succeeds)
    (hcr : '\r' ∉ trailer.toList) (hlf : '\n' ∉ trailer.toList) :
  ∃ payload sent, r.body.collect = .ok payload
    ∧ (r.transcript version trailer).Carries r (r.body.framing version trailer) payload sent
    ∧ (r.body.framing version trailer = .chunked trailer → ∀ rest,
        Chunked.decode (sent ++ rest)
          = .done (r.body.source.chunkItems, [Chunked.trailerLine trailer payload.length]) rest)
  := by
  rw [transcript, permits]
  simp only [Bool.false_eq_true, if_false]
  cases hbody : r.body with
  | full data => exact ⟨data, data, rfl, r.carries_fullTranscript data, nofun⟩
  | stream source =>
    rw [hbody, Body.source] at succeeds
    have hcollect := Source.collect_eq succeeds
    by_cases hversion : 1 ≤ version
    · have hframing : (Body.stream source).framing version trailer = .chunked trailer :=
        if_pos hversion
      rw [hframing]
      exact ⟨_, _, hcollect, r.carries_streamTranscript_chunked succeeds hversion hcr hlf,
        fun _ => Chunked.decode_frames hcr hlf
          (fun data => Source.ne_nil_of_mem_chunkItems (s := source)) _⟩
    · have hframing : (Body.stream source).framing version trailer = .close := if_neg hversion
      rw [hframing]
      refine ⟨_, _, hcollect, r.carries_streamTranscript_close succeeds hversion trailer, ?_⟩
      intro hchunked
      cases hchunked

/-- A sink that takes everything takes the head of a response and bytes from which a client
recovers the body, in whatever way the head says that the body ends.  In chunks they are the
pieces of the body that are not empty and a trailer with their length, up to the last byte. -/
theorem write_recovered {r : Response} {version : ℕ} {trailer : String} {w : Sink}
    (permits : r.status.forbidsBody = false) (succeeds : r.body.source.Succeeds)
    (hcr : '\r' ∉ trailer.toList) (hlf : '\n' ∉ trailer.toList) (hw : w.TakesAll) :
  ∃ payload sent w', r.body.collect = .ok payload
    ∧ (r.write version trailer).run.run w
      = (.ok ⟨r.status, payload.length, r.staysOpen (r.body.framing version trailer)⟩, w')
    ∧ w'.written = w.written ++ r.head (r.body.framing version trailer) ++ sent
    ∧ (r.body.framing version trailer).recovered? sent = some payload
    ∧ (r.body.framing version trailer = .chunked trailer → ∀ rest,
        Chunked.decode (sent ++ rest)
          = .done (r.body.source.chunkItems, [Chunked.trailerLine trailer payload.length]) rest)
  := by
  obtain ⟨payload, sent, hcollect, hcarries, hdecode⟩ :=
    transcript_of_succeeds version permits succeeds hcr hlf
  use payload, sent, (r.transcript version trailer).takenBy w, hcollect
  refine ⟨?_, ?_, hcarries.recovered, hdecode⟩
  · rw [write_eq_perform, Transcript.run_perform _ hw, hcarries.ending]
  · rw [Transcript.written_takenBy, hcarries.bytes, List.append_assoc]

/-- A stream with a pause, an empty piece, and pieces that look like the end of a body. -/
def deceptive : Response :=
  (new .ok).withBody (.stream [.item (utf8 "one\r\n"), .pending, .item [],
    .item (utf8 "0\r\n\r\n")])

theorem write_recovered_deceptive :
  ∃ payload sent w', deceptive.body.collect = .ok payload
    ∧ (deceptive.write 1 "X-Length").run.run .unlimited = (.ok ⟨.ok, payload.length, true⟩, w')
    ∧ w'.written = deceptive.head (.chunked "X-Length") ++ sent
    ∧ (Framing.chunked "X-Length").recovered? sent = some payload
    ∧ ∀ rest, Chunked.decode (sent ++ rest)
      = .done ([utf8 "one\r\n", utf8 "0\r\n\r\n"],
        [Chunked.trailerLine "X-Length" payload.length]) rest
  := by
  have succeeds : deceptive.body.source.Succeeds := by
    intro e he
    simp [deceptive, withBody, Body.source] at he
  obtain ⟨payload, sent, w', hcollect, hwrite, hwritten, hrecovered, hdecode⟩ :=
    @write_recovered deceptive 1 "X-Length" .unlimited rfl succeeds (by decide) (by decide)
      ⟨rfl, rfl⟩
  exact ⟨payload, sent, w', hcollect, hwrite, hwritten, hrecovered, hdecode rfl⟩

end Response

end HttpDispatch
