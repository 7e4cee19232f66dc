import HttpDispatch.Proofs.Http.Sending

/-!
# Responses that fail

A response can fail before anything of it is written, which leaves room for another one, or after
its head was given to the sink.  Which of the two it is, is decided by what the source of its body
answers first.  To tell the order of things the writing of a response is given once more with the
pulls of its body in it, and with all calls to the source and to the sink noted:
`Response.writePulling`.
-/

namespace HttpDispatch

/-! ### Calls -/

/-- What is asked of the source of a body or of a sink. -/
inductive Call where
  /-- The source is polled, and answers. -/
  | polled (answer : Option Event)
  /-- The sink is given bytes. -/
  | offered (data : Bytes)
  /-- The sink is flushed. -/
  | flushed
  deriving DecidableEq, Repr

/-- A sink, and all calls so far in order. -/
structure Pipe where
  sink : Sink
  calls : List Call
  deriving DecidableEq, Repr

/-- Steps that pull a body and write to a sink. -/
abbrev Piping := ExceptT DeliveryError (StateM Pipe)

namespace Piping

/-- Steps that write to the sink by one call. -/
def ofWriting (call : Call) (m : Writing Unit) : Piping Unit :=
  ExceptT.mk (modifyGet fun p =>
    ((m.run.run p.sink).1, ⟨(m.run.run p.sink).2, p.calls ++ [call]⟩))

/-- Writes bytes, as `Writing.put` does. -/
def put (sent : ℕ) (data : Bytes) : Piping Unit := ofWriting (.offered data) (Writing.put sent data)

/-- Flushes the sink, as `Writing.flush` does. -/
def flush (sent : ℕ) : Piping Unit := ofWriting .flushed (Writing.flush sent)

/-- Polls the source of an encoder as often as a pull does. -/
def poll (e : Encoder) : Piping Unit :=
  modify fun p => { p with calls := p.calls ++ e.polled.map .polled }

end Piping

/-! ### Writing with pulls -/

/-- How much an encoder can still give. -/
def Encoder.remaining (e : Encoder) : ℕ := if e.state = .done then 0 else e.source.length + 1

theorem Encoder.remaining_pullSource_lt (total : ℕ) (s : Source) :
  (pullSource total s).2.remaining < s.length + 1
  := by
  induction s with
  | nil => simp [pullSource, drain, remaining]
  | cons event s ih =>
    cases event with
    | pending => exact Nat.lt_succ_of_lt ih
    | item data =>
      cases data with
      | nil => exact Nat.lt_succ_of_lt ih
      | cons b data => simp [pullSource, remaining]
    | failure e => simp [pullSource, remaining]

/-- A pull that gives something leaves less. -/
theorem Encoder.remaining_pull_lt {e : Encoder} (h : e.state ≠ .done) :
  e.pull.2.remaining < e.remaining
  := by
  obtain ⟨s, state, total⟩ := e
  cases state with
  | streaming => apply remaining_pullSource_lt
  | draining => simp [pull, drain, remaining]
  | done => cases h rfl

namespace Response

/-- Writes what was pulled of a body, of which `sent` bytes are written, and all that is still to be
pulled. -/
def sendPulled (trailer : Option String) (sent : ℕ) :
    Option (Except SourceError Chunk) × Encoder → Piping ℕ
  | (none, _) => return sent
  | (some (.error e), _) => throw (e.abort sent)
  | (some (.ok (.last total)), _) => do
    match trailer with
    | some t => Piping.put sent (frameLast t total)
    | none => pure ()
    return sent
  | (some (.ok (.data data)), e) => do
    Piping.put sent (if trailer.isSome then frameChunk data else data)
    Piping.poll e
    sendPulled trailer (sent + data.length) e.pull
termination_by pulled => 2 * pulled.2.remaining + if pulled.1.isSome then 1 else 0
decreasing_by
  simp only [Option.isSome_some, if_true]
  by_cases hdone : e.state = .done
  · have hpull : e.pull = (none, e) := by rw [Encoder.pull, hdone]
    simp [hpull]
  · have hlt := Encoder.remaining_pull_lt hdone
    split <;> omega

/-- Writes a response as `Response.write` does, and pulls the chunks of a stream one by one. -/
def writePulling (r : Response) (version : ℕ) (trailer : String) : Piping Delivered :=
  match r.sentBody with
  | .full data => do
    Piping.put 0 (r.head (.length data.length) ++ data)
    Piping.flush data.length
    return ⟨r.status, data.length, r.keepAlive⟩
  | .stream source => do
    Piping.poll (.ofSource source)
    match (Encoder.ofSource source).pull with
    | (some (.error (.failed reason)), _) => throw (.unsent reason)
    | (some (.error .oversized), _) => throw .oversized
    | (given, e) =>
      let chunked := decide (1 ≤ version)
      Piping.put 0 (r.head (if chunked then .chunked trailer else .close))
      let sent ← sendPulled (if chunked then some trailer else none) 0
        (some (given.getD (.ok (.last 0))), e)
      Piping.flush sent
      return ⟨r.status, sent, r.keepAlive && chunked⟩

end Response

/-! ### The same writes -/

namespace Piping

variable {α β : Type} {m : Piping α} {m' : Writing α} {P Q R : List Call → Prop}

/-- The steps do to the sink of a pipe what steps that only write do to it, and give the same; the
calls in them are as `P` says. -/
def Follows (m : Piping α) (m' : Writing α) (P : List Call → Prop) : Prop :=
  ∀ p, ∃ calls, P calls
    ∧ m.run.run p = ((m'.run.run p.sink).1, ⟨(m'.run.run p.sink).2, p.calls ++ calls⟩)

theorem Follows.mono (h : Follows m m' P) (hmono : ∀ calls, P calls → Q calls) :
  Follows m m' Q
  := by
  intro p
  obtain ⟨calls, hcalls, hrun⟩ := h p
  exact ⟨calls, hmono calls hcalls, hrun⟩

/-- The calls of a run are as they are in every run. -/
theorem Follows.calls (h : Follows m m' P) {p : Pipe} {result : Except DeliveryError α} {w : Sink}
    {calls : List Call} (hrun : m.run.run p = (result, ⟨w, p.calls ++ calls⟩)) :
  P calls
  := by
  obtain ⟨calls', hcalls, hrun'⟩ := h p
  have hsame := congrArg (fun after => after.2.calls) (hrun'.symm.trans hrun)
  rwa [← List.append_cancel_left hsame]

theorem follows_pure (a : α) :
  Follows (pure a) (pure a) (· = [])
  := by
  intro p
  use [], rfl
  rw [List.append_nil]
  rfl

theorem follows_throw (e : DeliveryError) :
  Follows (throw e : Piping α) (throw e) (· = [])
  := by
  intro p
  use [], rfl
  rw [List.append_nil]
  rfl

theorem follows_put (sent : ℕ) (data : Bytes) :
  Follows (put sent data) (Writing.put sent data) (· = [.offered data])
  := fun _ => ⟨_, rfl, rfl⟩

theorem follows_flush (sent : ℕ) :
  Follows (flush sent) (Writing.flush sent) (· = [.flushed])
  := fun _ => ⟨_, rfl, rfl⟩

/-- The calls of steps after others follow theirs, if there is no error before. -/
theorem Follows.bind {k : α → Piping β} {k' : α → Writing β} (h : Follows m m' P)
    (hk : ∀ a, Follows (k a) (k' a) Q) (hstop : ∀ calls, P calls → R calls)
    (hgo : ∀ calls more, P calls → Q more → R (calls ++ more)) :
  Follows (m >>= k) (m' >>= k') R
  := by
  intro p
  obtain ⟨calls, hcalls, hrun⟩ := h p
  rw [ExceptT.run_bind, StateT.run_bind, hrun, ExceptT.run_bind, StateT.run_bind]
  generalize m'.run.run p.sink = first
  obtain ⟨result, sink⟩ := first
  cases result with
  | error e => exact ⟨calls, hstop calls hcalls, rfl⟩
  | ok a =>
    obtain ⟨more, hmore, hrun'⟩ := hk a ⟨sink, p.calls ++ calls⟩
    use calls ++ more, hgo calls more hcalls hmore
    rw [← List.append_assoc]
    exact hrun'

theorem follows_flushed (sent : ℕ) (a : α) :
  Follows (flush sent >>= fun _ => pure a) (Writing.flush sent >>= fun _ => pure a) (· ⊆ [.flushed])
  := by
  apply (follows_flush sent).bind (fun _ => follows_pure a)
  · rintro calls rfl
    simp
  · rintro calls more rfl rfl
    simp

/-- A pull leaves the sink as it is. -/
theorem Follows.after_poll (h : Follows m m' Q) (e : Encoder)
    (hgo : ∀ more, Q more → P (e.polled.map .polled ++ more)) :
  Follows (poll e >>= fun _ => m) m' P
  := by
  intro p
  obtain ⟨more, hmore, hrun⟩ := h ⟨p.sink, p.calls ++ e.polled.map .polled⟩
  use e.polled.map .polled ++ more, hgo more hmore
  rw [← List.append_assoc]
  exact hrun

end Piping

namespace Response

open Piping

/-- What is left of a source is sent as it is written. -/
theorem follows_sendPulled (trailer : Option String) (sent : ℕ) (s : Source) :
  Follows (sendPulled trailer sent (Encoder.pullSource sent s)) (writeChunks trailer sent s)
    fun _ => True
  := by
  -- A pull skips the pauses and the empty pieces that the writing skips, so both go on alike.
  induction s generalizing sent with
  | nil =>
    rw [Encoder.pullSource, Encoder.drain, sendPulled.eq_def]
    cases trailer with
    | none => exact (follows_pure sent).mono fun _ _ => trivial
    | some t =>
      apply (follows_put sent _).bind (fun _ => follows_pure sent)
      · exact fun _ _ => trivial
      · exact fun _ _ _ _ => trivial
  | cons event s ih =>
    cases event with
    | pending => apply ih
    | item data =>
      cases data with
      | nil => apply ih
      | cons b data =>
        rw [Encoder.pullSource, sendPulled, writeChunks]
        have hrest := (ih (sent + (b :: data).length)).after_poll (P := fun _ => True)
          ⟨s, .streaming, sent + (b :: data).length⟩ fun _ _ => trivial
        apply (follows_put sent _).bind (fun _ => hrest)
        · exact fun _ _ => trivial
        · exact fun _ _ _ _ => trivial
    | failure e =>
      rw [Encoder.pullSource, sendPulled]
      cases e with
      | failed reason => exact (follows_throw _).mono fun _ _ => trivial
      | oversized => exact (follows_throw _).mono fun _ _ => trivial

variable {r : Response} {version : ℕ} {trailer : String}

/-- A buffer is written at once. -/
theorem follows_writePulling_full {data : Bytes} (h : r.sentBody = .full data) :
  Follows (r.writePulling version trailer) (r.write version trailer) fun calls =>
    ∃ rest, calls = .offered (r.head (.length data.length) ++ data) :: rest ∧ rest ⊆ [.flushed]
  := by
  rw [writePulling, write, ← sentBody, h]
  apply (follows_put 0 _).bind (fun _ => follows_flushed _ _)
  · rintro calls rfl
    exact ⟨[], rfl, List.nil_subset _⟩
  · rintro calls more rfl hmore
    exact ⟨more, rfl, hmore⟩

theorem fst_pull_eq_error_iff {source : Source} {e : SourceError} :
  (Encoder.ofSource source).pull.1 = some (.error e) ↔ source.FailsWith e
  := by
  rw [← failsFirst?_eq_some_iff, failsFirst?]
  split
  · rename_i heq
    simp [heq]
  · rename_i hnone
    apply iff_of_false (hnone e)
    intro h
    cases h

/-- A stream that does not fail before any data gives a chunk at the first pull. -/
theorem fst_pull_eq_ok {source : Source} (hsound : ∀ e, ¬ source.FailsWith e) :
  ∃ chunk, (Encoder.ofSource source).pull.1 = some (.ok chunk)
  := by
  rcases Encoder.pullSource_cases 0 source with
    ⟨data, s', -, hpull, -⟩ | ⟨s', -, hpull, -⟩
  · exact ⟨.data data, congrArg Prod.fst hpull⟩
  · cases hending : source.ending 0 with
    | ok chunk => exact ⟨chunk, (congrArg Prod.fst hpull).trans (congrArg some hending)⟩
    | error e =>
      have herror := (congrArg Prod.fst hpull).trans (congrArg some hending)
      exact absurd (fst_pull_eq_error_iff.1 herror) (hsound e)

/-- A stream that fails before any data is only polled. -/
theorem follows_writePulling_of_failsWith {source : Source} {e : SourceError}
    (h : r.sentBody = .stream source) (hfails : source.FailsWith e) :
  Follows (r.writePulling version trailer) (r.write version trailer) fun calls =>
    calls = (Encoder.ofSource source).polled.map .polled
  := by
  have hpull := fst_pull_eq_error_iff.2 hfails
  rw [writePulling, write, ← sentBody, h]
  simp only [writeStream, failsFirst?_eq_some_iff.2 hfails]
  generalize (Encoder.ofSource source).pull = pulled at hpull
  obtain ⟨given, after⟩ := pulled
  obtain rfl : given = _ := hpull
  cases e with
  | failed reason =>
    apply (follows_throw _).after_poll
    rintro more rfl
    apply List.append_nil
  | oversized =>
    apply (follows_throw _).after_poll
    rintro more rfl
    apply List.append_nil

/-- The head of any other stream is given to the sink after the first pull. -/
theorem follows_writePulling_of_not_failsWith {source : Source} (h : r.sentBody = .stream source)
    (hsound : ∀ e, ¬ source.FailsWith e) :
  Follows (r.writePulling version trailer) (r.write version trailer) fun calls =>
    ∃ rest, calls = (Encoder.ofSource source).polled.map .polled
      ++ .offered (r.head (r.sentBody.framing version trailer)) :: rest
  := by
  have hfirst : failsFirst? source = none := by
    rw [Option.eq_none_iff_forall_ne_some]
    intro e he
    exact hsound e (failsFirst?_eq_some_iff.1 he)
  have hframing : r.sentBody.framing version trailer
      = if decide (1 ≤ version) then .chunked trailer else .close := by
    simp only [h, Body.framing, decide_eq_true_eq]
  have hsend : Follows (sendPulled (if decide (1 ≤ version) then some trailer else none) 0
      (Encoder.ofSource source).pull) _ _ := follows_sendPulled _ 0 source
  obtain ⟨chunk, hgiven⟩ := fst_pull_eq_ok hsound
  rw [hframing, writePulling, write, ← sentBody, h]
  simp only [writeStream, hfirst]
  generalize (Encoder.ofSource source).pull = pulled at hsend hgiven
  obtain ⟨given, after⟩ := pulled
  obtain rfl : given = _ := hgiven
  generalize decide (1 ≤ version) = chunked at hsend ⊢
  have hbody := hsend.bind (R := fun _ => True)
    (fun sent => follows_flushed sent (⟨r.status, sent, r.keepAlive && chunked⟩ : Delivered))
    (fun _ _ => trivial) fun _ _ _ _ => trivial
  have hhead := (follows_put 0 (r.head (if chunked then .chunked trailer else .close))).bind
    (R := fun calls => ∃ rest, calls = .offered _ :: rest) (fun _ => hbody)
    (fun calls hcalls => ⟨[], hcalls⟩)
    fun calls more hcalls _ => ⟨more, congrArg (· ++ more) hcalls⟩
  apply hhead.after_poll
  rintro more ⟨rest, rfl⟩
  use rest

/-! ### Failures -/

theorem body_of_sentBody {source : Source} (h : r.sentBody = .stream source) :
  r.body = .stream source
  := by
  rw [sentBody] at h
  split at h
  · cases h
  · exact h

theorem failsEarly_iff {reason : String} :
  r.FailsEarly reason
    ↔ r.status.forbidsBody = false ∧ ∃ source, r.body = .stream source
      ∧ source.FailsWith (.failed reason)
  := by
  rw [FailsEarly, sentBody]
  cases r.status.forbidsBody
  · simp
  · simp [Body.empty]

/-- No other response can be written exactly if the body that is sent does not fail early. -/
theorem fst_run_write_eq_unsent_iff {w : Sink} {reason : String} :
  ((r.write version trailer).run.run w).1 = .error (.unsent reason) ↔ r.FailsEarly reason
  := by
  have hwrite : ∀ {reason'}, r.FailsEarly reason' →
      (r.write version trailer).run.run w = (.error (.unsent reason'), w) := by
    intro reason' hfails
    rw [write_eq_perform, transcript_of_failsEarly hfails]
    rfl
  constructor
  · intro h
    by_cases hfails : ∃ reason', r.FailsEarly reason'
    · obtain ⟨reason', hfails⟩ := hfails
      rw [hwrite hfails] at h
      obtain rfl := DeliveryError.unsent.inj (Except.error.inj h)
      exact hfails
    · rw [write_eq_perform] at h
      obtain ⟨hunsent, -⟩ :=
        transcript_of_not_failsEarly (not_exists.1 hfails) version trailer
      rcases ((r.transcript version trailer).perform_cases w).2 with hending | ⟨_, _, haborted⟩
      · exact absurd (hending.symm.trans h) (hunsent reason)
      · cases haborted.symm.trans h
  · intro h
    rw [hwrite h]

/-- The head is given to the sink, after polls at most. -/
def OffersHead (r : Response) (version : ℕ) (trailer : String) (calls : List Call) : Prop :=
  ∃ (answers : List (Option Event)) (first : Bytes) (rest : List Call),
    calls = answers.map .polled ++ .offered first :: rest
      ∧ r.head (r.sentBody.framing version trailer) <+: first

/-- A response that could be sent gives its head to the sink. -/
theorem follows_writePulling_offersHead
    (hsound : ∀ source e, r.sentBody = .stream source → ¬ source.FailsWith e) :
  Follows (r.writePulling version trailer) (r.write version trailer) (r.OffersHead version trailer)
  := by
  cases hbody : r.sentBody with
  | full data =>
    apply (follows_writePulling_full hbody).mono
    rintro calls ⟨rest, rfl, -⟩
    use [], r.head (.length data.length) ++ data, rest, rfl
    rw [hbody]
    apply List.prefix_append
  | stream source =>
    apply (follows_writePulling_of_not_failsWith hbody fun e => hsound source e hbody).mono
    rintro calls ⟨rest, rfl⟩
    exact ⟨_, _, rest, rfl, List.prefix_rfl⟩

/-- A body that panics before any data leaves the sink as it is. -/
theorem run_write_of_panicsEarly (h : r.PanicsEarly) (w : Sink) :
  (r.write version trailer).run.run w = (.error .oversized, w)
  := by
  rw [write_eq_perform, transcript_of_panicsEarly h]
  rfl

/-- The body of a response that is aborted did not fail before any data. -/
theorem not_failsWith_of_aborted {w : Sink} {sent : ℕ} {reason : String}
    (h : ((r.write version trailer).run.run w).1 = .error (.aborted sent reason)) (source : Source)
    (e : SourceError) (hbody : r.sentBody = .stream source) :
  ¬ source.FailsWith e
  := by
  intro hfails
  cases e with
  | failed reason' =>
    have hunsent : ((r.write version trailer).run.run w).1 = .error (.unsent reason') :=
      fst_run_write_eq_unsent_iff.2 ⟨source, hbody, hfails⟩
    cases h.symm.trans hunsent
  | oversized =>
    rw [run_write_of_panicsEarly ⟨source, hbody, hfails⟩] at h
    cases h

/-- Whatever becomes of a response, the writing of it with its pulls does the same. -/
theorem exists_follows_writePulling (r : Response) (version : ℕ) (trailer : String) :
  ∃ P, Follows (r.writePulling version trailer) (r.write version trailer) P
  := by
  by_cases hfails : ∃ source e, r.sentBody = .stream source ∧ source.FailsWith e
  · obtain ⟨source, e, hbody, hfails⟩ := hfails
    exact ⟨_, follows_writePulling_of_failsWith hbody hfails⟩
  · refine ⟨_, follows_writePulling_offersHead ?_⟩
    intro source e hbody h
    exact hfails ⟨source, e, hbody, h⟩

/-- What ends the writing of a response before its end. -/
theorem fst_run_write_eq_error {w : Sink} {e : DeliveryError}
    (h : ((r.write version trailer).run.run w).1 = .error e) :
  (∃ reason, e = .unsent reason)
    ∨ (∃ sent reason, e = .aborted sent reason)
    ∨ e = .oversized ∧ ∃ source, r.body = .stream source ∧ .failure .oversized ∈ source
  := by
  by_cases hearly : ∃ reason, r.FailsEarly reason
  · left
    obtain ⟨reason, hearly⟩ := hearly
    exact ⟨reason, Except.error.inj (h.symm.trans (fst_run_write_eq_unsent_iff.2 hearly))⟩
  · right
    rw [write_eq_perform] at h
    rcases ((r.transcript version trailer).perform_cases w).2 with hending | ⟨sent, reason, he⟩
    · obtain ⟨source, f, n, hbody, hf, rfl⟩ :=
        exists_failure_of_ending (not_exists.1 hearly) (hending.symm.trans h)
      cases f with
      | failed reason => exact .inl ⟨n, reason, rfl⟩
      | oversized => exact .inr ⟨rfl, source, body_of_sentBody hbody, hf⟩
    · exact .inl ⟨sent, reason, Except.error.inj (h.symm.trans he)⟩

theorem sentBody_of_forbidsBody (h : r.status.forbidsBody = true) :
  r.sentBody = .full []
  := if_pos h

/-- No byte of a body is written where none is permitted. -/
theorem written_of_forbidsBody (h : r.status.forbidsBody = true) (version : ℕ) (trailer : String)
    (w : Sink) :
  ∃ sent, ((r.write version trailer).run.run w).2.written = w.written ++ sent
    ∧ sent <+: r.head (.length 0)
  := by
  have hbytes : (r.transcript version trailer).bytes = r.head (.length 0) := by
    rw [transcript_of_full (sentBody_of_forbidsBody h)]
    simp [Transcript.bytes, fullTranscript]
  rw [write_eq_perform, ← hbytes]
  exact ⟨_, (Transcript.perform_cases _ w).1, w.fitting_prefix _⟩

/-- A body that is not permitted is not looked at. -/
theorem write_withBody_of_forbidsBody (h : r.status.forbidsBody = true) (version : ℕ)
    (trailer : String) (body : Body) :
  (r.withBody body).write version trailer = r.write version trailer
  := by
  have hbody : (r.withBody body).sentBody = .full [] := sentBody_of_forbidsBody h
  rw [write_eq_perform, write_eq_perform, transcript_of_full hbody,
    transcript_of_full (sentBody_of_forbidsBody h)]
  rfl

/-- Writing a response leaves the sink to another one exactly if a body is permitted, is a stream,
and fails before it gives any data; then the sink was not touched.  Any other failure aborts the
response, and its head was given to the sink before.  Only a source that panics is neither.  The
body of a response that permits none is not polled, and no byte of it is written. -/
theorem write_failing (r : Response) (version : ℕ) (trailer : String) (w : Sink) :
  ∃ result w' calls, (r.write version trailer).run.run w = (result, w')
    ∧ (r.writePulling version trailer).run.run ⟨w, []⟩ = (result, ⟨w', calls⟩)
    ∧ (∀ reason, result = .error (.unsent reason)
      ↔ r.status.forbidsBody = false ∧ ∃ source, r.body = .stream source
        ∧ source.FailsWith (.failed reason))
    ∧ (∀ reason, result = .error (.unsent reason) →
      w' = w ∧ ∀ call ∈ calls, ∃ answer, call = .polled answer)
    ∧ (∀ e, result = .error e →
      (∃ reason, e = .unsent reason)
        ∨ (∃ sent reason, e = .aborted sent reason) ∧ r.OffersHead version trailer calls
        ∨ e = .oversized ∧ ∃ source, r.body = .stream source ∧ .failure .oversized ∈ source)
    ∧ (r.status.forbidsBody = true →
      (∀ call ∈ calls, call = .offered (r.head (.length 0)) ∨ call = .flushed)
        ∧ (∃ sent, w'.written = w.written ++ sent ∧ sent <+: r.head (.length 0))
        ∧ ∀ body, (r.withBody body).write version trailer = r.write version trailer)
  := by
  obtain ⟨P, hfollows⟩ := r.exists_follows_writePulling version trailer
  obtain ⟨calls, -, hpulling⟩ := hfollows ⟨w, []⟩
  use ((r.write version trailer).run.run w).1, ((r.write version trailer).run.run w).2, calls, rfl,
    hpulling
  refine ⟨?_, ?_, ?_, ?_⟩
  · intro reason
    rw [fst_run_write_eq_unsent_iff, failsEarly_iff]
  · intro reason hresult
    obtain ⟨source, hbody, hfails⟩ := fst_run_write_eq_unsent_iff.1 hresult
    constructor
    · rw [write_eq_perform, transcript_of_failsEarly ⟨source, hbody, hfails⟩]
      rfl
    · rw [(follows_writePulling_of_failsWith hbody hfails).calls hpulling]
      simp
  · intro e hresult
    apply (fst_run_write_eq_error hresult).imp_right
    apply Or.imp_left
    rintro ⟨sent, reason, rfl⟩
    use ⟨sent, reason, rfl⟩
    exact (follows_writePulling_offersHead (not_failsWith_of_aborted hresult)).calls hpulling
  · intro hforbids
    refine ⟨?_, written_of_forbidsBody hforbids version trailer w,
      write_withBody_of_forbidsBody hforbids version trailer⟩
    obtain ⟨rest, rfl, hrest⟩ :=
      (follows_writePulling_full (sentBody_of_forbidsBody hforbids)).calls hpulling
    rw [List.forall_mem_cons]
    use .inl (congrArg Call.offered (List.append_nil _))
    intro call hcall
    exact .inr (List.mem_singleton.1 (hrest hcall))

/-- A stream that fails is of no matter where no body is permitted. -/
example :
  (((new .noContent).withBody (.stream [.failure (.failed "gone")])).write 1 "X-Length"
    |>.run.run .unlimited).1 = .ok ⟨.noContent, 0, true⟩
  := by decide +kernel

end Response

end HttpDispatch
