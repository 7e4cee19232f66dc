import HttpDispatch.Proofs.Dispatch.Queueing
import HttpDispatch.Proofs.Http.Aborting
import HttpDispatch.Proofs.Http.Cutting
import HttpDispatch.Proofs.Http.Framing
import HttpDispatch.Proofs.Http.Lines

/-!
# Reports of completed requests

The hook of a dispatcher is run once for a response that was written in full, when the sink has been
flushed, and for no other; it is told what the client gets: `Dispatcher.respond_reports`.
-/

namespace HttpDispatch

open Text

/-! ### Writes that succeed -/

/-- What is performed without an error is all the writes, and then the flush. -/
theorem Transcript.of_run_perform_ok {t : Transcript} {w w' : Sink} {delivered : Delivered}
    (h : t.perform.run.run w = (.ok delivered, w')) :
  t.ending = .ok delivered
    ∧ ∃ full : Sink, full.written = w.written ++ t.bytes ∧ full.flushes = w.flushes
      ∧ full.flush = (.ok (), w')
  := by
  have hall := receives_putAll t.writes w
  rw [perform] at h
  generalize hrun : (putAll t.writes).run.run w = all at hall
  obtain ⟨result, full⟩ := all
  cases hall with
  | whole written flushes =>
    rw [Writing.run_bind_of_ok hrun] at h
    cases hending : t.ending with
    | error e =>
      rw [hending] at h
      cases h
    | ok delivered' =>
      rw [hending] at h
      have hflush := Writing.run_flush_eq delivered'.bodyBytes full
      cases hresult : full.flush.1 with
      | error reason =>
        rw [hresult] at hflush
        simp only at h
        rw [Writing.run_bind_of_error hflush] at h
        cases h
      | ok _ =>
        rw [hresult] at hflush
        simp only at h
        rw [Writing.run_bind_of_ok hflush] at h
        obtain ⟨hdelivered, rfl⟩ := Prod.mk.inj h
        obtain rfl := Except.ok.inj hdelivered
        exact ⟨rfl, full, written, flushes, Prod.ext hresult rfl⟩
  | part _ _ _ _ =>
    rw [Writing.run_bind_of_error hrun] at h
    cases h

/-- Only a source that does not fail is written to its end. -/
theorem Source.succeeds_of_snd_writes {trailer : Option String} {sent n : ℕ} {s : Source}
    (h : (s.writes trailer sent).2 = .ok n) :
  s.Succeeds
  := by
  induction s generalizing sent with
  | nil =>
    intro e he
    cases he
  | cons event s ih =>
    have hcons {sent : ℕ} (hevent : ∀ e, event ≠ .failure e)
        (hrest : (Source.writes trailer sent s).2 = .ok n) : Source.Succeeds (event :: s) := by
      intro e he
      rcases List.mem_cons.1 he with heq | he
      · exact hevent e heq.symm
      · exact ih hrest e he
    cases event with
    | pending => exact hcons nofun h
    | item data =>
      cases data with
      | nil => exact hcons nofun h
      | cons b data => exact hcons nofun h
    | failure e => cases h

namespace Response

variable {r : Response} {version : ℕ} {trailer : String}

theorem succeeds_of_ending {delivered : Delivered}
    (h : (r.transcript version trailer).ending = .ok delivered) :
  r.sentBody.source.Succeeds
  := by
  cases hbody : r.sentBody with
  | full data =>
    intro e he
    simp [Body.source] at he
  | stream source =>
    rw [transcript_of_stream hbody, streamTranscript] at h
    cases hfirst : failsFirst? source with
    | some e => cases e <;> simp [hfirst] at h
    | none =>
      rw [hfirst] at h
      simp only at h
      obtain ⟨sent, hsent, -⟩ := Fallible.map_eq_ok_iff.1 h
      exact Source.succeeds_of_snd_writes hsent

/-- From what follows the head a client recovers the body that is sent. -/
theorem exists_carries (succeeds : r.sentBody.source.Succeeds)
    (unbroken : ∀ t, r.sentBody.framing version trailer = .chunked t → Unbroken t) :
  ∃ payload sent, r.sentBody.collect = .ok payload
    ∧ (r.transcript version trailer).Carries r (r.sentBody.framing version trailer) payload sent
  := by
  cases hbody : r.sentBody with
  | full data =>
    rw [transcript_of_full hbody]
    exact ⟨data, data, rfl, r.carries_fullTranscript data⟩
  | stream source =>
    rw [hbody] at succeeds unbroken
    rw [transcript_of_stream hbody]
    by_cases hversion : 1 ≤ version
    · have hframing : (Body.stream source).framing version trailer = .chunked trailer :=
        if_pos hversion
      obtain ⟨hcr, hlf⟩ := unbroken trailer hframing
      rw [hframing]
      exact ⟨_, _, Source.collect_eq succeeds,
        r.carries_streamTranscript_chunked succeeds hversion hcr hlf⟩
    · have hframing : (Body.stream source).framing version trailer = .close := if_neg hversion
      rw [hframing]
      exact ⟨_, _, Source.collect_eq succeeds,
        r.carries_streamTranscript_close succeeds hversion trailer⟩

/-- The response is delivered to a sink: its head and what follows it are written, and then the sink
is flushed.  What is told of it is the status on the first line, and the number of bytes of the
payload that a client has of what follows the head. -/
structure Delivers (r : Response) (framing : Framing) (sink : Sink) (delivered : Delivered)
    (sink' : Sink) (sent payload : Bytes) : Prop where
  flushed : ∃ full : Sink, full.written = sink.written ++ (r.head framing ++ sent)
    ∧ full.flushes = sink.flushes ∧ full.flush = (.ok (), sink')
  status : delivered.status = r.status
  statusLine : utf8 ("HTTP/1.1 " ++ delivered.status.text) ++ lineEnd <+: r.head framing
  body : r.sentBody.collect = .ok payload
  bodyBytes : delivered.bodyBytes = payload.length
  arrived : framing.arrived sent = payload
  recovered : (∀ trailer, framing = .chunked trailer → Unbroken trailer) →
    framing.recovered? sent = some payload

theorem statusLine_prefix (r : Response) (framing : Framing) :
  r.statusLine ++ lineEnd <+: r.head framing
  := by
  rw [head_eq, List.flatMap_cons, List.append_assoc]
  apply List.prefix_append

/-- A response that is written without an error is delivered. -/
theorem exists_delivers {w w' : Sink} {delivered : Delivered}
    (h : (r.write version trailer).run.run w = (.ok delivered, w')) :
  ∃ sent payload, r.Delivers (r.sentBody.framing version trailer) w delivered w' sent payload
  := by
  rw [write_eq_perform] at h
  obtain ⟨hok, full, hwritten, hflushes, hflush⟩ := Transcript.of_run_perform_ok h
  have succeeds := succeeds_of_ending hok
  obtain ⟨payload, keepAlive, hcollect, hending, harrived, -⟩ :=
    counts_transcript succeeds version trailer
  obtain rfl := Except.ok.inj (hok.symm.trans hending)
  obtain ⟨sent, hsent⟩ := head_prefix_of_ending hok
  refine ⟨sent, payload, ⟨full, ?_, hflushes, hflush⟩, rfl, r.statusLine_prefix _, hcollect, rfl,
    ?_, ?_⟩
  · rw [hwritten, hsent]
  · rw [← hsent, arrived_head] at harrived
    exact harrived
  · intro unbroken
    obtain ⟨payload', sent', hcollect', hcarries⟩ := exists_carries succeeds unbroken
    obtain rfl := Except.ok.inj (hcollect.symm.trans hcollect')
    obtain rfl := List.append_cancel_left (hsent.trans hcarries.bytes)
    exact hcarries.recovered

end Response

/-! ### Hooks -/

section

variable {σ μ : Type}

/-- Runs the hook for a completion; a panic leaves a record. -/
def Hook.report (hook : Hook σ) (completion : Completion) : StateM (World σ) Unit := do
  match ← (hook completion).run with
  | .ok () => return ()
  | .error _ =>
    modify (·.record ⟨.error, "completion hook panicked", [("request_id", completion.id)]⟩)

/-- The hook that does nothing. -/
def Hook.silent : Hook σ := fun _ => return ()

namespace Dispatcher

/-- The dispatcher with another hook. -/
def withHook (d : Dispatcher σ μ) (hook : Hook σ) : Dispatcher σ μ :=
  { d with service := { d.service with hook } }

/-- What a hook is told of a request for which a response was delivered. -/
def completionOf (d : Dispatcher σ μ) (fresh : String) (request : Request)
    (delivered : Delivered) : Completion :=
  ⟨d.identifier fresh request, request.method, request.path, delivered.status,
    delivered.bodyBytes⟩

/-- The hook has no part in what a dispatcher prepares. -/
theorem prepare_withHook (d : Dispatcher σ μ) (hook : Hook σ) (fresh : String)
    (request : Request) :
  (d.withHook hook).prepare fresh request = d.prepare fresh request
  := rfl

/-- The hook has no part in what is delivered. -/
theorem deliver_withHook (d : Dispatcher σ μ) (hook : Hook σ) (p : Prepared) (sink : Sink) :
  (d.withHook hook).deliver p sink = d.deliver p sink
  := rfl

/-- What a request is known by is what the completion says. -/
theorem complete_withHook (d : Dispatcher σ μ) (hook : Hook σ) (fresh : String)
    (request : Request) (delivered : Delivered) :
  (d.withHook hook).complete (d.infoOf fresh request) delivered
    = hook.report (d.completionOf fresh request delivered)
  := rfl

/-- A dispatcher with a hook does what it does with one that does nothing; then it runs the hook
once if the response was delivered. -/
theorem respond_withHook (d : Dispatcher σ μ) (hook : Hook σ) (fresh : String) (request : Request)
    (sink : Sink) :
  (d.withHook hook).respond fresh request sink = (do
    let answer ← (d.withHook .silent).respond fresh request sink
    match answer.1 with
    | .ok delivered => hook.report (d.completionOf fresh request delivered)
    | .error _ => pure ()
    return answer)
  := by
  funext world
  have hinfo : ((d.prepare fresh request).run world).1.info = d.infoOf fresh request := by
    rw [run_prepare]
  change ((d.withHook hook).respond fresh request sink).run world = StateT.run _ world
  -- Both runs prepare and deliver the same, in the same worlds; they part at the outcome.
  simp only [respond, World.run_bind, prepare_withHook, deliver_withHook]
  generalize (d.prepare fresh request).run world = prepared at hinfo
  obtain ⟨p, prepared⟩ := prepared
  simp only at hinfo
  generalize (d.deliver p sink).run prepared = answer
  obtain ⟨⟨result, sink'⟩, left⟩ := answer
  cases result with
  | ok delivered =>
    simp only [hinfo, complete_withHook]
    rfl
  | error e => cases e <;> rfl

/-- The hook is run once if the response to a request is delivered, after everything else, and not
at all otherwise; a panic of the hook leaves a record.  The response that is delivered is the one
that is sent for the request, also if it takes the place of another, and the hook is told its status
and the length of its payload. -/
theorem respond_reports (d : Dispatcher σ μ) (fresh : String) (request : Request) (sink : Sink) :
  (∀ hook : Hook σ, (d.withHook hook).respond fresh request sink = (do
      let answer ← (d.withHook .silent).respond fresh request sink
      match answer.1 with
      | .ok delivered => hook.report (d.completionOf fresh request delivered)
      | .error _ => pure ()
      return answer))
    ∧ ∀ world delivered sink',
      ((d.respond fresh request sink).run world).1 = (.ok delivered, sink') →
      ∃ base world' r sent payload, (d.dispatch fresh request).run world = (base, world')
        ∧ d.Sends fresh request base world' r
        ∧ r.Delivers (d.framingOf (d.infoOf fresh request) r) sink delivered sink' sent payload
  := by
  refine ⟨fun hook => d.respond_withHook hook fresh request sink, ?_⟩
  intro world delivered sink' h
  rcases hdispatch : (d.dispatch fresh request).run world with ⟨base, world'⟩
  obtain ⟨r, hsends⟩ := d.exists_sends fresh request base world'
  rw [hsends.fst_run_respond hdispatch, write] at h
  obtain ⟨sent, payload, hdelivers⟩ := Response.exists_delivers h
  exact ⟨base, world', r, sent, payload, rfl, hsends, hdelivers⟩

end Dispatcher

end

end HttpDispatch
