import HttpDispatch.Proofs.Body.Pulling

/-!
# Sending a response

A response fails early if its body is a stream that fails before any data.  Nothing of such a
response is written, and another may be; every other response is written up to where it fails or
the sink is full, and then no other may be, though nothing is written either if its body panics
before any data.  What a sink takes of a response is what fits into it of the bytes that an
unlimited sink takes.
-/

namespace HttpDispatch

/-! ### Early failures -/

/-- The source fails before it gives any data. -/
def Source.FailsWith (s : Source) (e : SourceError) : Prop :=
  ∃ front back, s = front ++ .failure e :: back
    ∧ ∀ event ∈ front, event = .pending ∨ event = .item []

namespace Response

/-- The body that is sent. -/
def sentBody (r : Response) : Body := if r.status.forbidsBody then .empty else r.body

/-- The body that is sent fails before it gives any data. -/
def FailsEarly (r : Response) (reason : String) : Prop :=
  ∃ source, r.sentBody = .stream source ∧ source.FailsWith (.failed reason)

/-- The body that is sent panics before it gives any data: it asks for too much room. -/
def PanicsEarly (r : Response) : Prop :=
  ∃ source, r.sentBody = .stream source ∧ source.FailsWith .oversized

theorem transcript_of_full {r : Response} {data : Bytes} (h : r.sentBody = .full data)
    (version : ℕ) (trailer : String) :
  r.transcript version trailer = r.fullTranscript data
  := by
  rw [transcript, ← sentBody, h]

theorem transcript_of_stream {r : Response} {source : Source} (h : r.sentBody = .stream source)
    (version : ℕ) (trailer : String) :
  r.transcript version trailer = r.streamTranscript source version trailer
  := by
  rw [transcript, ← sentBody, h]

theorem failsFirst?_cons {event : Event} (h : event = .pending ∨ event = .item []) (s : Source) :
  failsFirst? (event :: s) = failsFirst? s
  := by
  have hpull : (Encoder.ofSource (event :: s)).pull = (Encoder.ofSource s).pull :=
    (Encoder.idle_cons h 0 s).2.2.2.1
  rw [failsFirst?, hpull, failsFirst?]

theorem failsFirst?_eq_some_iff {s : Source} {e : SourceError} :
  failsFirst? s = some e ↔ s.FailsWith e
  := by
  induction s with
  | nil => simp [failsFirst?, Encoder.pull, Encoder.ofSource, Encoder.pullSource, Encoder.drain,
      Source.FailsWith]
  | cons event s ih =>
    by_cases hidle : event = .pending ∨ event = .item []
    · rw [failsFirst?_cons hidle, ih]
      constructor
      · rintro ⟨front, back, rfl, hfront⟩
        use event :: front, back, rfl
        intro event' hevent'
        rcases List.mem_cons.1 hevent' with rfl | hmem
        · exact hidle
        · apply hfront event' hmem
      · rintro ⟨front, back, hs, hfront⟩
        cases front with
        | nil =>
          obtain ⟨rfl, -⟩ := List.cons.inj hs
          simp at hidle
        | cons event' front =>
          obtain ⟨-, rfl⟩ := List.cons.inj hs
          use front, back, rfl, (List.forall_mem_cons.1 hfront).2
    · constructor
      · intro h
        cases event with
        | pending => exact absurd (.inl rfl) hidle
        | item data =>
          cases data with
          | nil => exact absurd (.inr rfl) hidle
          | cons b data => cases h
        | failure e' =>
          obtain rfl : e' = e := Option.some.inj h
          use [], s, rfl
          intro event hevent
          cases hevent
      · rintro ⟨front, back, hs, hfront⟩
        cases front with
        | nil =>
          obtain ⟨rfl, rfl⟩ := List.cons.inj hs
          rfl
        | cons event' front =>
          obtain ⟨rfl, -⟩ := List.cons.inj hs
          exact absurd (List.forall_mem_cons.1 hfront).1 hidle

/-- Nothing is written of a response that fails early. -/
theorem transcript_of_failsEarly {r : Response} {reason : String} (h : r.FailsEarly reason)
    (version : ℕ) (trailer : String) :
  r.transcript version trailer = ⟨[], .error (.unsent reason)⟩
  := by
  obtain ⟨source, hbody, hfails⟩ := h
  rw [transcript_of_stream hbody, streamTranscript, failsFirst?_eq_some_iff.2 hfails]

/-- Nothing is written of a response that panics early. -/
theorem transcript_of_panicsEarly {r : Response} (h : r.PanicsEarly) (version : ℕ)
    (trailer : String) :
  r.transcript version trailer = ⟨[], .error .oversized⟩
  := by
  obtain ⟨source, hbody, hfails⟩ := h
  rw [transcript_of_stream hbody, streamTranscript, failsFirst?_eq_some_iff.2 hfails]

end Response

/-! ### Sinks with little room -/

namespace Sink

/-- What fits into the sink of some bytes. -/
def fitting (w : Sink) (data : Bytes) : Bytes :=
  match w.room with
  | none => data
  | some n => data.take n

/-- A sink that is given bytes takes all of them and goes on, or takes what fits and fails. -/
inductive Takes (w : Sink) (data : Bytes) : Except DeliveryError Unit → Sink → Prop
  | all {w' : Sink} (written : w'.written = w.written ++ data)
      (fitting : ∀ more, w.fitting (data ++ more) = data ++ w'.fitting more) :
    Takes w data (.ok ()) w'
  | part {w' : Sink} (sent : ℕ) (written : w'.written = w.written ++ w.fitting data)
      (fitting : ∀ more, w.fitting (data ++ more) = w.fitting data) :
    Takes w data (.error (.aborted sent closed)) w'

theorem fitting_nil (w : Sink) :
  w.fitting [] = []
  := by
  rw [fitting]
  cases w.room with
  | none => rfl
  | some n => apply List.take_nil

theorem fitting_prefix (w : Sink) (data : Bytes) :
  w.fitting data <+: data
  := by
  rw [fitting]
  cases w.room with
  | none => exact List.prefix_rfl
  | some n => apply List.take_prefix

theorem written_cons (w : Sink) (room : Option ℕ) (data : Bytes) :
  ({ w with room, taken := data :: w.taken } : Sink).written = w.written ++ data
  := by
  simp [written]

end Sink

namespace Writing

/-- An error ends the steps. -/
theorem run_bind_of_error {α β : Type} {m : Writing α} {next : α → Writing β} {w w' : Sink}
    {e : DeliveryError} (h : m.run.run w = (.error e, w')) :
  (m >>= next).run.run w = (.error e, w')
  := by
  rw [ExceptT.run_bind, StateT.run_bind, h]
  rfl

/-- What a sink answers when it is given bytes. -/
theorem run_put_eq (sent : ℕ) (data : Bytes) (w : Sink) :
  (put sent data).run.run w = ((w.write data).1.mapError (.aborted sent), (w.write data).2)
  := by
  have hwrite : (modifyGet (·.write data) : Writing (Except String Unit)).run.run w
      = (.ok (w.write data).1, (w.write data).2) := rfl
  rw [put, run_bind_of_ok hwrite]
  cases (w.write data).1 <;> rfl

/-- What a sink answers when it is flushed. -/
theorem run_flush_eq (sent : ℕ) (w : Sink) :
  (flush sent).run.run w = (w.flush.1.mapError (.aborted sent), w.flush.2)
  := by
  have hflush : (modifyGet Sink.flush : Writing (Except String Unit)).run.run w
      = (.ok w.flush.1, w.flush.2) := rfl
  rw [flush, run_bind_of_ok hflush]
  cases w.flush.1 <;> rfl

theorem takes_put (sent : ℕ) (data : Bytes) (w : Sink) :
  w.Takes data ((put sent data).run.run w).1 ((put sent data).run.run w).2
  := by
  rw [run_put_eq, Sink.write]
  cases hroom : w.room with
  | none =>
    constructor
    · apply w.written_cons
    · intro more
      simp only [Sink.fitting, hroom]
  | some n =>
    by_cases hdata : data.length ≤ n
    · simp only [hdata, if_true]
      constructor
      · apply w.written_cons
      · intro more
        simp only [Sink.fitting, hroom]
        rw [List.take_append, List.take_of_length_le hdata]
    · simp only [hdata, if_false]
      constructor
      · rw [Sink.written_cons]
        simp only [Sink.fitting, hroom]
      · intro more
        simp only [Sink.fitting, hroom]
        apply List.take_append_of_le_length (Nat.le_of_not_le hdata)

end Writing

namespace Transcript

theorem takes_putAll (ws : List (ℕ × Bytes)) (w : Sink) :
  w.Takes (ws.map Prod.snd).flatten ((putAll ws).run.run w).1 ((putAll ws).run.run w).2
  := by
  induction ws generalizing w with
  | nil => apply Sink.Takes.all (List.append_nil _).symm fun _ => rfl
  | cons v ws ih =>
    rw [putAll, List.map_cons, List.flatten_cons]
    have hfirst := Writing.takes_put v.1 v.2 w
    generalize hrun : (Writing.put v.1 v.2).run.run w = first at hfirst
    obtain ⟨result, w'⟩ := first
    cases hfirst with
    | all written fitting =>
      rw [Writing.run_bind_of_ok hrun]
      have hrest := ih w'
      generalize (putAll ws).run.run w' = rest at hrest
      obtain ⟨result, w''⟩ := rest
      cases hrest with
      | all written' fitting' =>
        constructor
        · rw [written', written, List.append_assoc]
        · intro more
          rw [List.append_assoc, fitting, fitting', List.append_assoc]
      | part sent written' fitting' =>
        constructor
        · rw [written', written, fitting, List.append_assoc]
        · intro more
          rw [List.append_assoc, fitting, fitting', fitting]
    | part sent written fitting =>
      rw [Writing.run_bind_of_error hrun]
      constructor
      · rw [written, fitting]
      · intro more
        rw [List.append_assoc, fitting, fitting]

/-- A sink takes what fits into it of the bytes of a transcript.  The transcript ends as it should
or is aborted because the sink fails. -/
theorem perform_cases (t : Transcript) (w : Sink) :
  (t.perform.run.run w).2.written = w.written ++ w.fitting t.bytes
    ∧ ((t.perform.run.run w).1 = t.ending
      ∨ ∃ sent reason, (t.perform.run.run w).1 = .error (.aborted sent reason))
  := by
  have hall := takes_putAll t.writes w
  rw [perform]
  generalize hrun : (putAll t.writes).run.run w = all at hall
  obtain ⟨result, w'⟩ := all
  cases hall with
  | all written fitting =>
    have hbytes : w.fitting t.bytes = t.bytes := by
      have hnil := fitting []
      rwa [w'.fitting_nil, List.append_nil] at hnil
    rw [Writing.run_bind_of_ok hrun, hbytes, bytes, ← written]
    cases t.ending with
    | error e => exact ⟨rfl, .inl rfl⟩
    | ok delivered =>
      have hflush := Writing.run_flush_eq delivered.bodyBytes w'
      cases hresult : w'.flush.1 with
      | ok _ =>
        rw [hresult] at hflush
        rw [Writing.run_bind_of_ok hflush]
        exact ⟨rfl, .inl rfl⟩
      | error reason =>
        rw [hresult] at hflush
        rw [Writing.run_bind_of_error hflush]
        exact ⟨rfl, .inr ⟨delivered.bodyBytes, reason, rfl⟩⟩
  | part sent written _ =>
    rw [Writing.run_bind_of_error hrun]
    exact ⟨written, .inr ⟨sent, Sink.closed, rfl⟩⟩

/-- A sink that takes all of a transcript goes on with the room that is left. -/
theorem fitting_of_perform_ok {t : Transcript} {w : Sink} {delivered : Delivered}
    (h : (t.perform.run.run w).1 = .ok delivered) (more : Bytes) :
  w.fitting (t.bytes ++ more) = t.bytes ++ (t.perform.run.run w).2.fitting more
  := by
  have hall := takes_putAll t.writes w
  rw [perform] at h ⊢
  generalize hrun : (putAll t.writes).run.run w = all at hall
  obtain ⟨result, w'⟩ := all
  cases hall with
  | all _ fitting =>
    rw [Writing.run_bind_of_ok hrun] at h ⊢
    cases hending : t.ending with
    | error e =>
      rw [hending] at h
      cases h
    | ok delivered' =>
      have hflush := Writing.run_flush_eq delivered'.bodyBytes w'
      rw [hending] at h
      cases hresult : w'.flush.1 with
      | ok _ =>
        rw [hresult] at hflush
        rw [Writing.run_bind_of_ok hflush]
        exact fitting more
      | error reason =>
        rw [hresult] at hflush
        rw [Writing.run_bind_of_error hflush] at h
        cases h
  | part sent _ _ =>
    rw [Writing.run_bind_of_error hrun] at h
    cases h

end Transcript

/-! ### Responses that do not fail early -/

/-- Only a failure of the source ends its writes with an error. -/
theorem Source.exists_failure_of_snd_writes {trailer : Option String} {sent : ℕ} {s : Source}
    {e : DeliveryError} (h : (s.writes trailer sent).2 = .error e) :
  ∃ f n, .failure f ∈ s ∧ e = f.abort n
  := by
  induction s generalizing sent with
  | nil => cases h
  | cons event s ih =>
    have hrest : ∀ {sent}, (Source.writes trailer sent s).2 = .error e →
        ∃ f n, .failure f ∈ event :: s ∧ e = f.abort n := by
      intro sent hs
      obtain ⟨f, n, hf, he⟩ := ih hs
      exact ⟨f, n, .tail _ hf, he⟩
    cases event with
    | pending => apply hrest h
    | item data =>
      cases data with
      | nil => apply hrest h
      | cons b data => apply hrest h
    | failure f => exact ⟨f, sent, .head _, (Except.error.inj h).symm⟩

theorem SourceError.abort_ne_unsent (f : SourceError) (n : ℕ) (reason : String) :
  f.abort n ≠ .unsent reason
  := by
  intro h
  cases f <;> cases h

namespace Response

/-- A response that does not fail early ends with an error only if its source fails. -/
theorem exists_failure_of_ending {r : Response} (h : ∀ reason, ¬ r.FailsEarly reason)
    {version : ℕ} {trailer : String} {e : DeliveryError}
    (hending : (r.transcript version trailer).ending = .error e) :
  ∃ source f n, r.sentBody = .stream source ∧ .failure f ∈ source ∧ e = f.abort n
  := by
  cases hbody : r.sentBody with
  | full data =>
    rw [transcript_of_full hbody] at hending
    cases hending
  | stream source =>
    rw [transcript_of_stream hbody, streamTranscript] at hending
    cases hfirst : failsFirst? source with
    | some f =>
      have hfails := failsFirst?_eq_some_iff.1 hfirst
      rw [hfirst] at hending
      cases f with
      | failed reason => exact absurd ⟨source, hbody, hfails⟩ (h reason)
      | oversized =>
        obtain rfl := Except.error.inj hending
        obtain ⟨front, back, rfl, -⟩ := hfails
        exact ⟨_, .oversized, 0, rfl, by simp, rfl⟩
    | none =>
      rw [hfirst] at hending
      simp only at hending
      generalize hwrites : (source.writes _ 0).2 = ending at hending
      cases ending with
      | ok sent => cases hending
      | error e' =>
        obtain rfl : e' = e := Except.error.inj hending
        obtain ⟨f, n, hf, he⟩ := Source.exists_failure_of_snd_writes hwrites
        exact ⟨source, f, n, rfl, hf, he⟩

/-- A response that does not fail early is sent from its head on, or its body panics early and
nothing is sent. -/
theorem transcript_of_not_failsEarly {r : Response} (h : ∀ reason, ¬ r.FailsEarly reason)
    (version : ℕ) (trailer : String) :
  (∀ reason, (r.transcript version trailer).ending ≠ .error (.unsent reason))
    ∧ (r.PanicsEarly ∧ (r.transcript version trailer).bytes = []
      ∨ r.head (r.sentBody.framing version trailer) <+: (r.transcript version trailer).bytes)
  := by
  constructor
  · intro reason hending
    obtain ⟨source, f, n, -, -, he⟩ := exists_failure_of_ending h hending
    exact f.abort_ne_unsent n reason he.symm
  · cases hbody : r.sentBody with
    | full data =>
      rw [transcript_of_full hbody]
      right
      use data
      apply (List.append_nil _).symm
    | stream source =>
      rw [transcript_of_stream hbody, streamTranscript]
      cases hfirst : failsFirst? source with
      | some e =>
        cases e with
        | failed reason =>
          exact absurd ⟨source, hbody, failsFirst?_eq_some_iff.1 hfirst⟩ (h reason)
        | oversized => exact .inl ⟨⟨source, hbody, failsFirst?_eq_some_iff.1 hfirst⟩, rfl⟩
      | none =>
        right
        simp [Transcript.bytes, Body.framing]

/-- A response that is sent to its end is sent from its head on. -/
theorem head_prefix_of_ending {r : Response} {version : ℕ} {trailer : String}
    {delivered : Delivered} (h : (r.transcript version trailer).ending = .ok delivered) :
  r.head (r.sentBody.framing version trailer) <+: (r.transcript version trailer).bytes
  := by
  have hsound : ∀ reason, ¬ r.FailsEarly reason := by
    intro reason hfails
    rw [transcript_of_failsEarly hfails] at h
    cases h
  obtain ⟨-, ⟨hpanics, -⟩ | hhead⟩ := transcript_of_not_failsEarly hsound version trailer
  · rw [transcript_of_panicsEarly hpanics] at h
    cases h
  · exact hhead

end Response

end HttpDispatch
