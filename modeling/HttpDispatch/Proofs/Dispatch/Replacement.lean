import HttpDispatch.Proofs.Dispatch.Dispatching
import HttpDispatch.Proofs.Http.Sending

/-!
# Responses in place of others

A response that fails before any of its data leaves the sink as it was, and the response to that
failure takes its place; if that one fails in the same way too, a response that cannot fail does.
So exactly one response is written, whatever the sink takes of it.
-/

namespace HttpDispatch

theorem Response.not_failsEarly_of_full {r : Response} {data : Bytes} (h : r.body = .full data)
    (reason : String) :
  ¬ r.FailsEarly reason
  := by
  rintro ⟨source, hbody, -⟩
  rw [sentBody, h] at hbody
  split at hbody
  · cases hbody
  · cases hbody

namespace Dispatcher

variable {σ μ : Type} {d : Dispatcher σ μ}

/-! ### Writing one response -/

/-- How the body of a response to a request is delimited. -/
def framingOf (d : Dispatcher σ μ) (info : RequestInfo) (r : Response) : Framing :=
  r.sentBody.framing info.version d.service.config.lengthTrailer

/-- A response that fails early leaves the sink as it was. -/
theorem write_of_failsEarly (info : RequestInfo) {r : Response} {reason : String}
    (h : r.FailsEarly reason) (sink : Sink) :
  d.write info r sink = (.error (.unsent reason), sink)
  := by
  rw [write, Response.write_eq_perform, Response.transcript_of_failsEarly h]
  rfl

/-- A response that does not fail early is written as far as it fits, and no other response could be
written after it. -/
theorem write_of_not_failsEarly (info : RequestInfo) {r : Response}
    (h : ∀ reason, ¬ r.FailsEarly reason) (sink : Sink) :
  (d.write info r sink).2.written
      = sink.written ++ sink.fitting (d.write info r .unlimited).2.written
    ∧ (∀ reason, (d.write info r sink).1 ≠ .error (.unsent reason))
    ∧ (r.PanicsEarly ∧ (d.write info r .unlimited).2.written = []
      ∨ r.head (d.framingOf info r) <+: (d.write info r .unlimited).2.written)
  := by
  obtain ⟨hunsent, hhead⟩ :=
    Response.transcript_of_not_failsEarly h info.version d.service.config.lengthTrailer
  have hunlimited : d.write info r .unlimited = _ := write_of_takesAll info r ⟨rfl, rfl⟩
  rw [hunlimited, Transcript.written_takenBy]
  refine ⟨?_, ?_, hhead⟩
  · rw [write, Response.write_eq_perform]
    apply (Transcript.perform_cases _ sink).1
  · intro reason
    rw [write, Response.write_eq_perform]
    rcases (Transcript.perform_cases _ sink).2 with hending | ⟨sent, reason', haborted⟩
    · rw [hending]
      apply hunsent
    · rw [haborted]
      intro hunsent
      cases hunsent

/-! ### Writing one of three responses -/

/-- The response that is written for a request to which `base` is the response, in the world that
dispatching leaves. -/
inductive Sends (d : Dispatcher σ μ) (fresh : String) (request : Request) (base : Response)
    (world : World σ) : Response → Prop
  /-- It is `base` itself, if that does not fail early. -/
  | prepared (sound : ∀ reason, ¬ base.FailsEarly reason) : Sends d fresh request base world base
  /-- It is the one that stands for the failure of `base`, if it does not fail early too. -/
  | translated {reason : String} {other : Response} (fails : base.FailsEarly reason)
      (translates : d.Translates (d.infoOf fresh request) (.body reason) world other)
      (sound : ∀ reason, ¬ other.FailsEarly reason) :
    Sends d fresh request base world (d.completed fresh request other .empty)
  /-- It is the one that says nothing about the failures. -/
  | generic {reason reason' : String} {other : Response} (fails : base.FailsEarly reason)
      (translates : d.Translates (d.infoOf fresh request) (.body reason) world other)
      (failsAgain : other.FailsEarly reason') :
    Sends d fresh request base world (d.completed fresh request .internalError .empty)

variable {fresh : String} {request : Request} {base r : Response} {world : World σ}

theorem exists_sends (d : Dispatcher σ μ) (fresh : String) (request : Request) (base : Response)
    (world : World σ) :
  ∃ r, d.Sends fresh request base world r
  := by
  by_cases hfails : ∃ reason, base.FailsEarly reason
  · obtain ⟨reason, hfails⟩ := hfails
    obtain ⟨other, htranslates⟩ :
        ∃ other, d.Translates (d.infoOf fresh request) (.body reason) world other :=
      ⟨_, d.translates _ _ world⟩
    by_cases hagain : ∃ reason', other.FailsEarly reason'
    · obtain ⟨reason', hagain⟩ := hagain
      exact ⟨_, .generic hfails htranslates hagain⟩
    · exact ⟨_, .translated hfails htranslates (not_exists.1 hagain)⟩
  · exact ⟨_, .prepared (not_exists.1 hfails)⟩

theorem Sends.not_failsEarly (h : d.Sends fresh request base world r) (reason : String) :
  ¬ r.FailsEarly reason
  := by
  cases h with
  | prepared sound => apply sound
  | translated _ _ sound => apply sound
  | generic _ _ _ =>
    have hfull : (d.completed fresh request .internalError .empty).body
        = .full (Text.utf8 "Internal Server Error") := rfl
    apply Response.not_failsEarly_of_full hfull

/-- What is delivered if the prepared response fails early. -/
theorem fst_run_deliver_of_failsEarly {reason : String} {other : Response}
    (fails : base.FailsEarly reason)
    (translates : d.Translates (d.infoOf fresh request) (.body reason) world other) (sink : Sink) :
  ((d.deliver ⟨d.infoOf fresh request, request.keepAlive, base⟩ sink).run world).1
    = match d.write (d.infoOf fresh request) (d.completed fresh request other .empty) sink with
      | (.error (.unsent _), sink) =>
        d.write (d.infoOf fresh request) (d.completed fresh request .internalError .empty) sink
      | result => result
  := by
  rw [deliver, write_of_failsEarly _ fails]
  simp only [World.run_bind, translates.fst_run_translate, finish_eq_completed_empty]
  generalize d.write _ (d.completed fresh request other .empty) sink = second
  obtain ⟨result, sink'⟩ := second
  cases result with
  | ok _ => rfl
  | error e => cases e <;> rfl

/-- What is delivered is the response that is to be written. -/
theorem Sends.fst_run_deliver (h : d.Sends fresh request base world r) (sink : Sink) :
  ((d.deliver ⟨d.infoOf fresh request, request.keepAlive, base⟩ sink).run world).1
    = d.write (d.infoOf fresh request) r sink
  := by
  obtain ⟨-, hunsent, -⟩ :=
    write_of_not_failsEarly (d := d) (d.infoOf fresh request) h.not_failsEarly sink
  cases h with
  | prepared _ =>
    rw [deliver]
    split
    · rename_i reason _ heq
      exact absurd (congrArg Prod.fst heq) (hunsent reason)
    · rfl
  | translated fails translates _ =>
    rw [fst_run_deliver_of_failsEarly fails translates]
    split
    · rename_i reason _ heq
      exact absurd (congrArg Prod.fst heq) (hunsent reason)
    · rfl
  | @generic _ _ other fails translates failsAgain =>
    have hagain : (d.completed fresh request other .empty).FailsEarly _ := failsAgain
    rw [fst_run_deliver_of_failsEarly fails translates, write_of_failsEarly _ hagain]

/-- A request is answered by writing the response that is to be written for it. -/
theorem Sends.fst_run_respond {world' : World σ} (h : d.Sends fresh request base world' r)
    (hbase : (d.dispatch fresh request).run world = (base, world')) (sink : Sink) :
  ((d.respond fresh request sink).run world).1 = d.write (d.infoOf fresh request) r sink
  := by
  rw [Dispatcher.fst_run_respond, run_prepare, hbase]
  apply h.fst_run_deliver

/-- Whatever the sink, one response is written for a request: the one that dispatching leads to, the
one that stands for the failure of its body, or the one that says nothing.  Its bytes begin with its
head, unless its body panics early, and the sink takes what fits into it of them.  Another response
never could be written. -/
theorem respond_eq_write (fresh : String) (request : Request) (world : World σ) :
  ∃ base world' r, (d.dispatch fresh request).run world = (base, world')
    ∧ d.Sends fresh request base world' r
    ∧ (r.PanicsEarly ∧ (d.write (d.infoOf fresh request) r .unlimited).2.written = []
      ∨ r.head (d.framingOf (d.infoOf fresh request) r)
        <+: (d.write (d.infoOf fresh request) r .unlimited).2.written)
    ∧ ∀ sink,
      ((d.respond fresh request sink).run world).1 = d.write (d.infoOf fresh request) r sink
        ∧ ((d.respond fresh request sink).run world).1.2.written
          = sink.written
            ++ sink.fitting (d.write (d.infoOf fresh request) r .unlimited).2.written
        ∧ ∀ reason, ((d.respond fresh request sink).run world).1.1 ≠ .error (.unsent reason)
  := by
  rcases hdispatch : (d.dispatch fresh request).run world with ⟨base, world'⟩
  obtain ⟨r, hsends⟩ := d.exists_sends fresh request base world'
  have hwrite :=
    write_of_not_failsEarly (d := d) (d.infoOf fresh request) hsends.not_failsEarly
  use base, world', r, rfl, hsends, (hwrite .unlimited).2.2
  intro sink
  rw [hsends.fst_run_respond hdispatch]
  exact ⟨rfl, (hwrite sink).1, (hwrite sink).2.1⟩

end Dispatcher

end HttpDispatch
