import HttpDispatch.Dispatch.Dispatcher
import HttpDispatch.Proofs.Http.Delivery

/-!
# Answering requests

A sink that takes everything still does after a request is answered.
-/

namespace HttpDispatch

/-- Steps go on in the world that the step before them left. -/
theorem World.run_bind {σ α β : Type} (m : StateM (World σ) α) (f : α → StateM (World σ) β)
    (w : World σ) :
  (m >>= f).run w = (f (m.run w).1).run (m.run w).2
  := rfl

theorem Transcript.takesAll_takenBy (t : Transcript) {w : Sink} (hw : w.TakesAll) :
  (t.takenBy w).TakesAll
  := ⟨hw.room, hw.flush⟩

theorem Response.ending_transcript_of_full {r : Response} {data : Bytes} (h : r.body = .full data)
    (version : ℕ) (trailer : String) :
  ∃ sent, (r.transcript version trailer).ending = .ok ⟨r.status, sent, r.keepAlive⟩
  := by
  rw [transcript, h]
  cases r.status.forbidsBody
  · exact ⟨data.length, rfl⟩
  · exact ⟨0, rfl⟩

namespace Dispatcher

variable {σ μ : Type} {d : Dispatcher σ μ}

/-- The outcome of writing a response to a sink that takes everything. -/
theorem write_of_takesAll (info : RequestInfo) (r : Response) {sink : Sink} (h : sink.TakesAll) :
  d.write info r sink
    = ((r.transcript info.version d.service.config.lengthTrailer).ending,
      (r.transcript info.version d.service.config.lengthTrailer).takenBy sink)
  := by
  rw [write, Response.write_eq_perform, Transcript.run_perform _ h]

theorem takesAll_write (info : RequestInfo) (r : Response) {sink : Sink} (h : sink.TakesAll) :
  (d.write info r sink).2.TakesAll
  := by
  rw [write_of_takesAll info r h]
  apply Transcript.takesAll_takenBy _ h

theorem takesAll_deliver (p : Prepared) {sink : Sink} (h : sink.TakesAll) (world : World σ) :
  ((d.deliver p sink).run world).1.2.TakesAll
  := by
  have hfirst : (d.write p.info p.response sink).2.TakesAll := takesAll_write _ _ h
  rw [deliver]
  generalize d.write p.info p.response sink = first at hfirst
  obtain ⟨result, sink'⟩ := first
  cases result with
  | ok delivered => exact hfirst
  | error e =>
    cases e with
    | aborted sent reason => exact hfirst
    | oversized => exact hfirst
    | unsent reason =>
      rw [World.run_bind]
      generalize (d.translate p.info (.body reason)).run world = translated
      obtain ⟨fallback, world'⟩ := translated
      have hsecond : (d.write p.info (d.finish p.info p.keepAlive fallback) sink').2.TakesAll :=
        takesAll_write _ _ hfirst
      simp only
      split
      · rename_i heq
        rw [heq] at hsecond
        apply takesAll_write _ _ hsecond
      · exact hsecond

/-- A request is answered as the response that is prepared for it is delivered. -/
theorem fst_run_respond (fresh : String) (request : Request) (sink : Sink) (world : World σ) :
  ((d.respond fresh request sink).run world).1
    = ((d.deliver ((d.prepare fresh request).run world).1 sink).run
        ((d.prepare fresh request).run world).2).1
  := by
  rw [respond, World.run_bind, World.run_bind]
  generalize (d.deliver _ sink).run _ = delivered
  obtain ⟨⟨result, sink'⟩, world'⟩ := delivered
  cases result with
  | ok _ => rfl
  | error e => cases e <;> rfl

theorem takesAll_respond (fresh : String) (request : Request) {sink : Sink} (h : sink.TakesAll)
    (world : World σ) :
  ((d.respond fresh request sink).run world).1.2.TakesAll
  := by
  rw [fst_run_respond]
  apply takesAll_deliver _ h

/-- The requests of clients that keep the connection open are answered in full, and the
connection stays open. -/
def KeepsAlive (d : Dispatcher σ μ) : Prop :=
  ∀ (fresh : String) (request : Request) (sink : Sink) (world : World σ),
    request.keepAlive → sink.TakesAll →
      ∃ delivered, ((d.respond fresh request sink).run world).1.1 = .ok delivered
        ∧ delivered.keepAlive = true

/-- A dispatcher keeps connections alive if the responses that it prepares do and have all data at
hand. -/
theorem keepsAlive_of_full
    (h : ∀ (fresh : String) (request : Request) (world : World σ), request.keepAlive →
      ∃ data, ((d.prepare fresh request).run world).1.response.body = .full data
        ∧ ((d.prepare fresh request).run world).1.response.keepAlive = true) :
  d.KeepsAlive
  := by
  intro fresh request sink world hkeep hsink
  obtain ⟨data, hdata, halive⟩ := h fresh request world hkeep
  rw [fst_run_respond]
  generalize (d.prepare fresh request).run world = prepared at hdata halive
  obtain ⟨p, world'⟩ := prepared
  obtain ⟨sent, hsent⟩ := Response.ending_transcript_of_full hdata p.info.version
    d.service.config.lengthTrailer
  use ⟨p.response.status, sent, p.response.keepAlive⟩
  rw [deliver, write_of_takesAll _ _ hsink, hsent]
  exact ⟨rfl, halive⟩

/-- Answers requests one after the other; `n` requests were answered before them. -/
def respondAll (d : Dispatcher σ μ) (fresh : ℕ → String) (n : ℕ) :
    List Request → Sink → StateM (World σ) Sink
  | [], sink => return sink
  | request :: requests, sink => do
    let answer ← d.respond (fresh n) request sink
    respondAll d fresh (n + 1) requests answer.2

theorem respondAll_concat (fresh : ℕ → String) (n : ℕ) (requests : List Request)
    (request : Request) (sink : Sink) :
  d.respondAll fresh n (requests ++ [request]) sink = (do
    let sink ← d.respondAll fresh n requests sink
    let answer ← d.respond (fresh (n + requests.length)) request sink
    return answer.2)
  := by
  induction requests generalizing n sink with
  | nil => simp [respondAll]
  | cons r requests ih =>
    simp [respondAll, ih, Nat.add_assoc, Nat.add_comm 1]

end Dispatcher

end HttpDispatch
