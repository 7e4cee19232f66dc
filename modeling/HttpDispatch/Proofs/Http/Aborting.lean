import HttpDispatch.Proofs.Http.Sending

/-!
# Aborted responses

A response whose source fails, or of which a write fails, is cut off before its end.  Of a body in
chunks no beginning but the whole is a body, so a client waits for the rest of what was cut off
and never takes it for the response.
-/

namespace HttpDispatch

open Text

/-! ### Beginnings of a body -/

/-- No beginning of a body in chunks but the whole is a body. -/
theorem Chunked.decode_of_front {front back : Bytes} {body : List Bytes × List Bytes}
    (h : decode (front ++ back) = .done body []) (hback : back ≠ []) :
  decode front = .incomplete
  := (steady_decode front).incomplete_of_append h (List.length_pos_iff.2 hback)

theorem frameLast_ne_nil (trailer : String) (total : ℕ) :
  frameLast trailer total ≠ []
  := by
  rw [frameLast, ne_eq, utf8_eq_nil_iff]
  simp

/-- What a source writes in chunks is the beginning of a body, and the whole of it if the source
ends. -/
theorem Source.exists_frames (trailer : String) (sent : ℕ) (s : Source) :
  ∃ (items : List Bytes) (total : ℕ) (back : Bytes), (∀ data ∈ items, data ≠ [])
    ∧ items.flatMap frameChunk ++ frameLast trailer total
      = ((s.writes (some trailer) sent).1.map Prod.snd).flatten ++ back
    ∧ ((s.writes (some trailer) sent).2.isOk ↔ back = [])
  := by
  induction s generalizing sent with
  | nil =>
    use [], sent, []
    simp [writes, Except.isOk, Except.toBool]
  | cons event s ih =>
    cases event with
    | pending => apply ih
    | item data =>
      cases data with
      | nil => apply ih
      | cons b data =>
        obtain ⟨items, total, back, hitems, hframes, hend⟩ := ih (sent + (b :: data).length)
        use (b :: data) :: items, total, back
        refine ⟨List.forall_mem_cons.2 ⟨List.cons_ne_nil b data, hitems⟩, ?_, hend⟩
        rw [List.flatMap_cons, List.append_assoc, hframes, ← List.append_assoc]
        rfl
    | failure e =>
      use [], sent, frameLast trailer sent, by simp, rfl
      simp [writes, Except.isOk, Except.toBool, frameLast_ne_nil]

/-! ### Sinks that stop -/

/-- A sink takes all the bytes that it is given, or it stops before the end of them. -/
inductive Sink.Receives (w : Sink) (data : Bytes) : Except DeliveryError Unit → Sink → Prop
  | whole {w' : Sink} (written : w'.written = w.written ++ data)
      (flushes : w'.flushes = w.flushes) : Receives w data (.ok ()) w'
  | part {w' : Sink} {e : DeliveryError} {front back : Bytes} (cut : data = front ++ back)
      (missing : back ≠ []) (written : w'.written = w.written ++ front)
      (flushes : w'.flushes = w.flushes) : Receives w data (.error e) w'

theorem Writing.receives_put (sent : ℕ) (data : Bytes) (w : Sink) :
  w.Receives data ((put sent data).run.run w).1 ((put sent data).run.run w).2
  := by
  rw [run_put_eq, Sink.write]
  cases w.room with
  | none => exact .whole (w.written_cons _ data) rfl
  | some n =>
    by_cases hdata : data.length ≤ n
    · simp only [hdata, if_true]
      exact .whole (w.written_cons _ data) rfl
    · simp only [hdata, if_false]
      apply Sink.Receives.part (List.take_append_drop n data).symm ?_ (w.written_cons _ _) rfl
      rw [ne_eq, List.drop_eq_nil_iff]
      exact hdata

namespace Transcript

theorem receives_putAll (ws : List (ℕ × Bytes)) (w : Sink) :
  w.Receives (ws.map Prod.snd).flatten ((putAll ws).run.run w).1 ((putAll ws).run.run w).2
  := by
  induction ws generalizing w with
  | nil => exact .whole (List.append_nil _).symm rfl
  | cons v ws ih =>
    rw [putAll, List.map_cons, List.flatten_cons]
    have hfirst := Writing.receives_put v.1 v.2 w
    generalize hrun : (Writing.put v.1 v.2).run.run w = first at hfirst
    obtain ⟨result, w'⟩ := first
    cases hfirst with
    | whole written flushes =>
      rw [Writing.run_bind_of_ok hrun]
      have hrest := ih w'
      generalize (putAll ws).run.run w' = rest at hrest
      obtain ⟨result, w''⟩ := rest
      cases hrest with
      | whole written' flushes' =>
        constructor
        · rw [written', written, List.append_assoc]
        · rw [flushes', flushes]
      | part cut missing written' flushes' =>
        apply Sink.Receives.part _ missing
        · rw [written', written, List.append_assoc]
        · rw [flushes', flushes]
        · rw [cut, List.append_assoc]
    | @part _ e front back cut missing written flushes =>
      rw [Writing.run_bind_of_error hrun]
      apply @Sink.Receives.part _ _ _ _ front (back ++ (ws.map Prod.snd).flatten) _ _ written flushes
      · rw [cut, List.append_assoc]
      · simp [missing]

/-- What becomes of a transcript: all of it is written and the sink is flushed, or it stops at the
end of its writes, because it is to end with an error, or before. -/
inductive Performed (t : Transcript) (w : Sink) : Except DeliveryError Delivered → Sink → Prop
  | flushed {w' : Sink} {delivered : Delivered} {result : Except DeliveryError Delivered}
      (ending : t.ending = .ok delivered)
      (outcome : result = .ok delivered
        ∨ result = .error (.aborted delivered.bodyBytes Sink.flushFailed))
      (written : w'.written = w.written ++ t.bytes) (flushes : w'.flushes = w.flushes + 1) :
      Performed t w result w'
  | stopped {w' : Sink} {e : DeliveryError} {front back : Bytes} (cut : t.bytes = front ++ back)
      (missing : back ≠ [] ∨ t.ending = .error e) (written : w'.written = w.written ++ front)
      (flushes : w'.flushes = w.flushes) : Performed t w (.error e) w'

theorem performed_perform (t : Transcript) (w : Sink) :
  t.Performed w (t.perform.run.run w).1 (t.perform.run.run w).2
  := by
  have hall := receives_putAll t.writes w
  rw [perform]
  generalize hrun : (putAll t.writes).run.run w = all at hall
  obtain ⟨result, w'⟩ := all
  cases hall with
  | whole written flushes =>
    rw [Writing.run_bind_of_ok hrun]
    cases hending : t.ending with
    | error e => exact .stopped (List.append_nil _).symm (.inr hending) written flushes
    | ok delivered =>
      have hflush := Writing.run_flush_eq delivered.bodyBytes w'
      rw [Sink.flush] at hflush
      by_cases hfails : w'.flushFails
      · rw [if_pos hfails] at hflush
        simp only
        rw [Writing.run_bind_of_error hflush]
        apply Performed.flushed hending (.inr rfl)
        · exact written
        · exact congrArg (· + 1) flushes
      · rw [if_neg hfails] at hflush
        simp only
        rw [Writing.run_bind_of_ok hflush]
        apply Performed.flushed hending (.inl rfl)
        · exact written
        · exact congrArg (· + 1) flushes
  | part cut missing written flushes =>
    rw [Writing.run_bind_of_error hrun]
    exact .stopped cut (.inl missing) written flushes

end Transcript

/-! ### What is left on the connection -/

namespace Response

variable {r : Response} {source : Source} {version : ℕ} {trailer : String}

/-- The bytes of a response in chunks are nothing, if its source fails before any data, or they
are the head and the beginning of a body, the whole of it if the source ends. -/
theorem transcript_frames (permits : r.status.forbidsBody = false) (stream : r.body = .stream source)
    (hversion : 1 ≤ version) :
  ((r.transcript version trailer).bytes = [] ∧ ∃ e, (r.transcript version trailer).ending = .error e)
    ∨ ∃ (sent : Bytes) (items : List Bytes) (total : ℕ) (back : Bytes),
      (r.transcript version trailer).bytes = r.head (.chunked trailer) ++ sent
      ∧ (∀ data ∈ items, data ≠ [])
      ∧ items.flatMap frameChunk ++ frameLast trailer total = sent ++ back
      ∧ ((r.transcript version trailer).ending.isOk ↔ back = [])
  := by
  have hbody : r.sentBody = .stream source := by
    rw [sentBody, permits, stream]
    rfl
  rw [transcript_of_stream hbody, streamTranscript]
  cases failsFirst? source with
  | some e =>
    left
    cases e with
    | failed reason => exact ⟨rfl, _, rfl⟩
    | oversized => exact ⟨rfl, _, rfl⟩
  | none =>
    right
    obtain ⟨items, total, back, hitems, hframes, hend⟩ := source.exists_frames trailer 0
    use ((source.writes (some trailer) 0).1.map Prod.snd).flatten, items, total, back
    simp only [hversion, decide_true, if_true]
    refine ⟨rfl, hitems, hframes, ?_⟩
    rw [← hend]
    cases (source.writes (some trailer) 0).2 with
    | error e => rfl
    | ok n => rfl

/-- What stops before the end of the head and a body is the beginning of a body behind the head,
and not the whole of it. -/
theorem decode_drop_of_stopped {head sent back missing : Bytes} {items : List Bytes} {total : ℕ}
    (hcr : '\r' ∉ trailer.toList) (hlf : '\n' ∉ trailer.toList)
    (hitems : ∀ data ∈ items, data ≠ [])
    (hframes : items.flatMap frameChunk ++ frameLast trailer total = sent ++ back)
    {front : Bytes} (hcut : head ++ sent = front ++ missing) (hmissing : missing ≠ [] ∨ back ≠ []) :
  Chunked.decode (front.drop head.length) = .incomplete
  := by
  by_cases hhead : front.length ≤ head.length
  · rw [List.drop_eq_nil_of_le hhead, Chunked.decode_eq]
    rfl
  · have hsent : sent = front.drop head.length ++ missing := by
      rw [← List.drop_append_of_le_length (Nat.le_of_not_le hhead), ← hcut, List.drop_left]
    apply @Chunked.decode_front _ hcr hlf _ hitems total _ (missing ++ back)
    · rw [hframes, hsent, List.append_assoc]
    · simpa [imp_iff_not_or] using hmissing

/-- When a response in chunks ends with an error before the sink is flushed, since its source or a
write failed, then what was written behind its head is not all of a body; a client waits for more.
Only when the sink fails to be flushed does an error follow a whole body. -/
theorem decode_of_write_error (permits : r.status.forbidsBody = false)
    (stream : r.body = .stream source) (hversion : 1 ≤ version)
    (hcr : '\r' ∉ trailer.toList) (hlf : '\n' ∉ trailer.toList) {w w' : Sink} {e : DeliveryError}
    (failed : (r.write version trailer).run.run w = (.error e, w')) :
  (∃ sent, w'.written = w.written ++ sent
    ∧ (w'.flushes = w.flushes →
        Chunked.decode (sent.drop (r.head (.chunked trailer)).length) = .incomplete)
    ∧ (w'.flushes ≠ w.flushes → ∃ total body, e = .aborted total Sink.flushFailed
        ∧ Chunked.decode (sent.drop (r.head (.chunked trailer)).length) = .done body []))
    ∧ ∀ front back body, Chunked.decode (front ++ back) = .done body [] → back ≠ [] →
        Chunked.decode front = .incomplete
  := by
  refine ⟨?_, fun front back body => Chunked.decode_of_front⟩
  have hperformed : (r.transcript version trailer).Performed w (.error e) w' := by
    have h := (r.transcript version trailer).performed_perform w
    rw [← write_eq_perform, failed] at h
    exact h
  have hframes := @transcript_frames r source version trailer permits stream hversion
  cases hperformed with
  | @flushed _ delivered _ ending outcome written flushes =>
    use (r.transcript version trailer).bytes, written
    refine ⟨fun heq => absurd (flushes.symm.trans heq) (Nat.succ_ne_self _), fun _ => ?_⟩
    obtain ⟨rfl⟩ : e = .aborted delivered.bodyBytes Sink.flushFailed := by simpa using outcome
    rcases hframes with ⟨-, e, herror⟩ | ⟨sent, items, total, back, hbytes, hitems, hall, hend⟩
    · cases ending.symm.trans herror
    · obtain rfl : back = [] := hend.1 (by rw [ending]; rfl)
      have hwhole := Chunked.decode_frames hcr hlf hitems total []
      rw [List.append_nil, hall, List.append_nil] at hwhole
      rw [hbytes, List.drop_left]
      exact ⟨_, _, rfl, hwhole⟩
  | @stopped _ _ front missing cut hmissing written flushes =>
    use front, written
    refine ⟨fun _ => ?_, fun hne => absurd flushes hne⟩
    rcases hframes with ⟨hbytes, -⟩ | ⟨sent, items, total, back, hbytes, hitems, hall, hend⟩
    · obtain ⟨rfl, -⟩ := List.append_eq_nil_iff.1 (cut.symm.trans hbytes)
      rw [List.drop_nil, Chunked.decode_eq]
      rfl
    · apply decode_drop_of_stopped hcr hlf hitems hall (hbytes.symm.trans cut)
      apply hmissing.imp_right
      intro hending hback
      cases hending ▸ hend.2 hback

/-- A stream that fails behind a piece that looks like the end of a body. -/
def broken : Response :=
  (new .ok).withBody (.stream [.item (utf8 "0\r\n\r\n"), .failure (.failed "gone")])

theorem decode_of_write_error_broken :
  (broken.write 1 "X-Length").run.run .unlimited
      = (.error (.aborted 5 "gone"), ((broken.write 1 "X-Length").run.run .unlimited).2)
    ∧ Chunked.decode (((broken.write 1 "X-Length").run.run .unlimited).2.written.drop
        (broken.head (.chunked "X-Length")).length) = .incomplete
  := by
  have failed : (broken.write 1 "X-Length").run.run .unlimited
      = (.error (.aborted 5 "gone"), ((broken.write 1 "X-Length").run.run .unlimited).2) := rfl
  obtain ⟨⟨sent, hsent, hincomplete, -⟩, -⟩ :=
    @decode_of_write_error broken _ 1 "X-Length" rfl rfl (by decide) (by decide) (by decide)
      _ _ _ failed
  use failed
  rw [hsent]
  exact hincomplete rfl

end Response

end HttpDispatch
