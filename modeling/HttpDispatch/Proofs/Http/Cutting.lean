import HttpDispatch.Proofs.Http.Sending
import Mathlib.Data.List.Infix

/-!
# Responses that are cut off

A sink that runs out of room takes the first bytes of a response, up to somewhere inside of one of
its writes.  The number of bytes that count as sent then is that of the data which the writes before
carry, so a client has at least so many, and more only of that write: `Response.write_limited`.
-/

namespace HttpDispatch

open Text

/-! ### Data of a body that is cut off -/

namespace Chunked

/-- The data of the chunks at the beginning of a body, the last of which may be cut off.  After the
data of a chunk stand the two bytes of the end of a line. -/
def arrived (bs : Bytes) : Bytes :=
  match _h : takeLine bs with
  | .done line rest =>
    match size? line with
    | some (n + 1) => rest.take (n + 1) ++ arrived (rest.drop (n + 3))
    | _ => []
  | _ => []
termination_by bs.length
decreasing_by
  have hlt := length_lt_of_takeLine _h
  rw [List.length_drop]
  omega

theorem arrived_of_takeLine {bs line rest : Bytes} {n : ℕ} (h : takeLine bs = .done line rest)
    (hsize : size? line = some (n + 1)) :
  arrived bs = rest.take (n + 1) ++ arrived (rest.drop (n + 3))
  := by
  rw [arrived]
  split
  · rename_i line' rest' h'
    obtain ⟨rfl, rfl⟩ := Scan.done.inj (h.symm.trans h')
    rw [hsize]
  · rename_i hnone
    exact absurd h (hnone line rest)

theorem arrived_eq_nil {bs : Bytes}
    (h : ∀ line rest n, takeLine bs = .done line rest → size? line ≠ some (n + 1)) :
  arrived bs = []
  := by
  rw [arrived]
  split
  · rename_i line rest hline
    split
    · rename_i n hsize
      exact absurd hsize (h line rest n hline)
    · rfl
  · rfl

theorem arrived_nil :
  arrived [] = []
  := by
  apply arrived_eq_nil
  intro line rest n h
  cases h

/-- What has arrived stays when more does. -/
theorem arrived_prefix (bs more : Bytes) :
  arrived bs <+: arrived (bs ++ more)
  := by
  induction bs using arrived.induct with
  | case1 bs line rest h n hsize ih =>
    have hdone : takeLine bs ≠ .incomplete := by
      rw [h]
      intro hincomplete
      cases hincomplete
    have hmore : takeLine (bs ++ more) = .done line (rest ++ more) := by
      rw [(steady_takeLine bs).extend more hdone, h]
      rfl
    rw [arrived_of_takeLine h hsize, arrived_of_takeLine hmore hsize]
    -- More bytes go to the chunks after this one, if it is whole, and else to its data.
    by_cases hwhole : n + 3 ≤ rest.length
    · rw [List.take_append_of_le_length (by omega), List.drop_append_of_le_length hwhole]
      apply (List.prefix_append_right_inj _).2 ih
    · rw [List.drop_eq_nil_of_le (Nat.le_of_not_le hwhole), arrived_nil, List.append_nil]
      apply List.IsPrefix.trans _ (List.prefix_append _ _)
      apply List.IsPrefix.take (List.prefix_append rest more)
  | case2 bs line rest h hsize =>
    have hnil : arrived bs = [] := by
      apply arrived_eq_nil
      intro line' rest' n h' hsize'
      obtain ⟨rfl, rfl⟩ := Scan.done.inj (h.symm.trans h')
      exact hsize n hsize'
    rw [hnil]
    apply List.nil_prefix
  | case3 bs h =>
    have hnil : arrived bs = [] := by
      apply arrived_eq_nil
      intro line rest n h' _
      exact h line rest h'
    rw [hnil]
    apply List.nil_prefix

theorem drop_of_takeEnd {bs rest : Bytes} (h : takeEnd bs = .done () rest) :
  bs.drop 2 = rest
  := by
  obtain _ | ⟨b, _ | ⟨c, bs⟩⟩ := bs
  · cases h
  · rw [takeEnd, Head.takeFeed] at h
    split at h <;> cases h
  · rw [takeEnd, Head.takeFeed] at h
    split at h
    · split at h
      · exact (Scan.done.inj h).2
      · cases h
    · cases h

/-- A chunk that is there gives its data. -/
theorem arrived_of_takeChunk_some {bs data rest : Bytes}
    (h : takeChunk bs = .done (some data) rest) :
  arrived bs = data ++ arrived rest
  := by
  obtain ⟨line, more, hline, h⟩ := Scan.andThen_eq_done_iff.1 h
  split at h
  · cases h
  · cases h
  · rename_i n hn hsize
    obtain ⟨data', hdata, hsome⟩ := Scan.map_eq_done_iff.1 h
    obtain rfl := Option.some.inj hsome
    obtain ⟨n, rfl⟩ := Nat.exists_eq_succ_of_ne_zero hn
    rw [takeData] at hdata
    split at hdata
    · cases hdata
    · obtain ⟨_, hend, rfl⟩ := Scan.map_eq_done_iff.1 hdata
      rw [arrived_of_takeLine hline hsize, ← drop_of_takeEnd hend, List.drop_drop]

/-- The last chunk gives no data. -/
theorem arrived_of_takeChunk_none {bs rest : Bytes} (h : takeChunk bs = .done none rest) :
  arrived bs = []
  := by
  obtain ⟨line, more, hline, h⟩ := Scan.andThen_eq_done_iff.1 h
  apply arrived_eq_nil
  intro line' more' n hline' hsize
  obtain ⟨rfl, rfl⟩ := Scan.done.inj (hline.symm.trans hline')
  rw [hsize] at h
  obtain ⟨data, -, hsome⟩ := Scan.map_eq_done_iff.1 h
  cases hsome

/-- Of a body that is there the data has arrived. -/
theorem arrived_of_decode {bs rest : Bytes} {body : List Bytes × List Bytes}
    (h : decode bs = .done body rest) :
  arrived bs = body.1.flatten
  := by
  induction bs using decode.induct generalizing body with
  | case1 bs more hchunk =>
    rw [decode_eq, hchunk] at h
    obtain ⟨trailers, -, rfl⟩ := Scan.map_eq_done_iff.1 h
    apply arrived_of_takeChunk_none hchunk
  | case2 bs more data hchunk ih =>
    rw [decode_eq, hchunk] at h
    obtain ⟨body, hbody, rfl⟩ := Scan.map_eq_done_iff.1 h
    rw [arrived_of_takeChunk_some hchunk, ih hbody]
    rfl
  | case3 bs hchunk =>
    rw [decode_eq, hchunk] at h
    cases h
  | case4 bs e hchunk =>
    rw [decode_eq, hchunk] at h
    cases h

theorem arrived_frameChunk {data : Bytes} (hdata : data ≠ []) (rest : Bytes) :
  arrived (frameChunk data ++ rest) = data ++ arrived rest
  := arrived_of_takeChunk_some (takeChunk_frameChunk hdata rest)

theorem arrived_frameLast (trailer : String) (total : ℕ) :
  arrived (frameLast trailer total) = []
  := by
  rw [← List.append_nil (frameLast trailer total)]
  apply arrived_of_takeChunk_none (takeChunk_frameLast trailer total [])

end Chunked

/-- The data that a client has of a body that may be cut off. -/
def Framing.arrived : Framing → Bytes → Bytes
  | .length n, sent => sent.take n
  | .chunked _, sent => Chunked.arrived sent
  | .close, sent => sent

theorem Framing.arrived_nil (framing : Framing) :
  framing.arrived [] = []
  := by
  cases framing with
  | length n => apply List.take_nil
  | chunked trailer => exact Chunked.arrived_nil
  | close => rfl

theorem Framing.arrived_prefix (framing : Framing) {front all : Bytes} (h : front <+: all) :
  framing.arrived front <+: framing.arrived all
  := by
  obtain ⟨more, rfl⟩ := h
  cases framing with
  | length n => exact (List.prefix_append front more).take n
  | chunked trailer => exact Chunked.arrived_prefix front more
  | close => exact List.prefix_append front more

/-- The data that a client has of a response of which the bytes have arrived. -/
def Response.arrived (r : Response) (framing : Framing) (wire : Bytes) : Bytes :=
  framing.arrived (wire.drop (r.head framing).length)

theorem Response.arrived_nil (r : Response) (framing : Framing) :
  r.arrived framing [] = []
  := by
  rw [arrived, List.drop_nil, framing.arrived_nil]

theorem Response.arrived_head (r : Response) (framing : Framing) (sent : Bytes) :
  r.arrived framing (r.head framing ++ sent) = framing.arrived sent
  := by
  rw [arrived, List.drop_left]

theorem Response.arrived_prefix (r : Response) (framing : Framing) {front all : Bytes}
    (h : front <+: all) :
  r.arrived framing front <+: r.arrived framing all
  := framing.arrived_prefix (h.drop _)

/-! ### Writes that count data -/

namespace Transcript

/-- Every write counts as sent the data that the writes before it carry. -/
def Counts (arrived : Bytes → Bytes) (sent : ℕ) (ws : List (ℕ × Bytes)) : Prop :=
  ∀ done v rest, ws = done ++ v :: rest → v.1 = sent + (arrived (done.map Prod.snd).flatten).length

theorem counts_nil (arrived : Bytes → Bytes) (sent : ℕ) :
  Counts arrived sent []
  := by
  intro done v rest h
  simp at h

theorem counts_singleton {arrived : Bytes → Bytes} (hnil : arrived [] = []) (sent : ℕ)
    (frame : Bytes) :
  Counts arrived sent [(sent, frame)]
  := by
  rintro (_ | ⟨first, done⟩) v rest hws
  · obtain ⟨rfl, -⟩ := List.cons.inj hws
    simp [hnil]
  · simp at hws

/-- A write that carries data is followed by writes that count it. -/
theorem Counts.cons {arrived arrived' : Bytes → Bytes} {sent : ℕ} {frame data : Bytes}
    {ws : List (ℕ × Bytes)} (hnil : arrived [] = [])
    (hframe : ∀ more, arrived (frame ++ more) = data ++ arrived' more)
    (h : Counts arrived' (sent + data.length) ws) :
  Counts arrived sent ((sent, frame) :: ws)
  := by
  rintro (_ | ⟨first, done⟩) v rest hws
  · obtain ⟨rfl, -⟩ := List.cons.inj hws
    simp [hnil]
  · obtain ⟨rfl, hrest⟩ := List.cons.inj hws
    rw [h done v rest hrest, List.map_cons, List.flatten_cons, hframe, List.length_append,
      Nat.add_assoc]

end Transcript

/-- The framing of the chunks of a stream. -/
def Framing.ofStream (trailer : Option String) : Framing :=
  match trailer with
  | some t => .chunked t
  | none => .close

namespace Source

/-- The writes of a source that does not fail count its data, and carry all of it. -/
theorem counts_writes {s : Source} (h : s.Succeeds) (trailer : Option String) (sent : ℕ) :
  Transcript.Counts (Framing.ofStream trailer).arrived sent (s.writes trailer sent).1
    ∧ (Framing.ofStream trailer).arrived ((s.writes trailer sent).1.map Prod.snd).flatten
      = s.items.flatten
  := by
  induction s generalizing sent with
  | nil =>
    cases trailer with
    | none => exact ⟨Transcript.counts_nil _ _, rfl⟩
    | some t =>
      use Transcript.counts_singleton (Framing.arrived_nil _) sent _
      exact (congrArg Chunked.arrived (List.append_nil _)).trans (Chunked.arrived_frameLast t sent)
  | cons event s ih =>
    cases event with
    | pending => exact ih h.tail sent
    | item data =>
      cases data with
      | nil => exact ih h.tail sent
      | cons b data =>
        obtain ⟨hcounts, hall⟩ := ih h.tail (sent + (b :: data).length)
        have hframe : ∀ more, (Framing.ofStream trailer).arrived
            ((if trailer.isSome then frameChunk (b :: data) else b :: data) ++ more)
              = (b :: data) ++ (Framing.ofStream trailer).arrived more := by
          intro more
          cases trailer with
          | none => rfl
          | some t => exact Chunked.arrived_frameChunk (List.cons_ne_nil b data) more
        use hcounts.cons (Framing.arrived_nil _) hframe
        rw [writes, List.map_cons, List.flatten_cons, hframe, hall]
        rfl
    | failure e => exact absurd List.mem_cons_self (h e)

end Source

namespace Response

variable {r : Response} {version : ℕ} {trailer : String}

/-- What is written of a stream that does not fail. -/
theorem streamTranscript_of_succeeds (r : Response) {source : Source} (succeeds : source.Succeeds)
    (version : ℕ) (trailer : String) :
  ∃ trailer?, (Body.stream source).framing version trailer = .ofStream trailer?
    ∧ r.streamTranscript source version trailer
      = ⟨(0, r.head (.ofStream trailer?)) :: (source.writes trailer? 0).1,
        .ok ⟨r.status, source.items.flatten.length, r.staysOpen (.ofStream trailer?)⟩⟩
  := by
  by_cases hversion : 1 ≤ version
  · use some trailer
    simp [Body.framing, streamTranscript, failsFirst?_eq_none succeeds, Source.snd_writes succeeds,
      Except.map, hversion, staysOpen, Framing.ofStream]
  · use none
    simp [Body.framing, streamTranscript, failsFirst?_eq_none succeeds, Source.snd_writes succeeds,
      Except.map, hversion, staysOpen, Framing.ofStream]

theorem succeeds_sentBody (succeeds : r.body.source.Succeeds) :
  r.sentBody.source.Succeeds
  := by
  rw [sentBody]
  split
  · intro e he
    simp [Body.empty, Body.source] at he
  · exact succeeds

/-- The writes of a response whose source does not fail count its data and carry all of it. -/
theorem counts_transcript (succeeds : r.sentBody.source.Succeeds) (version : ℕ) (trailer : String) :
  ∃ payload keepAlive, r.sentBody.collect = .ok payload
    ∧ (r.transcript version trailer).ending = .ok ⟨r.status, payload.length, keepAlive⟩
    ∧ r.arrived (r.sentBody.framing version trailer) (r.transcript version trailer).bytes = payload
    ∧ Transcript.Counts (r.arrived (r.sentBody.framing version trailer)) 0
      (r.transcript version trailer).writes
  := by
  cases hbody : r.sentBody with
  | full data =>
    rw [transcript_of_full hbody]
    refine ⟨data, r.keepAlive, rfl, rfl, ?_, ?_⟩
    · rw [Transcript.bytes, fullTranscript, List.map_singleton, List.flatten_singleton]
      exact (r.arrived_head _ data).trans List.take_length
    · apply Transcript.counts_singleton (r.arrived_nil _)
  | stream source =>
    rw [hbody, Body.source] at succeeds
    obtain ⟨trailer?, hframing, htranscript⟩ :=
      r.streamTranscript_of_succeeds succeeds version trailer
    obtain ⟨hcounts, hall⟩ := source.counts_writes succeeds trailer? 0
    rw [transcript_of_stream hbody, htranscript, hframing]
    refine ⟨_, _, Source.collect_eq succeeds, rfl, ?_, ?_⟩
    · rw [Transcript.bytes, List.map_cons, List.flatten_cons, arrived_head, hall]
    · have hhead : ∀ more, r.arrived (.ofStream trailer?) (r.head (.ofStream trailer?) ++ more)
          = [] ++ (Framing.ofStream trailer?).arrived more := r.arrived_head _
      exact Transcript.Counts.cons (r.arrived_nil _) hhead hcounts

end Response

/-! ### Sinks that run out of room -/

namespace Transcript

theorem putAll_append (front back : List (ℕ × Bytes)) :
  putAll (front ++ back) = putAll front >>= fun _ => putAll back
  := by
  induction front with
  | nil => exact (pure_bind _ _).symm
  | cons v front ih => rw [List.cons_append, putAll, putAll, ih, bind_assoc]

/-- A sink with room for all writes takes them. -/
theorem run_putAll_of_le {w : Sink} {room : ℕ} (hroom : w.room = some room)
    {ws : List (ℕ × Bytes)} (h : (ws.map Prod.snd).flatten.length ≤ room) :
  (putAll ws).run.run w
    = (.ok (), { w with
      room := some (room - (ws.map Prod.snd).flatten.length)
      taken := (ws.map Prod.snd).reverse ++ w.taken })
  := by
  induction ws generalizing w room with
  | nil =>
    obtain ⟨_, flushFails, taken, flushes⟩ := w
    obtain rfl := hroom
    rfl
  | cons v ws ih =>
    rw [List.map_cons, List.flatten_cons, List.length_append] at h ⊢
    have hput : (Writing.put v.1 v.2).run.run w
        = (.ok (), { w with room := some (room - v.2.length), taken := v.2 :: w.taken }) := by
      rw [Writing.run_put_eq, Sink.write, hroom]
      simp only [show v.2.length ≤ room by omega, if_true]
      rfl
    rw [putAll, Writing.run_bind_of_ok hput, ih rfl (by omega), List.reverse_cons,
      List.append_assoc, Nat.sub_sub]
    rfl

/-- Room for not all of some writes ends inside of one of them. -/
theorem exists_cut {room : ℕ} {ws : List (ℕ × Bytes)}
    (h : room < (ws.map Prod.snd).flatten.length) :
  ∃ done v rest, ws = done ++ v :: rest ∧ (done.map Prod.snd).flatten.length ≤ room
    ∧ room < ((done.map Prod.snd).flatten ++ v.2).length
  := by
  induction ws generalizing room with
  | nil => simp at h
  | cons v ws ih =>
    rw [List.map_cons, List.flatten_cons, List.length_append] at h
    by_cases hv : room < v.2.length
    · use [], v, ws, rfl, Nat.zero_le _
      exact hv
    · obtain ⟨done, u, rest, rfl, hdone, hu⟩ := @ih (room - v.2.length) (by omega)
      use v :: done, u, rest, rfl
      simp only [List.map_cons, List.flatten_cons, List.length_append] at hdone hu ⊢
      omega

/-- A sink with less room takes what fits of the write in which the room ends. -/
theorem run_perform_of_lt {t : Transcript} {w : Sink} {room : ℕ} (hroom : w.room = some room)
    (h : room < t.bytes.length) :
  ∃ done v rest, t.writes = done ++ v :: rest ∧ (done.map Prod.snd).flatten.length ≤ room
    ∧ room < ((done.map Prod.snd).flatten ++ v.2).length
    ∧ t.perform.run.run w = (.error (.aborted v.1 Sink.closed), { w with
      room := some 0
      taken := v.2.take (room - (done.map Prod.snd).flatten.length)
        :: ((done.map Prod.snd).reverse ++ w.taken) })
  := by
  obtain ⟨done, v, rest, hwrites, hdone, hv⟩ := exists_cut h
  use done, v, rest, hwrites, hdone, hv
  rw [List.length_append] at hv
  rw [perform, hwrites, putAll_append]
  apply Writing.run_bind_of_error
  rw [Writing.run_bind_of_ok (run_putAll_of_le hroom hdone), putAll]
  apply Writing.run_bind_of_error
  rw [Writing.run_put_eq, Sink.write]
  simp only [show ¬ v.2.length ≤ room - (done.map Prod.snd).flatten.length by omega, if_false]
  rfl

/-- With room for all that is written only a flush can fail. -/
theorem fst_run_perform_of_le {t : Transcript} {w : Sink} {room : ℕ} (hroom : w.room = some room)
    (h : t.bytes.length ≤ room) {delivered : Delivered} (hending : t.ending = .ok delivered) :
  (t.perform.run.run w).1
    = if w.flushFails then .error (.aborted delivered.bodyBytes Sink.flushFailed) else .ok delivered
  := by
  rw [perform, Writing.run_bind_of_ok (run_putAll_of_le hroom h), hending]
  generalize hw' : ({ w with
    room := some (room - (t.writes.map Prod.snd).flatten.length)
    taken := (t.writes.map Prod.snd).reverse ++ w.taken } : Sink) = w'
  have hfails : w.flushFails = w'.flushFails := by rw [← hw']
  have hflush := Writing.run_flush_eq delivered.bodyBytes w'
  rw [Sink.flush] at hflush
  rw [hfails]
  cases hresult : w'.flushFails with
  | true =>
    rw [hresult] at hflush
    exact congrArg Prod.fst (Writing.run_bind_of_error hflush)
  | false =>
    rw [hresult] at hflush
    exact congrArg Prod.fst (Writing.run_bind_of_ok hflush)

end Transcript

namespace Response

/-- Of what has arrived at a cut inside of a write, the data of the writes before counts as sent,
and the rest is data of that write. -/
theorem arrived_of_cut {r : Response} {framing : Framing} {done rest : List (ℕ × Bytes)}
    {v : ℕ × Bytes} (hcounts : Transcript.Counts (r.arrived framing) 0 (done ++ v :: rest))
    {room : ℕ} (hdone : (done.map Prod.snd).flatten.length ≤ room)
    (hv : room < ((done.map Prod.snd).flatten ++ v.2).length) {front : Bytes}
    (hfront : ((done ++ v :: rest).map Prod.snd).flatten.take room = front) :
  v.1 ≤ (r.arrived framing front).length
    ∧ ∃ carried, r.arrived framing ((done.map Prod.snd).flatten ++ v.2)
        = r.arrived framing (done.map Prod.snd).flatten ++ carried
      ∧ (r.arrived framing front).length ≤ v.1 + carried.length
  := by
  have hall : ((done ++ v :: rest).map Prod.snd).flatten
      = (done.map Prod.snd).flatten ++ v.2 ++ (rest.map Prod.snd).flatten := by simp
  have hsent := hcounts done v rest rfl
  rw [Nat.zero_add] at hsent
  rw [hall] at hfront
  have hbefore : (done.map Prod.snd).flatten <+: front := by
    rw [← hfront, List.prefix_take_iff, List.append_assoc]
    exact ⟨List.prefix_append _ _, hdone⟩
  have hafter : front <+: (done.map Prod.snd).flatten ++ v.2 := by
    rw [← hfront]
    apply List.prefix_of_prefix_length_le (List.take_prefix _ _) (List.prefix_append _ _)
    rw [List.length_take]
    omega
  obtain ⟨carried, hcarried⟩ := r.arrived_prefix framing (List.prefix_append _ v.2)
  rw [hsent]
  use (r.arrived_prefix framing hbefore).length_le, carried, hcarried.symm
  rw [← List.length_append, hcarried]
  exact (r.arrived_prefix framing hafter).length_le

theorem taken_write_unlimited (r : Response) (version : ℕ) (trailer : String) :
  ((r.write version trailer).run.run .unlimited).2.taken.reverse
    = (r.transcript version trailer).writes.map Prod.snd
  := by
  rw [write_eq_perform, Transcript.run_perform _ ⟨rfl, rfl⟩]
  simp [Transcript.takenBy, Sink.unlimited]

/-- A sink with little room takes the first bytes of a response whose source does not fail.  The
response is delivered if all bytes fit and the flush succeeds.  If it is aborted in a write, at
least the data that counts as sent has arrived, and beyond it no more than that write carries; if
it is aborted by the flush, all data counts as sent. -/
theorem write_limited {r : Response} (succeeds : r.body.source.Succeeds) (version : ℕ)
    (trailer : String) {w : Sink} {room : ℕ} (hroom : w.room = some room) :
  ∃ payload all framing result w', r.sentBody.collect = .ok payload
    ∧ ((r.write version trailer).run.run .unlimited).2.written = all
    ∧ r.sentBody.framing version trailer = framing
    ∧ (r.write version trailer).run.run w = (result, w')
    ∧ w'.written = w.written ++ all.take (min room all.length)
    ∧ ((∃ delivered, result = .ok delivered) ↔ all.length ≤ room ∧ w.flushFails = false)
    ∧ ∀ e, result = .error e → ∃ sent reason, e = .aborted sent reason
      ∧ sent ≤ (r.arrived framing (all.take room)).length
      ∧ (all.length ≤ room → sent = payload.length ∧ r.arrived framing all = payload)
      ∧ (room < all.length → ∃ done failed rest carried,
        ((r.write version trailer).run.run .unlimited).2.taken.reverse = done ++ failed :: rest
          ∧ w'.taken = failed.take (room - done.flatten.length) :: (done.reverse ++ w.taken)
          ∧ r.arrived framing (done.flatten ++ failed) = r.arrived framing done.flatten ++ carried
          ∧ (r.arrived framing (all.take room)).length ≤ sent + carried.length)
  := by
  obtain ⟨payload, keepAlive, hcollect, hending, hall, hcounts⟩ :=
    counts_transcript (succeeds_sentBody succeeds) version trailer
  generalize hframing : r.sentBody.framing version trailer = framing at hall hcounts
  have htaken := r.taken_write_unlimited version trailer
  have hwritten : ((r.write version trailer).run.run .unlimited).2.written
      = (r.transcript version trailer).bytes := congrArg List.flatten htaken
  have hsink := ((r.transcript version trailer).perform_cases w).1
  rw [← write_eq_perform, Sink.fitting, hroom] at hsink
  use payload, (r.transcript version trailer).bytes, framing,
    ((r.write version trailer).run.run w).1, ((r.write version trailer).run.run w).2, hcollect,
    hwritten, rfl, rfl, hsink.trans (congrArg (w.written ++ ·) List.take_eq_take_min)
  -- The room ends inside of a write, or it suffices and only the flush can fail.
  rcases Nat.lt_or_ge room (r.transcript version trailer).bytes.length with hlt | hle
  · obtain ⟨done, v, rest, hwrites, hdone, hv, hrun⟩ := Transcript.run_perform_of_lt hroom hlt
    rw [← write_eq_perform] at hrun
    rw [hwrites] at hcounts htaken
    rw [hrun, Transcript.bytes, hwrites]
    rw [Transcript.bytes, hwrites] at hlt
    obtain ⟨hsent, carried, hcarried, hshort⟩ := arrived_of_cut hcounts hdone hv rfl
    constructor
    · apply iff_of_false
      · rintro ⟨delivered, hok⟩
        cases hok
      · rintro ⟨hle, -⟩
        exact absurd hlt (Nat.not_lt_of_ge hle)
    · rintro e he
      obtain rfl := Except.error.inj he
      refine ⟨v.1, Sink.closed, rfl, hsent, fun hle => absurd hlt (Nat.not_lt_of_ge hle), ?_⟩
      intro _
      use done.map Prod.snd, v.2, rest.map Prod.snd, carried
      rw [htaken]
      exact ⟨by simp, rfl, hcarried, hshort⟩
  · have hresult := Transcript.fst_run_perform_of_le hroom hle hending
    rw [← write_eq_perform] at hresult
    rw [hresult]
    cases w.flushFails with
    | false =>
      refine ⟨iff_of_true ⟨_, rfl⟩ ⟨hle, rfl⟩, ?_⟩
      intro e he
      cases he
    | true =>
      constructor
      · apply iff_of_false
        · rintro ⟨delivered, hok⟩
          cases hok
        · rintro ⟨-, hsucceeds⟩
          cases hsucceeds
      · intro e he
        obtain rfl := Except.error.inj he
        refine ⟨payload.length, Sink.flushFailed, rfl, ?_, fun _ => ⟨rfl, hall⟩,
          fun hlt => absurd hlt (Nat.not_lt_of_ge hle)⟩
        rw [List.take_of_length_le hle, hall]

/-- A sink in which there is room for the head of `deceptive`, its first chunk and a part of its
second. -/
def narrow : Sink := ⟨some 146, false, [], 0⟩

/-- The first chunk counts as sent, and of the second two bytes have arrived. -/
theorem write_limited_deceptive :
  deceptive.body.source.Succeeds ∧ narrow.room = some 146
    ∧ ∃ all w', ((deceptive.write 1 "X-Length").run.run .unlimited).2.written = all
      ∧ (deceptive.write 1 "X-Length").run.run narrow = (.error (.aborted 5 Sink.closed), w')
      ∧ w'.written = all.take 146
      ∧ 5 ≤ (deceptive.arrived (.chunked "X-Length") (all.take 146)).length
      ∧ deceptive.arrived (.chunked "X-Length") (all.take 146) = utf8 "one\r\n0\r"
  := by
  have succeeds : deceptive.body.source.Succeeds := by
    intro e he
    simp [deceptive, withBody, Body.source] at he
  obtain ⟨payload, all, framing, result, w', -, hall, hframing, hrun, hwritten, -, herror⟩ :=
    write_limited succeeds 1 "X-Length" (rfl : narrow.room = some 146)
  obtain rfl : .chunked "X-Length" = framing := hframing
  have hfront : all.take 146 = deceptive.head (.chunked "X-Length")
      ++ (frameChunk (utf8 "one\r\n") ++ utf8 "5\r\n0\r") := by
    rw [← hall]
    decide +kernel
  have hclosed : ((deceptive.write 1 "X-Length").run.run narrow).1
      = .error (.aborted 5 Sink.closed) := by
    decide +kernel
  have hresult : result = .error (.aborted 5 Sink.closed) :=
    (congrArg Prod.fst hrun).symm.trans hclosed
  obtain ⟨sent, reason, he, hsent, -⟩ := herror _ hresult
  obtain ⟨rfl, -⟩ := DeliveryError.aborted.inj he
  have hlength : 146 ≤ all.length := by
    rw [← hall]
    decide +kernel
  rw [Nat.min_eq_left hlength] at hwritten
  refine ⟨succeeds, rfl, all, w', hall, ?_, hwritten, hsent, ?_⟩
  · rw [hrun, hresult]
  · have hline : Chunked.takeLine (utf8 "5\r\n0\r") = .done (utf8 "5") (utf8 "0\r") := by
      decide +kernel
    have hsize : Chunked.size? (utf8 "5") = some (4 + 1) := by decide +kernel
    rw [hfront, arrived_head, Framing.arrived, Chunked.arrived_frameChunk (by decide +kernel),
      Chunked.arrived_of_takeLine hline hsize,
      List.drop_eq_nil_of_le (show (utf8 "0\r").length ≤ 4 + 3 by decide), Chunked.arrived_nil]
    decide +kernel

end Response

end HttpDispatch
