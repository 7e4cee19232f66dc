import HttpDispatch.Http.Delivery
import HttpDispatch.Proofs.Http.Head
import HttpDispatch.Proofs.Text.Bytes
import Mathlib.Data.List.TakeWhile

/-!
# Chunked bodies

How a client reads a body that is sent in chunks: a line with the size of a chunk in hexadecimal,
the data of the chunk and the end of a line, until a chunk has the size zero; then lines of
trailers until one is empty.  `Chunked.decode` reads what `frameChunk` and `frameLast` write, and
leaves what follows; of a beginning of it that is cut off, it reads nothing.
-/

namespace HttpDispatch.Chunked

open Text

/-! ### Reading -/

/-- Takes off the end of a line, a carriage return and a line feed. -/
def takeEnd : Bytes → Scan Unit
  | [] => .incomplete
  | b :: bs => if b = Head.cr then Head.takeFeed .newLine bs else .failed .newLine

/-- Takes off a line and its end. -/
def takeLine : Bytes → Scan Bytes
  | [] => .incomplete
  | b :: bs =>
    if b = Head.cr ∨ b = Head.lf then (takeEnd (b :: bs)).map fun _ => []
    else (takeLine bs).map (b :: ·)

/-- The number that hexadecimal digits denote. -/
def number? (digits : Bytes) : Option Nat :=
  if digits.isEmpty then none
  else digits.foldlM (fun n b => (hexByte? b).map fun d => n * 16 + d.toNat) 0

/-- The size that the first line of a chunk declares, before any extensions. -/
def size? (line : Bytes) : Option Nat := number? (line.takeWhile (· ≠ byteOf ';'))

/-- Takes off data of the given length and the end of the line after it. -/
def takeData (n : Nat) (bs : Bytes) : Scan Bytes :=
  if bs.length < n then .incomplete else (takeEnd (bs.drop n)).map fun _ => bs.take n

/-- Takes off a chunk; the last one has no data. -/
def takeChunk (bs : Bytes) : Scan (Option Bytes) :=
  (takeLine bs).andThen fun line rest =>
    match size? line with
    | none => .failed .token
    | some 0 => .done none rest
    | some n => (takeData n rest).map some

theorem length_lt_of_takeFeed {error : HeadError} {bs rest : Bytes}
    (h : Head.takeFeed error bs = .done () rest) :
  rest.length < bs.length
  := by
  cases bs with
  | nil => cases h
  | cons b bs =>
    rw [Head.takeFeed] at h
    split at h
    · obtain ⟨-, rfl⟩ := Scan.done.inj h
      apply Nat.lt_succ_self
    · cases h

theorem length_lt_of_takeEnd {bs rest : Bytes} (h : takeEnd bs = .done () rest) :
  rest.length < bs.length
  := by
  cases bs with
  | nil => cases h
  | cons b bs =>
    rw [takeEnd] at h
    split at h
    · apply Nat.lt_succ_of_lt (length_lt_of_takeFeed h)
    · cases h

theorem length_lt_of_takeLine {bs line rest : Bytes} (h : takeLine bs = .done line rest) :
  rest.length < bs.length
  := by
  induction bs generalizing line with
  | nil => exact nomatch h
  | cons b bs ih =>
    rw [takeLine] at h
    split at h
    · obtain ⟨_, h, -⟩ := Scan.map_eq_done_iff.1 h
      apply length_lt_of_takeEnd h
    · obtain ⟨line, h, -⟩ := Scan.map_eq_done_iff.1 h
      apply Nat.lt_succ_of_lt (ih h)

theorem steady_takeEnd :
  Scan.Steady takeEnd
  := by
  intro bs
  cases bs with
  | nil => exact .incomplete rfl
  | cons b bs =>
    by_cases hcr : b = Head.cr
    · apply Scan.SteadyAt.cons (Head.steady_takeFeed .newLine bs)
      intro cs
      rw [takeEnd, if_pos hcr]
    · apply Scan.SteadyAt.cons (Scan.SteadyAt.failed .newLine bs)
      intro cs
      rw [takeEnd, if_neg hcr]

theorem steady_takeLine :
  Scan.Steady takeLine
  := by
  intro bs
  induction bs with
  | nil => exact .incomplete rfl
  | cons b bs ih =>
    by_cases hb : b = Head.cr ∨ b = Head.lf
    · apply Scan.SteadyAt.congr ((steady_takeEnd (b :: bs)).map _)
      intro more
      rw [List.cons_append, takeLine, if_pos hb]
    · apply Scan.SteadyAt.cons (ih.map (b :: ·))
      intro cs
      rw [takeLine, if_neg hb]

theorem steady_takeData (n : ℕ) :
  Scan.Steady (takeData n)
  := by
  intro bs
  by_cases hlength : bs.length < n
  · apply Scan.SteadyAt.incomplete
    rw [takeData, if_pos hlength]
  · have hle : n ≤ bs.length := Nat.le_of_not_lt hlength
    constructor
    · intro more hne
      have hmore : ¬ (bs ++ more).length < n := by
        rw [List.length_append]
        omega
      rw [takeData, if_neg hlength] at hne
      rw [takeData, takeData, if_neg hlength, if_neg hmore, Scan.extend_map,
        List.take_append_of_le_length hle, List.drop_append_of_le_length hle,
        (steady_takeEnd (bs.drop n)).extend more]
      intro hend
      rw [hend] at hne
      apply hne rfl
    · intro data rest h
      rw [takeData, if_neg hlength] at h
      obtain ⟨_, h, -⟩ := Scan.map_eq_done_iff.1 h
      apply ((steady_takeEnd _).suffix _ rest h).trans (List.drop_suffix n bs)

theorem steady_takeChunk :
  Scan.Steady takeChunk
  := by
  intro bs
  apply Scan.SteadyAt.andThen (steady_takeLine bs)
  intro line rest _
  split
  · exact .failed .token rest
  · exact .done none rest
  · apply (steady_takeData _ rest).map

theorem length_lt_of_takeChunk {bs rest : Bytes} {chunk : Option Bytes}
    (h : takeChunk bs = .done chunk rest) :
  rest.length < bs.length
  := by
  obtain ⟨line, bs', hline, h⟩ := Scan.andThen_eq_done_iff.1 h
  apply Nat.lt_of_le_of_lt ?_ (length_lt_of_takeLine hline)
  split at h
  · exact nomatch h
  · obtain ⟨-, rfl⟩ := Scan.done.inj h
    apply Nat.le_refl
  · obtain ⟨data, h, -⟩ := Scan.map_eq_done_iff.1 h
    apply ((steady_takeData _ bs').suffix data rest h).length_le

/-- Takes off the lines of the trailers and the empty line that ends them. -/
def takeTrailers (bs : Bytes) : Scan (List Bytes) :=
  match _h : takeLine bs with
  | .done [] rest => .done [] rest
  | .done (b :: line) rest => (takeTrailers rest).map ((b :: line) :: ·)
  | .incomplete => .incomplete
  | .failed e => .failed e
termination_by bs.length
decreasing_by exact length_lt_of_takeLine _h

/-- Takes off a body: the data of its chunks and its trailers. -/
def decode (bs : Bytes) : Scan (List Bytes × List Bytes) :=
  match _h : takeChunk bs with
  | .done none rest => (takeTrailers rest).map fun trailers => ([], trailers)
  | .done (some data) rest => (decode rest).map fun body => (data :: body.1, body.2)
  | .incomplete => .incomplete
  | .failed e => .failed e
termination_by bs.length
decreasing_by exact length_lt_of_takeChunk _h

theorem takeTrailers_eq (bs : Bytes) :
  takeTrailers bs = (takeLine bs).andThen fun line rest =>
    if line.isEmpty then .done [] rest else (takeTrailers rest).map (line :: ·)
  := by
  rw [takeTrailers]
  split <;> rename_i h <;> rw [h] <;> rfl

theorem decode_eq (bs : Bytes) :
  decode bs = (takeChunk bs).andThen fun chunk rest =>
    match chunk with
    | none => (takeTrailers rest).map fun trailers => ([], trailers)
    | some data => (decode rest).map fun body => (data :: body.1, body.2)
  := by
  rw [decode]
  split <;> rename_i h <;> rw [h] <;> rfl

theorem steady_takeTrailers :
  Scan.Steady takeTrailers
  := by
  intro bs
  induction bs using takeTrailers.induct with
  | case1 bs rest h =>
    apply Scan.SteadyAt.congr ((steady_takeLine bs).andThen ?_) fun more => takeTrailers_eq _
    intro line rest' h'
    obtain ⟨rfl, rfl⟩ := Scan.done.inj (h.symm.trans h')
    exact .done [] rest
  | case2 bs rest b line h ih =>
    apply Scan.SteadyAt.congr ((steady_takeLine bs).andThen ?_) fun more => takeTrailers_eq _
    intro line' rest' h'
    obtain ⟨rfl, rfl⟩ := Scan.done.inj (h.symm.trans h')
    apply ih.map _
  | case3 bs h =>
    apply Scan.SteadyAt.incomplete
    rw [takeTrailers_eq, h]
    rfl
  | case4 bs e h =>
    apply Scan.SteadyAt.congr ((steady_takeLine bs).andThen ?_) fun more => takeTrailers_eq _
    intro line rest h'
    exact nomatch h.symm.trans h'

theorem steady_decode :
  Scan.Steady decode
  := by
  intro bs
  induction bs using decode.induct with
  | case1 bs rest h =>
    apply Scan.SteadyAt.congr ((steady_takeChunk bs).andThen ?_) fun more => decode_eq _
    intro chunk rest' h'
    obtain ⟨rfl, rfl⟩ := Scan.done.inj (h.symm.trans h')
    apply (steady_takeTrailers rest).map
  | case2 bs rest data h ih =>
    apply Scan.SteadyAt.congr ((steady_takeChunk bs).andThen ?_) fun more => decode_eq _
    intro chunk rest' h'
    obtain ⟨rfl, rfl⟩ := Scan.done.inj (h.symm.trans h')
    apply ih.map _
  | case3 bs h =>
    apply Scan.SteadyAt.incomplete
    rw [decode_eq, h]
    rfl
  | case4 bs e h =>
    apply Scan.SteadyAt.congr ((steady_takeChunk bs).andThen ?_) fun more => decode_eq _
    intro chunk rest h'
    exact nomatch h.symm.trans h'

/-! ### What is written -/

/-- A line without ends of lines in it is taken off. -/
theorem takeLine_append {line : Bytes} (hcr : Head.cr ∉ line) (hlf : Head.lf ∉ line)
    (rest : Bytes) :
  takeLine (line ++ Head.cr :: Head.lf :: rest) = .done line rest
  := by
  induction line with
  | nil => rfl
  | cons b line ih =>
    rw [List.mem_cons, not_or] at hcr hlf
    have hb : ¬ (b = Head.cr ∨ b = Head.lf) := by
      rintro (rfl | rfl)
      · apply hcr.1 rfl
      · apply hlf.1 rfl
    rw [List.cons_append, takeLine, if_neg hb, ih hcr.2 hlf.2]
    rfl

theorem hexByte?_digitChar :
  ∀ n < 16, hexByte? (byteOf n.digitChar) = some (UInt8.ofNat n)
    ∧ byteOf n.digitChar ≠ byteOf ';' ∧ byteOf n.digitChar ≠ Head.cr
    ∧ byteOf n.digitChar ≠ Head.lf ∧ n.digitChar.toNat < 128
  := by
  decide +kernel

/-- The digits of a number are digits. -/
theorem mem_toDigits {n : ℕ} {c : Char} (h : c ∈ Nat.toDigits 16 n) :
  ∃ d < 16, c = d.digitChar
  := by
  induction n using Nat.base_induction 16 (by decide) with
  | single n hn =>
    rw [Nat.toDigits_of_lt_base hn, List.mem_singleton] at h
    use n, hn, h
  | digit n d hd hn ih =>
    rw [← Nat.toDigits_append_toDigits (by decide) hn hd, List.mem_append] at h
    rcases h with h | h
    · apply ih h
    · rw [Nat.toDigits_of_lt_base hd, List.mem_singleton] at h
      use d, hd, h

/-- The bytes of the hexadecimal digits of a number. -/
def sizeLine (n : ℕ) : Bytes := (Nat.toDigits 16 n).map byteOf

theorem utf8_toDigits (n : ℕ) :
  utf8 (String.ofList (Nat.toDigits 16 n)) = sizeLine n
  := by
  apply utf8_ofList_of_lt
  intro c hc
  obtain ⟨d, hd, rfl⟩ := mem_toDigits hc
  apply (hexByte?_digitChar d hd).2.2.2.2

/-- The digits of a number denote it. -/
theorem foldlM_sizeLine (n : ℕ) :
  (sizeLine n).foldlM (fun n b => (hexByte? b).map fun d => n * 16 + d.toNat) 0 = some n
  := by
  have hdigit : ∀ m, ∀ d < 16,
      [byteOf d.digitChar].foldlM (fun n b => (hexByte? b).map fun d => n * 16 + d.toNat) m
        = some (m * 16 + d) := by
    intro m d hd
    rw [List.foldlM_cons, (hexByte?_digitChar d hd).1]
    simp only [Option.map_some, Option.bind_eq_bind, Option.bind_some, List.foldlM_nil,
      UInt8.toNat_ofNat', Nat.mod_eq_of_lt (Nat.lt_trans hd (by decide : 16 < 2 ^ 8))]
    rfl
  induction n using Nat.base_induction 16 (by decide) with
  | single n hn =>
    rw [sizeLine, Nat.toDigits_of_lt_base hn, List.map_singleton, hdigit 0 n hn, Nat.zero_mul,
      Nat.zero_add]
  | digit n d hd hn ih =>
    rw [sizeLine] at ih ⊢
    rw [← Nat.toDigits_append_toDigits (by decide) hn hd, List.map_append, List.foldlM_append, ih,
      Nat.toDigits_of_lt_base hd, List.map_singleton]
    apply (hdigit n d hd).trans
    rw [Nat.mul_comm]

theorem size?_sizeLine (n : ℕ) :
  size? (sizeLine n) = some n
  := by
  have hsemicolon : ∀ b ∈ sizeLine n, decide (b ≠ byteOf ';') = true := by
    intro b hb
    obtain ⟨c, hc, rfl⟩ := List.mem_map.1 hb
    obtain ⟨d, hd, rfl⟩ := mem_toDigits hc
    exact decide_eq_true (hexByte?_digitChar d hd).2.1
  have hne : (sizeLine n).isEmpty = false := by
    rw [sizeLine, List.isEmpty_map, List.isEmpty_eq_false_iff]
    apply Nat.toDigits_ne_nil
  rw [size?, List.takeWhile_eq_self_iff.2 hsemicolon, number?, hne]
  apply foldlM_sizeLine n

theorem takeLine_sizeLine (n : ℕ) (rest : Bytes) :
  takeLine (sizeLine n ++ Head.cr :: Head.lf :: rest) = .done (sizeLine n) rest
  := by
  have hends : ∀ b ∈ sizeLine n, b ≠ Head.cr ∧ b ≠ Head.lf := by
    intro b hb
    obtain ⟨c, hc, rfl⟩ := List.mem_map.1 hb
    obtain ⟨d, hd, rfl⟩ := mem_toDigits hc
    exact ⟨(hexByte?_digitChar d hd).2.2.1, (hexByte?_digitChar d hd).2.2.2.1⟩
  apply takeLine_append
  · intro hcr
    apply (hends _ hcr).1 rfl
  · intro hlf
    apply (hends _ hlf).2 rfl

/-- The line of the size of a chunk, and the line of its data. -/
theorem frameChunk_append (data rest : Bytes) :
  frameChunk data ++ rest
    = sizeLine data.length ++ Head.cr :: Head.lf :: (data ++ Head.cr :: Head.lf :: rest)
  := by
  rw [frameChunk, utf8_append, utf8_toDigits]
  simp [show utf8 "\r\n" = [Head.cr, Head.lf] by decide]

/-- A chunk is read back. -/
theorem takeChunk_frameChunk {data : Bytes} (hdata : data ≠ []) (rest : Bytes) :
  takeChunk (frameChunk data ++ rest) = .done (some data) rest
  := by
  have htake : takeData data.length (data ++ Head.cr :: Head.lf :: rest) = .done data rest := by
    rw [takeData, if_neg (by simp), List.drop_left, List.take_left]
    rfl
  obtain ⟨n, hn⟩ := Nat.exists_eq_succ_of_ne_zero (mt List.length_eq_zero_iff.1 hdata)
  rw [takeChunk, frameChunk_append, takeLine_sizeLine, Scan.andThen, size?_sizeLine, hn]
  rw [hn] at htake
  simp only [htake]
  rfl

/-- The line of the trailer with the total length. -/
def trailerLine (trailer : String) (total : ℕ) : Bytes := utf8 (trailer ++ ": " ++ toString total)

/-- A name without ends of lines makes a line without them. -/
theorem notMem_trailerLine {trailer : String} {c : Char} (hc : c ∉ trailer.toList)
    (hend : c = '\r' ∨ c = '\n') (total : ℕ) :
  byteOf c ∉ trailerLine trailer total
  := by
  have hascii : c.toNat < 128 := by
    rcases hend with rfl | rfl <;> decide
  rw [trailerLine, byteOf_mem_utf8_iff hascii, String.toList_append, String.toList_append,
    List.mem_append, List.mem_append]
  rintro ((h | h) | h)
  · apply hc h
  · rcases hend with rfl | rfl <;> simp at h
  · have hdigit := isDigit_of_mem_toString h
    rcases hend with rfl | rfl <;> cases hdigit

/-- The line of the size zero, the line of the trailer and the empty line. -/
theorem frameLast_append (trailer : String) (total : ℕ) (rest : Bytes) :
  frameLast trailer total ++ rest
    = [byteOf '0'] ++ Head.cr :: Head.lf ::
      (trailerLine trailer total ++ Head.cr :: Head.lf :: ([] ++ Head.cr :: Head.lf :: rest))
  := by
  have hstart : utf8 "0\r\n" = [byteOf '0', Head.cr, Head.lf] := by decide
  have hend : utf8 "\r\n\r\n" = [Head.cr, Head.lf, Head.cr, Head.lf] := by decide
  rw [frameLast, trailerLine, utf8_append, String.append_assoc, String.append_assoc,
    utf8_append, hstart, hend, String.append_assoc]
  simp

theorem takeChunk_frameLast (trailer : String) (total : ℕ) (rest : Bytes) :
  takeChunk (frameLast trailer total ++ rest)
    = .done none (trailerLine trailer total ++ Head.cr :: Head.lf
      :: ([] ++ Head.cr :: Head.lf :: rest))
  := by
  rw [frameLast_append]
  rfl

/-- The last chunk and its trailer are read back. -/
theorem decode_frameLast {trailer : String} (hcr : '\r' ∉ trailer.toList)
    (hlf : '\n' ∉ trailer.toList) (total : ℕ) (rest : Bytes) :
  decode (frameLast trailer total ++ rest) = .done ([], [trailerLine trailer total]) rest
  := by
  have hempty : ∀ bs, takeTrailers ([] ++ Head.cr :: Head.lf :: bs) = .done [] bs := by
    intro bs
    rw [takeTrailers_eq, takeLine_append List.not_mem_nil List.not_mem_nil]
    rfl
  have hline : (trailerLine trailer total).isEmpty = false := by
    rw [List.isEmpty_eq_false_iff, trailerLine, ne_eq, utf8_eq_nil_iff]
    simp
  rw [decode_eq, takeChunk_frameLast, Scan.andThen, takeTrailers_eq,
    takeLine_append (notMem_trailerLine hcr (.inl rfl) total)
      (notMem_trailerLine hlf (.inr rfl) total)]
  simp only [Scan.andThen, hline, hempty]
  rfl

/-- A body that is sent in chunks is read back, and what follows it is left. -/
theorem decode_frames {trailer : String} (hcr : '\r' ∉ trailer.toList)
    (hlf : '\n' ∉ trailer.toList) {items : List Bytes} (hitems : ∀ data ∈ items, data ≠ [])
    (total : ℕ) (rest : Bytes) :
  decode (items.flatMap frameChunk ++ frameLast trailer total ++ rest)
    = .done (items, [trailerLine trailer total]) rest
  := by
  induction items with
  | nil => exact decode_frameLast hcr hlf total rest
  | cons data items ih =>
    rw [List.forall_mem_cons] at hitems
    rw [List.flatMap_cons, List.append_assoc, List.append_assoc, decode_eq,
      takeChunk_frameChunk hitems.1, Scan.andThen, ← List.append_assoc, ih hitems.2]
    rfl

/-- A beginning of a body that is sent in chunks is not taken for the whole of it. -/
theorem decode_front {trailer : String} (hcr : '\r' ∉ trailer.toList)
    (hlf : '\n' ∉ trailer.toList) {items : List Bytes} (hitems : ∀ data ∈ items, data ≠ [])
    {total : ℕ} {front back : Bytes}
    (hsent : items.flatMap frameChunk ++ frameLast trailer total = front ++ back)
    (hback : back ≠ []) :
  decode front = .incomplete
  := by
  have hwhole : decode (front ++ back) = .done (items, [trailerLine trailer total]) [] := by
    have h := decode_frames hcr hlf hitems total []
    rw [List.append_nil, hsent] at h
    exact h
  apply (steady_decode front).incomplete_of_append hwhole (List.length_pos_iff.2 hback)

end HttpDispatch.Chunked
