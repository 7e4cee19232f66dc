import HttpDispatch.Proofs.Http.Request

/-!
# Exact scans

A scan that needs nothing of what it leaves reads the same off the bytes before that alone:
`Scan.Exact`.  So the bytes of a head are told by the head, and a request is a head and as many
bytes as it declares.
-/

namespace HttpDispatch

namespace Scan

variable {α β : Type}

/-- What is read is read off the bytes before the rest alone. -/
def Exact (scan : Bytes → Scan α) : Prop :=
  ∀ bs a rest, scan bs = .done a rest → ∃ front, bs = front ++ rest ∧ scan front = .done a []

theorem exact_failed (e : HeadError) :
  Exact (fun _ => (.failed e : Scan α))
  := by
  intro bs a rest h
  cases h

theorem Exact.map {scan : Bytes → Scan α} (h : Exact scan) (f : α → β) :
  Exact fun bs => (scan bs).map f
  := by
  intro bs b rest hb
  obtain ⟨a, ha, rfl⟩ := map_eq_done_iff.1 hb
  obtain ⟨front, rfl, hfront⟩ := h bs a rest ha
  use front, rfl
  simp only [hfront, Scan.map]

theorem Exact.andThen {scan : Bytes → Scan α} {next : α → Bytes → Scan β} (h : Exact scan)
    (hsteady : Steady scan) (hnext : ∀ a, Exact (next a)) :
  Exact fun bs => (scan bs).andThen next
  := by
  intro bs b rest hb
  obtain ⟨a, mid, ha, hmid⟩ := andThen_eq_done_iff.1 hb
  obtain ⟨front, rfl, hfront⟩ := h bs a mid ha
  obtain ⟨front', rfl, hfront'⟩ := hnext a mid b rest hmid
  refine ⟨front ++ front', (List.append_assoc _ _ _).symm, ?_⟩
  have hextend := (hsteady front).extend front' (by simp [hfront])
  simp only [hextend, hfront]
  exact hfront'

end Scan

namespace Head

open Scan

theorem exact_takeFeed (error : HeadError) :
  Exact (takeFeed error)
  := by
  intro bs a rest h
  cases bs with
  | nil => cases h
  | cons b bs =>
    rw [takeFeed] at h
    split at h
    · rename_i hb
      obtain ⟨-, rfl⟩ := Scan.done.inj h
      use [b], rfl
      rw [takeFeed, if_pos hb]
    · cases h

theorem exact_takeNewLine :
  Exact takeNewLine
  := by
  intro bs a rest h
  cases bs with
  | nil => cases h
  | cons b bs =>
    rw [takeNewLine] at h
    split at h
    · rename_i hcr
      obtain ⟨front, rfl, hfront⟩ := exact_takeFeed .newLine bs a rest h
      use b :: front, rfl
      rw [takeNewLine, if_pos hcr, hfront]
    · rename_i hcr
      split at h
      · rename_i hlf
        obtain ⟨-, rfl⟩ := Scan.done.inj h
        use [b], rfl
        rw [takeNewLine, if_neg hcr, if_pos hlf]
      · cases h

theorem exact_takeUntil (ok : UInt8 → Bool) (stop : UInt8) (error : HeadError) :
  Exact (takeUntil ok stop error)
  := by
  intro bs a rest h
  induction bs generalizing a with
  | nil => cases h
  | cons b bs ih =>
    rw [takeUntil] at h
    split at h
    · rename_i hok
      obtain ⟨a, ha, rfl⟩ := map_eq_done_iff.1 h
      obtain ⟨front, rfl, hfront⟩ := ih a ha
      use b :: front, rfl
      rw [takeUntil, if_pos hok, hfront]
      rfl
    · rename_i hok
      split at h
      · rename_i hstop
        obtain ⟨rfl, rfl⟩ := Scan.done.inj h
        use [b], rfl
        rw [takeUntil, if_neg hok, if_pos hstop]
      · cases h

theorem exact_takeMethod :
  Exact takeMethod
  := by
  intro bs a rest h
  cases bs with
  | nil => cases h
  | cons b bs =>
    rw [takeMethod] at h
    split at h
    · rename_i hb
      obtain ⟨front, rfl, hfront⟩ := (exact_takeUntil isTokenByte 32 .token).map _ bs a rest h
      use b :: front, rfl
      rw [takeMethod, if_pos hb]
      exact hfront
    · cases h

theorem exact_takeTarget :
  Exact takeTarget
  := by
  apply (exact_takeUntil isTargetByte 32 .token).andThen (steady_takeUntil isTargetByte 32 .token)
  intro t bs text rest h
  split at h
  · rename_i htext
    obtain ⟨rfl, rfl⟩ := Scan.done.inj h
    exact ⟨[], rfl, rfl⟩
  · cases h

theorem exact_takeVersion :
  Exact takeVersion
  := by
  intro bs a rest h
  have hlength : 8 ≤ bs.length := by
    by_contra hlt
    rw [takeVersion, if_pos (Nat.lt_of_not_le hlt)] at h
    split at h
    · cases h
    · cases h
  have hfront : ¬ (bs.take 8).length < 8 := by
    rw [List.length_take]
    omega
  refine ⟨bs.take 8, ?_⟩
  rw [takeVersion, if_neg (Nat.not_lt_of_le hlength)] at h
  have hmin : min 7 8 = 7 := rfl
  rw [takeVersion, if_neg hfront, List.take_take, hmin, List.getElem?_take_of_lt (by decide)]
  split at h
  · rename_i hzero
    obtain ⟨rfl, rfl⟩ := Scan.done.inj h
    rw [if_pos hzero]
    simp
  · rename_i hzero
    split at h
    · rename_i hone
      obtain ⟨rfl, rfl⟩ := Scan.done.inj h
      rw [if_neg hzero, if_pos hone]
      simp
    · cases h

theorem exact_takeLine :
  Exact takeLine
  := by
  intro bs a rest h
  induction bs generalizing a with
  | nil => cases h
  | cons b bs ih =>
    rw [takeLine] at h
    split at h
    · rename_i hvalue
      obtain ⟨a, ha, rfl⟩ := map_eq_done_iff.1 h
      obtain ⟨front, rfl, hfront⟩ := ih a ha
      use b :: front, rfl
      rw [takeLine, if_pos hvalue, hfront]
      rfl
    · rename_i hvalue
      split at h
      · rename_i hcr
        obtain ⟨front, rfl, hfront⟩ := (exact_takeFeed .headerValue).map _ bs a rest h
        use b :: front, rfl
        rw [takeLine, if_neg hvalue, if_pos hcr]
        exact hfront
      · rename_i hcr
        split at h
        · rename_i hlf
          obtain ⟨rfl, rfl⟩ := Scan.done.inj h
          use [b], rfl
          rw [takeLine, if_neg hvalue, if_neg hcr, if_pos hlf]
        · cases h

theorem exact_takeField :
  Exact takeField
  := by
  apply (exact_takeUntil isTokenByte 58 .headerName).andThen
    (steady_takeUntil isTokenByte 58 .headerName)
  intro name
  apply exact_takeLine.map

/-- Header lines are exact if those after the first one are. -/
theorem exact_takeFields_of_more {room : ℕ} (h : ∀ f, Exact (takeMoreFields room f)) :
  Exact (takeFields room)
  := by
  intro bs a rest hread
  cases bs with
  | nil =>
    rw [takeFields.eq_1] at hread
    cases hread
  | cons b bs =>
    by_cases hcr : b = cr
    · rw [takeFields.eq_def] at hread
      simp only [if_pos hcr] at hread
      obtain ⟨front, rfl, hfront⟩ := (exact_takeFeed .newLine).map _ bs a rest hread
      use b :: front, rfl
      rw [takeFields.eq_def]
      simp only [if_pos hcr]
      exact hfront
    · by_cases hlf : b = lf
      · rw [takeFields.eq_def] at hread
        simp only [if_neg hcr, if_pos hlf] at hread
        obtain ⟨rfl, rfl⟩ := Scan.done.inj hread
        use [b], rfl
        rw [takeFields.eq_def]
        simp only [if_neg hcr, if_pos hlf]
      · by_cases hb : isTokenByte b
        · rw [takeFields_cons hcr hlf hb] at hread
          obtain ⟨front, hbs, hfront⟩ := exact_takeField.andThen steady_takeField h _ a rest hread
          cases front with
          | nil => cases hfront
          | cons c front =>
            obtain ⟨rfl, rfl⟩ := List.cons.inj hbs
            use b :: front, rfl
            rw [takeFields_cons hcr hlf hb]
            exact hfront
        · rw [takeFields.eq_def] at hread
          simp [hcr, hlf, hb] at hread

theorem exact_takeFields (room : ℕ) :
  Exact (takeFields room)
  := by
  induction room with
  | zero =>
    apply exact_takeFields_of_more
    intro f
    exact exact_failed .tooManyHeaders
  | succ room ih =>
    apply exact_takeFields_of_more
    intro f
    exact ih.map _

/-- A head after its empty lines. -/
def afterEmptyLines (bs : Bytes) : Scan Head :=
  (takeMethod bs).andThen fun method bs =>
  (takeTarget bs).andThen fun target bs =>
  (takeVersion bs).andThen fun version bs =>
  (takeNewLine bs).andThen fun _ bs =>
  (takeFields maxFields bs).map fun fields => ⟨method, target, version, fields⟩

theorem exact_afterEmptyLines :
  Exact afterEmptyLines
  := by
  apply exact_takeMethod.andThen steady_takeMethod
  intro method
  apply exact_takeTarget.andThen steady_takeTarget
  intro target
  apply exact_takeVersion.andThen steady_takeVersion
  intro version
  apply exact_takeNewLine.andThen steady_takeNewLine
  intro _
  apply (exact_takeFields maxFields).map

/-- Empty lines are skipped up to a byte after them, whatever follows it. -/
theorem skipEmptyLines_front {bs mid : Bytes} (h : skipEmptyLines bs = .done () mid) :
  ∃ front, bs = front ++ mid ∧ ∀ back rest, mid = back ++ rest → back ≠ [] →
    skipEmptyLines (front ++ back) = .done () back
  := by
  induction bs using skipEmptyLines.induct with
  | case1 => cases h
  | case2 => cases h
  | case3 bs ih =>
    obtain ⟨front, rfl, hfront⟩ := ih h
    use cr :: lf :: front, rfl
    exact hfront
  | case4 c bs hc =>
    rw [skipEmptyLines.eq_def] at h
    simp only [if_true, if_neg hc] at h
    cases h
  | case5 bs hcr ih =>
    rw [skipEmptyLines.eq_def] at h
    simp only [if_neg hcr, if_true] at h
    obtain ⟨front, rfl, hfront⟩ := ih h
    use lf :: front, rfl
    intro back rest hmid hback
    rw [List.cons_append, skipEmptyLines.eq_def]
    simp only [if_neg hcr, if_true]
    apply hfront back rest hmid hback
  | case6 b bs hcr hlf =>
    rw [skipEmptyLines.eq_def] at h
    simp only [if_neg hcr, if_neg hlf] at h
    obtain ⟨-, rfl⟩ := Scan.done.inj h
    use [], rfl
    intro back rest hmid hback
    obtain ⟨c, back, rfl⟩ := List.exists_cons_of_ne_nil hback
    obtain ⟨rfl, -⟩ := List.cons.inj hmid
    rw [List.nil_append, skipEmptyLines.eq_def]
    simp only [if_neg hcr, if_neg hlf]

/-- A head is read off its own bytes alone. -/
theorem exact_read :
  Exact read
  := by
  intro bs head rest h
  obtain ⟨_, mid, hskip, hmid⟩ := andThen_eq_done_iff.1 h
  obtain ⟨front, rfl, hfront⟩ := skipEmptyLines_front hskip
  obtain ⟨back, rfl, hback⟩ := exact_afterEmptyLines mid head rest hmid
  have hne : back ≠ [] := by
    rintro rfl
    cases hback
  refine ⟨front ++ back, (List.append_assoc _ _ _).symm, ?_⟩
  rw [read, hfront back rest rfl hne]
  exact hback

end Head

namespace Request

/-- What a request says of the head and the rest that it is read from. -/
theorem of_ofRest {head : Head} {n headLength : ℕ} {rest : Bytes} {r : Request}
    (h : ofRest head n rest = .request r headLength) :
  r = ofHead head r.body
    ∧ r.body = match r.contentLength? with
      | some m => rest.take m
      | none => rest
  := by
  rw [ofRest] at h
  split at h
  · rename_i hnone
    obtain ⟨rfl, -⟩ := ReadResult.request.inj h
    rw [contentLength?_ofHead, hnone]
    exact ⟨rfl, rfl⟩
  · rename_i value hvalue
    split at h
    · cases h
    · rename_i m hm
      split at h
      · cases h
      · obtain ⟨rfl, -⟩ := ReadResult.request.inj h
        rw [contentLength?_ofHead, hvalue, Option.bind_some, hm]
        exact ⟨rfl, rfl⟩

end Request

end HttpDispatch
