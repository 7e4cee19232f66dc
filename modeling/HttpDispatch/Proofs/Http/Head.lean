import HttpDispatch.Proofs.Http.Scan

/-!
# Arriving heads

Reading the head of a request is steady: once it is there, what follows it changes nothing.
-/

namespace HttpDispatch.Head

open Scan Text

theorem steady_takeFeed (error : HeadError) :
  Steady (takeFeed error)
  := by
  intro bs
  cases bs with
  | nil => exact .incomplete rfl
  | cons b bs =>
    by_cases hb : b = lf
    · apply SteadyAt.cons (SteadyAt.done () bs)
      intro cs
      rw [takeFeed, if_pos hb]
    · apply SteadyAt.cons (SteadyAt.failed error bs)
      intro cs
      rw [takeFeed, if_neg hb]

theorem steady_takeNewLine :
  Steady takeNewLine
  := by
  intro bs
  cases bs with
  | nil => exact .incomplete rfl
  | cons b bs =>
    by_cases hcr : b = cr
    · apply SteadyAt.cons (steady_takeFeed .newLine bs)
      intro cs
      rw [takeNewLine, if_pos hcr]
    · by_cases hlf : b = lf
      · apply SteadyAt.cons (SteadyAt.done () bs)
        intro cs
        rw [takeNewLine, if_neg hcr, if_pos hlf]
      · apply SteadyAt.cons (SteadyAt.failed .newLine bs)
        intro cs
        rw [takeNewLine, if_neg hcr, if_neg hlf]

theorem steady_takeUntil (ok : UInt8 → Bool) (stop : UInt8) (error : HeadError) :
  Steady (takeUntil ok stop error)
  := by
  intro bs
  induction bs with
  | nil => exact .incomplete rfl
  | cons b bs ih =>
    by_cases hok : ok b
    · apply SteadyAt.cons (ih.map (b :: ·))
      intro cs
      rw [takeUntil, if_pos hok]
    · by_cases hstop : b = stop
      · apply SteadyAt.cons (SteadyAt.done [] bs)
        intro cs
        rw [takeUntil, if_neg hok, if_pos hstop]
      · apply SteadyAt.cons (SteadyAt.failed error bs)
        intro cs
        rw [takeUntil, if_neg hok, if_neg hstop]

/-- The first byte after empty lines is left, with all that follows it. -/
theorem steady_skipEmptyLines :
  Steady skipEmptyLines
  := by
  intro bs
  induction bs using skipEmptyLines.induct with
  | case1 => exact .incomplete rfl
  | case2 => exact .incomplete rfl
  | case3 bs ih =>
    have hfeed : SteadyAt (fun cs => skipEmptyLines (cr :: cs)) (lf :: bs) := by
      apply SteadyAt.cons ih
      intro cs
      rfl
    apply SteadyAt.cons hfeed
    intro cs
    rfl
  | case4 c bs hc =>
    apply SteadyAt.congr (SteadyAt.failed .newLine _)
    intro more
    rw [List.cons_append, List.cons_append, skipEmptyLines.eq_def]
    simp only [if_true, if_neg hc]
  | case5 bs hcr ih =>
    apply SteadyAt.cons ih
    intro cs
    rw [skipEmptyLines.eq_def]
    simp only [if_neg hcr, if_true]
  | case6 b bs hcr hlf =>
    apply SteadyAt.congr (SteadyAt.done () _)
    intro more
    rw [List.cons_append, skipEmptyLines.eq_def]
    simp only [if_neg hcr, if_neg hlf]

theorem steady_takeMethod :
  Steady takeMethod
  := by
  intro bs
  cases bs with
  | nil => exact .incomplete rfl
  | cons b bs =>
    by_cases hb : isTokenByte b
    · apply SteadyAt.cons ((steady_takeUntil isTokenByte 32 .token bs).map _)
      intro cs
      rw [takeMethod, if_pos hb]
    · apply SteadyAt.cons (SteadyAt.failed .token bs)
      intro cs
      rw [takeMethod, if_neg hb]

theorem steady_takeTarget :
  Steady takeTarget
  := by
  intro bs
  apply SteadyAt.andThen (steady_takeUntil isTargetByte 32 .token bs)
  intro t rest _
  split
  · exact .done _ rest
  · exact .failed .token rest

/-- What is wrong in a version stays wrong, whether or not all of it has arrived. -/
theorem takeVersion_of_not_isPrefixOf {bs : Bytes} (hlength : bs.length < 8)
    (h : ¬ bs.isPrefixOf versionStart) (more : Bytes) :
  takeVersion (bs ++ more) = .failed .version
  := by
  have hmore : ¬ (bs ++ more).isPrefixOf versionStart := by
    intro hmore
    apply h
    rw [List.isPrefixOf_iff_prefix] at hmore ⊢
    apply (List.prefix_append bs more).trans hmore
  have hstart : (bs ++ more).take 7 ≠ versionStart := by
    intro hstart
    apply h
    rw [List.isPrefixOf_iff_prefix, ← hstart, List.prefix_take_iff]
    exact ⟨List.prefix_append bs more, by omega⟩
  simp only [takeVersion, hmore, hstart, false_and, if_false, ite_self, Bool.false_eq_true]

theorem takeVersion_append {bs : Bytes} (hlength : 8 ≤ bs.length) (more : Bytes) :
  takeVersion (bs ++ more) = (takeVersion bs).extend more
  := by
  have hmore : ¬ (bs ++ more).length < 8 := by
    rw [List.length_append]
    omega
  rw [takeVersion, takeVersion, if_neg hmore, if_neg (Nat.not_lt_of_le hlength),
    List.take_append_of_le_length (by omega), List.getElem?_append_left (by omega),
    List.drop_append_of_le_length hlength]
  split
  · rfl
  · split <;> rfl

theorem steady_takeVersion :
  Steady takeVersion
  := by
  intro bs
  by_cases hlength : bs.length < 8
  · by_cases hprefix : bs.isPrefixOf versionStart
    · apply SteadyAt.incomplete
      rw [takeVersion, if_pos hlength, if_pos hprefix]
    · apply SteadyAt.congr (SteadyAt.failed .version bs)
      apply takeVersion_of_not_isPrefixOf hlength hprefix
  · have hlength : 8 ≤ bs.length := Nat.le_of_not_lt hlength
    constructor
    · intro more _
      apply takeVersion_append hlength
    · intro version rest h
      rw [takeVersion, if_neg (Nat.not_lt_of_le hlength)] at h
      split at h
      · obtain ⟨-, rfl⟩ := Scan.done.inj h
        apply List.drop_suffix
      · split at h
        · obtain ⟨-, rfl⟩ := Scan.done.inj h
          apply List.drop_suffix
        · exact nomatch h

theorem steady_takeLine :
  Steady takeLine
  := by
  intro bs
  induction bs with
  | nil => exact .incomplete rfl
  | cons b bs ih =>
    by_cases hvalue : isValueByte b
    · apply SteadyAt.cons (ih.map (b :: ·))
      intro cs
      rw [takeLine, if_pos hvalue]
    · by_cases hcr : b = cr
      · apply SteadyAt.cons ((steady_takeFeed .headerValue bs).map _)
        intro cs
        rw [takeLine, if_neg hvalue, if_pos hcr]
      · by_cases hlf : b = lf
        · apply SteadyAt.cons (SteadyAt.done [] bs)
          intro cs
          rw [takeLine, if_neg hvalue, if_neg hcr, if_pos hlf]
        · apply SteadyAt.cons (SteadyAt.failed .headerValue bs)
          intro cs
          rw [takeLine, if_neg hvalue, if_neg hcr, if_neg hlf]

theorem steady_takeField :
  Steady takeField
  := by
  intro bs
  apply SteadyAt.andThen (steady_takeUntil isTokenByte 58 .headerName bs)
  intro name rest _
  apply (steady_takeLine rest).map

/-- The header lines after a first one, for which there was `room`. -/
def takeMoreFields (room : ℕ) (f : String × Bytes) (rest : Bytes) :
    Scan (List (String × Bytes)) :=
  match room with
  | 0 => .failed .tooManyHeaders
  | room + 1 => (takeFields room rest).map (f :: ·)

theorem takeFields_cons {b : UInt8} (hcr : b ≠ cr) (hlf : b ≠ lf) (hb : isTokenByte b) (room : ℕ)
    (bs : Bytes) :
  takeFields room (b :: bs) = (takeField (b :: bs)).andThen (takeMoreFields room)
  := by
  rw [takeFields.eq_def]
  simp only [if_neg hcr, if_neg hlf, hb, Bool.not_true, Bool.false_eq_true, if_false]
  cases takeField (b :: bs) with
  | done f rest => cases room <;> rfl
  | incomplete => rfl
  | failed e => rfl

/-- Header lines are steady if those after the first one are. -/
theorem steadyAt_takeFields {room : ℕ} {bs : Bytes}
    (h : ∀ f, Steady (takeMoreFields room f)) :
  SteadyAt (takeFields room) bs
  := by
  cases bs with
  | nil => exact .incomplete (takeFields.eq_1 room)
  | cons b bs =>
    by_cases hcr : b = cr
    · apply SteadyAt.cons ((steady_takeFeed .newLine bs).map _)
      intro cs
      rw [takeFields.eq_def]
      exact if_pos hcr
    · by_cases hlf : b = lf
      · apply SteadyAt.cons (SteadyAt.done [] bs)
        intro cs
        rw [takeFields.eq_def]
        simp only [if_neg hcr, if_pos hlf]
      · by_cases hb : isTokenByte b
        · apply SteadyAt.congr ((steady_takeField (b :: bs)).andThen fun f rest _ => h f rest)
          intro more
          apply takeFields_cons hcr hlf hb room
        · apply SteadyAt.cons (SteadyAt.failed .headerName bs)
          intro cs
          rw [takeFields.eq_def]
          simp only [if_neg hcr, if_neg hlf, hb, Bool.not_false, if_true]

theorem steady_takeFields (room : ℕ) :
  Steady (takeFields room)
  := by
  intro bs
  induction room generalizing bs with
  | zero =>
    apply steadyAt_takeFields
    intro f rest
    exact .failed .tooManyHeaders rest
  | succ room ih =>
    apply steadyAt_takeFields
    intro f rest
    apply (ih rest).map

theorem steady_read :
  Steady read
  := by
  intro bs
  apply SteadyAt.andThen (steady_skipEmptyLines bs)
  intro _ bs _
  apply SteadyAt.andThen (steady_takeMethod bs)
  intro method bs _
  apply SteadyAt.andThen (steady_takeTarget bs)
  intro target bs _
  apply SteadyAt.andThen (steady_takeVersion bs)
  intro version bs _
  apply SteadyAt.andThen (steady_takeNewLine bs)
  intro _ bs _
  apply (steady_takeFields maxFields bs).map

end HttpDispatch.Head
