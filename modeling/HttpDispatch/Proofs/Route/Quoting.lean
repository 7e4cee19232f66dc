import HttpDispatch.Proofs.Fallible
import HttpDispatch.Proofs.Text.Pieces
import HttpDispatch.Route.Table

/-!
# Quotes in a declaration

The list of parameters is closed and cut by two scans that follow the quotes of a text.  Both are
told by texts that stand for themselves: `Quoting.Whole` texts end outside the quotes in which none
of their marks lie.  A list is closed after a whole text without parentheses, and cut into whole
texts without commas.
-/

namespace HttpDispatch

open Fallible

namespace Quoting

/-! ### Following the quotes -/

/-- The place after a text. -/
def after (q : Quoting) (cs : List Char) : Quoting := cs.foldl step q

/-- All `marks` in the text lie inside quotes. -/
def Shelters (marks : List Char) (q : Quoting) : List Char → Prop
  | [] => True
  | c :: cs => (c ∈ marks → q.quoted = true) ∧ Shelters marks (q.step c) cs

/-- The text after `q` ends outside quotes, and all `marks` in it lie inside. -/
structure Closes (marks : List Char) (q : Quoting) (cs : List Char) : Prop where
  shelters : q.Shelters marks cs
  ends : q.after cs = outside

/-- The text stands for itself among others: it begins and ends outside quotes, and all `marks` in
it lie inside. -/
def Whole (marks cs : List Char) : Prop := Closes marks outside cs

/-- A place after a backslash lies inside quotes. -/
def Sound (q : Quoting) : Prop := q.escaped = true → q.quoted = true

/-- A place inside quotes. -/
def inside : Quoting := ⟨true, false⟩

variable {marks : List Char} {q : Quoting}

instance decidableShelters (marks : List Char) (q : Quoting) :
    (cs : List Char) → Decidable (q.Shelters marks cs)
  | [] => .isTrue trivial
  | c :: cs => @instDecidableAnd _ _ _ (decidableShelters marks (q.step c) cs)

instance (marks : List Char) (q : Quoting) (cs : List Char) : Decidable (Closes marks q cs) :=
  decidable_of_iff (q.Shelters marks cs ∧ q.after cs = outside)
    ⟨fun h => ⟨h.1, h.2⟩, fun h => ⟨h.1, h.2⟩⟩

instance (marks cs : List Char) : Decidable (Whole marks cs) :=
  inferInstanceAs (Decidable (Closes marks outside cs))

theorem step_outside {c : Char} (h : c ≠ '\'') :
  outside.step c = outside
  := by
  simp [step, outside, h]

theorem step_inside {c : Char} (hquote : c ≠ '\'') (hslash : c ≠ '\\') :
  inside.step c = inside
  := by
  simp [step, inside, hquote, hslash]

theorem sound_outside :
  outside.Sound
  := by
  intro h
  cases h

theorem Sound.step (h : q.Sound) (c : Char) :
  (q.step c).Sound
  := by
  rw [Quoting.step]
  split
  · intro hescaped
    cases hescaped
  · rename_i hescaped
    split
    · rename_i hc
      intro _
      exact hc.2
    · split
      · intro hescaped'
        exact absurd hescaped' hescaped
      · exact h

/-- Outside quotes there is one place. -/
theorem Sound.eq_outside (h : q.Sound) (hquoted : q.quoted = false) :
  q = outside
  := by
  obtain ⟨quoted, escaped⟩ := q
  obtain rfl : quoted = false := hquoted
  cases escaped with
  | false => rfl
  | true => exact absurd (h rfl) Bool.false_ne_true

theorem after_append (q : Quoting) (xs ys : List Char) :
  q.after (xs ++ ys) = (q.after xs).after ys
  := List.foldl_append

theorem Sound.after (h : q.Sound) (cs : List Char) :
  (q.after cs).Sound
  := by
  induction cs generalizing q with
  | nil => exact h
  | cons c cs ih => apply ih (h.step c)

theorem shelters_append {xs ys : List Char} :
  q.Shelters marks (xs ++ ys) ↔ q.Shelters marks xs ∧ (q.after xs).Shelters marks ys
  := by
  induction xs generalizing q with
  | nil => simp [Shelters, Quoting.after]
  | cons c xs ih =>
    rw [List.cons_append, Shelters, ih, Shelters, and_assoc]
    rfl

theorem Shelters.mono {marks' cs : List Char} (h : q.Shelters marks cs)
    (hmarks : marks' ⊆ marks) :
  q.Shelters marks' cs
  := by
  induction cs generalizing q with
  | nil => trivial
  | cons c cs ih =>
    constructor
    · intro hc
      apply h.1 (hmarks hc)
    · apply ih h.2

/-! ### Whole texts -/

theorem Closes.mono {marks' cs : List Char} (h : Closes marks q cs)
    (hmarks : marks' ⊆ marks) :
  Closes marks' q cs
  := ⟨h.shelters.mono hmarks, h.ends⟩

theorem Closes.append {xs ys : List Char} (hx : Closes marks q xs) (hy : Whole marks ys) :
  Closes marks q (xs ++ ys)
  := by
  constructor
  · rw [shelters_append, hx.ends]
    exact ⟨hx.shelters, hy.shelters⟩
  · rw [after_append, hx.ends, hy.ends]

/-- What follows a whole text in a whole text is whole. -/
theorem Whole.of_append {marks' xs ys : List Char} (h : Whole marks (xs ++ ys))
    (hx : Whole marks' xs) :
  Whole marks ys
  := by
  have hshelters := h.shelters
  have hends := h.ends
  rw [shelters_append, hx.ends] at hshelters
  rw [after_append, hx.ends] at hends
  exact ⟨hshelters.2, hends⟩

/-- A text without quotes is whole. -/
theorem whole_of_notMem {cs : List Char} (hquote : '\'' ∉ cs) (hmarks : ∀ c ∈ cs, c ∉ marks) :
  Whole marks cs
  := by
  induction cs with
  | nil => exact ⟨trivial, rfl⟩
  | cons c cs ih =>
    rw [List.mem_cons, not_or] at hquote
    rw [List.forall_mem_cons] at hmarks
    have hstep := step_outside (Ne.symm hquote.1)
    have hcs := ih hquote.2 hmarks.2
    constructor
    · rw [Shelters, hstep]
      exact ⟨fun hc => absurd hc hmarks.1, hcs.shelters⟩
    · rw [Quoting.after, List.foldl_cons, hstep]
      exact hcs.ends

theorem whole_nil (marks : List Char) :
  Whole marks []
  := ⟨trivial, rfl⟩

/-- The marks of two lists lie inside quotes if those of each do. -/
theorem Whole.union {marks' cs : List Char} (h : Whole marks cs) (h' : Whole marks' cs) :
  Whole (marks ++ marks') cs
  := by
  have hshelters : ∀ {q : Quoting} {cs : List Char}, q.Shelters marks cs → q.Shelters marks' cs →
      q.Shelters (marks ++ marks') cs := by
    intro q cs h h'
    induction cs generalizing q with
    | nil => trivial
    | cons c cs ih =>
      refine ⟨?_, ih h.2 h'.2⟩
      intro hc
      apply (List.mem_append.1 hc).elim h.1 h'.1
  exact ⟨hshelters h.shelters h'.shelters, h.ends⟩

/-- Whole texts that are joined are whole. -/
theorem whole_intercalate {joint : List Char} (hjoint : Whole marks joint) {ps : List (List Char)}
    (hps : ∀ p ∈ ps, Whole marks p) :
  Whole marks (joint.intercalate ps)
  := by
  induction ps with
  | nil => exact whole_nil marks
  | cons p ps ih =>
    rw [List.forall_mem_cons] at hps
    by_cases hnil : ps = []
    · rw [hnil, List.intercalate_singleton]
      exact hps.1
    · rw [List.intercalate_cons_of_ne_nil hnil]
      apply (hps.1.append hjoint).append (ih hps.2)

/-- In a whole text that is joined from texts that end outside quotes, these are whole. -/
theorem whole_of_intercalate {marks' joint : List Char} (hjoint : Whole marks joint)
    {ps : List (List Char)} (h : Whole marks (joint.intercalate ps))
    (hps : ∀ p ∈ ps, Whole marks' p) :
  ∀ p ∈ ps, Whole marks p
  := by
  induction ps with
  | nil => simp
  | cons p ps ih =>
    rw [List.forall_mem_cons] at hps ⊢
    by_cases hnil : ps = []
    · subst hnil
      rw [List.intercalate_singleton] at h
      exact ⟨h, by simp⟩
    · rw [List.intercalate_cons_of_ne_nil hnil, List.append_assoc] at h
      refine ⟨⟨(shelters_append.1 h.shelters).1, hps.1.ends⟩, ih ?_ hps.2⟩
      apply (h.of_append hps.1).of_append hjoint

theorem escapeQuotes_cons (c : Char) (cs : List Char) :
  Param.escapeQuotes (c :: cs)
    = (if c = '\'' then ['\\', '\''] else [c]) ++ Param.escapeQuotes cs
  := List.flatMap_cons

/-- Inside quotes a text with its quotes escaped stays inside, if it has no backslash itself. -/
theorem inside_escapeQuotes (marks : List Char) {cs : List Char} (h : '\\' ∉ cs) :
  inside.Shelters marks (Param.escapeQuotes cs)
    ∧ inside.after (Param.escapeQuotes cs) = inside
  := by
  induction cs with
  | nil => exact ⟨trivial, rfl⟩
  | cons c cs ih =>
    rw [List.mem_cons, not_or] at h
    obtain ⟨hshelters, hafter⟩ := ih h.2
    rw [escapeQuotes_cons, shelters_append, after_append]
    by_cases hc : c = '\''
    · rw [if_pos hc]
      exact ⟨⟨⟨fun _ => rfl, fun _ => rfl, trivial⟩, hshelters⟩, hafter⟩
    · rw [if_neg hc, Quoting.after, List.foldl_cons, List.foldl_nil, step_inside hc (Ne.symm h.1)]
      exact ⟨⟨⟨fun _ => rfl, trivial⟩, hshelters⟩, hafter⟩

/-- A text between quotes with its quotes escaped is whole, if it has no backslash itself. -/
theorem whole_quoted (hmarks : '\'' ∉ marks) {cs : List Char} (h : '\\' ∉ cs) :
  Whole marks ('\'' :: Param.escapeQuotes cs ++ ['\''])
  := by
  obtain ⟨hshelters, hafter⟩ := inside_escapeQuotes marks h
  constructor
  · rw [List.cons_append, Shelters]
    use fun hmem => absurd hmem hmarks
    change inside.Shelters marks _
    rw [shelters_append, hafter]
    exact ⟨hshelters, fun _ => rfl, trivial⟩
  · rw [List.cons_append, Quoting.after, List.foldl_cons]
    change inside.after _ = outside
    rw [after_append, hafter]
    rfl

end Quoting

namespace Declaration

open Quoting

/-! ### Closing a list -/

theorem closeList_eq_ok_iff_quoted {q : Quoting} {cs list rest : List Char} :
  closeList q cs = .ok (list, rest)
    ↔ cs = list ++ ')' :: rest ∧ q.Shelters ['(', ')'] list ∧ (q.after list).quoted = false
  := by
  induction cs generalizing q list with
  | nil => simp [closeList]
  | cons c cs ih =>
    rw [closeList]
    split
    · rename_i hopen
      constructor
      · intro h
        cases h
      · rintro ⟨hcs, hshelters, -⟩
        cases list with
        | nil =>
          obtain ⟨rfl, -⟩ := List.cons.inj hcs
          simp at hopen
        | cons d list =>
          obtain ⟨rfl, -⟩ := List.cons.inj hcs
          have hquoted := hshelters.1 (by simp [hopen.2])
          simp [hquoted] at hopen
    · rename_i hopen
      split
      · rename_i hclose
        constructor
        · intro h
          obtain ⟨rfl, rfl⟩ := Prod.mk.inj (Except.ok.inj h)
          refine ⟨?_, trivial, ?_⟩
          · rw [hclose.2]
            rfl
          · change q.quoted = false
            simpa using hclose.1
        · rintro ⟨hcs, hshelters, -⟩
          cases list with
          | nil =>
            obtain ⟨-, rfl⟩ := List.cons.inj hcs
            rfl
          | cons d list =>
            obtain ⟨rfl, -⟩ := List.cons.inj hcs
            have hquoted := hshelters.1 (by simp [hclose.2])
            simp [hquoted] at hclose
      · rename_i hclose
        constructor
        · intro h
          obtain ⟨⟨list', rest'⟩, hcs, hlist⟩ := map_eq_ok_iff.1 h
          obtain ⟨rfl, rfl⟩ := Prod.mk.inj hlist
          obtain ⟨rfl, hshelters, hquoted⟩ := ih.1 hcs
          refine ⟨rfl, ⟨?_, hshelters⟩, hquoted⟩
          intro hc
          rcases List.mem_pair.1 hc with rfl | rfl
          · simpa using hopen
          · simpa using hclose
        · rintro ⟨hcs, hshelters, hquoted⟩
          cases list with
          | nil =>
            obtain ⟨rfl, -⟩ := List.cons.inj hcs
            change q.quoted = false at hquoted
            simp [hquoted] at hclose
          | cons d list =>
            obtain ⟨rfl, rfl⟩ := List.cons.inj hcs
            rw [ih.2 ⟨rfl, hshelters.2, hquoted⟩]
            rfl

/-- A list is closed after a text that is whole without parentheses. -/
theorem closeList_eq_ok_iff {cs list rest : List Char} :
  closeList outside cs = .ok (list, rest)
    ↔ cs = list ++ ')' :: rest ∧ Whole ['(', ')'] list
  := by
  rw [closeList_eq_ok_iff_quoted]
  constructor
  · rintro ⟨hcs, hshelters, hquoted⟩
    use hcs, hshelters
    apply (sound_outside.after list).eq_outside hquoted
  · rintro ⟨hcs, hwhole⟩
    use hcs, hwhole.shelters
    rw [hwhole.ends]
    rfl

/-- The marks that cut and close a list. -/
def marks : List Char := [',', '(', ')']

/-! ### Cutting a list -/

theorem pieces_eq_ok_iff_closes {q : Quoting} (hq : q.Sound) {cs : List Char}
    {ps : List (List Char)} :
  pieces q cs = .ok ps ↔ ∃ p ps', ps = p :: ps' ∧ cs = [','].intercalate ps
    ∧ Closes [','] q p ∧ ∀ p' ∈ ps', Whole [','] p'
  := by
  induction cs generalizing q ps with
  | nil =>
    rw [pieces]
    constructor
    · intro h
      split at h
      · cases h
      · rename_i hquoted
        obtain rfl := Except.ok.inj h
        use [], [], rfl, rfl
        constructor
        · exact ⟨trivial, hq.eq_outside (by simpa using hquoted)⟩
        · simp
    · rintro ⟨p, ps', rfl, hnil, hclose, -⟩
      cases ps' with
      | nil =>
        rw [List.intercalate_singleton] at hnil
        obtain rfl := hnil
        obtain rfl : q = outside := hclose.ends
        rfl
      | cons p' ps' => simp [List.intercalate_cons_cons] at hnil
  | cons c cs ih =>
    rw [pieces]
    split
    · rename_i hcomma
      obtain rfl : q = outside := hq.eq_outside (by simpa using hcomma.1)
      obtain rfl : c = ',' := hcomma.2
      constructor
      · intro h
        obtain ⟨ps, hps, rfl⟩ := map_eq_ok_iff.1 h
        obtain ⟨p, ps', rfl, rfl, hclose, hwhole⟩ := (ih hq).1 hps
        use [], p :: ps', rfl, rfl, whole_nil _
        apply List.forall_mem_cons.2 ⟨hclose, hwhole⟩
      · rintro ⟨p, ps', rfl, hcs, hclose, hwhole⟩
        cases p with
        | nil =>
          cases ps' with
          | nil => cases hcs
          | cons p' ps' =>
            rw [List.forall_mem_cons] at hwhole
            obtain rfl := (List.cons.inj hcs).2
            rw [(ih hq).2 ⟨p', ps', rfl, rfl, hwhole.1, hwhole.2⟩]
            rfl
        | cons d p =>
          obtain rfl : ',' = d := by
            cases ps' with
            | nil => exact (List.cons.inj hcs).1
            | cons p' ps' => exact (List.cons.inj hcs).1
          have hquoted := hclose.shelters.1 (by simp)
          cases hquoted
    · rename_i hcomma
      have hc : c ∈ [','] → q.quoted = true := by
        intro hmem
        obtain rfl := List.mem_singleton.1 hmem
        simpa using hcomma
      constructor
      · intro h
        obtain ⟨ps, hps, rfl⟩ := map_eq_ok_iff.1 h
        obtain ⟨p, ps', rfl, rfl, hclose, hwhole⟩ := (ih (hq.step c)).1 hps
        refine ⟨c :: p, ps', rfl, ?_, ⟨⟨hc, hclose.shelters⟩, hclose.ends⟩, hwhole⟩
        cases ps' <;> rfl
      · rintro ⟨p, ps', rfl, hcs, hclose, hwhole⟩
        cases p with
        | nil =>
          cases ps' with
          | nil => cases hcs
          | cons p' ps' =>
            obtain ⟨rfl, -⟩ := List.cons.inj hcs
            have hquoted := hc (by simp)
            obtain rfl : q = outside := hclose.ends
            cases hquoted
        | cons d p =>
          obtain ⟨rfl, rfl⟩ : c = d ∧ cs = [','].intercalate (p :: ps') := by
            cases ps' with
            | nil => exact List.cons.inj hcs
            | cons p' ps' => exact List.cons.inj hcs
          rw [(ih (hq.step c)).2
            ⟨p, ps', rfl, rfl, ⟨hclose.shelters.2, hclose.ends⟩, hwhole⟩]
          rfl

/-- A text is cut into texts that are whole without commas. -/
theorem pieces_eq_ok_iff {cs : List Char} {ps : List (List Char)} :
  pieces outside cs = .ok ps
    ↔ ps ≠ [] ∧ cs = [','].intercalate ps ∧ ∀ p ∈ ps, Whole [','] p
  := by
  rw [pieces_eq_ok_iff_closes sound_outside]
  constructor
  · rintro ⟨p, ps', rfl, hcs, hclose, hwhole⟩
    use List.cons_ne_nil _ _, hcs
    apply List.forall_mem_cons.2 ⟨hclose, hwhole⟩
  · rintro ⟨hne, hcs, hwhole⟩
    obtain ⟨p, ps', rfl⟩ := List.exists_cons_of_ne_nil hne
    rw [List.forall_mem_cons] at hwhole
    exact ⟨p, ps', rfl, hcs, hwhole.1, hwhole.2⟩

end Declaration

end HttpDispatch
