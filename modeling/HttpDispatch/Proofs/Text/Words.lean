import HttpDispatch.Proofs.Text.Pieces
import HttpDispatch.Text.Blank
import Mathlib.Data.List.TakeWhile

/-!
# Words of a text

How a text is trimmed and cut into words, told by where its blanks are.  The words of a text hold
all of its characters that are not blank, in order.
-/

namespace HttpDispatch.Text

/-- The text consists of blank characters. -/
def Blank (cs : List Char) : Prop := ∀ c ∈ cs, isBlank c = true

instance (cs : List Char) : Decidable (Blank cs) :=
  decidable_of_iff (cs.all isBlank = true) List.all_eq_true

/-- The text is a single word. -/
structure Word (cs : List Char) : Prop where
  ne_nil : cs ≠ []
  solid : ∀ c ∈ cs, isBlank c = false

instance (cs : List Char) : Decidable (Word cs) :=
  decidable_of_iff (cs ≠ [] ∧ cs.all (! isBlank ·) = true)
    ⟨fun h => ⟨h.1, by simpa using h.2⟩, fun h => ⟨h.ne_nil, by simpa using h.solid⟩⟩

/-- A word before the text ends there: the text is empty or begins with a blank character. -/
def Breaks (cs : List Char) : Prop := ∀ c ∈ cs.head?, isBlank c = true

/-- The text has the given words, with blanks between them and as it may be around them. -/
inductive Spaced : List (List Char) → List Char → Prop
  | blank {b : List Char} (hb : Blank b) : Spaced [] b
  | word {b w cs : List Char} {ws : List (List Char)} (hb : Blank b) (hw : Word w)
      (hbreaks : Breaks cs) (hrest : Spaced ws cs) : Spaced (w :: ws) (b ++ w ++ cs)

variable {b b' cs w rest : List Char} {ws : List (List Char)}

theorem blank_nil :
  Blank []
  := by
  intro c hc
  cases hc

theorem Blank.notMem (hb : Blank b) {c : Char} (hc : isBlank c = false) :
  c ∉ b
  := by
  intro hmem
  rw [hb c hmem] at hc
  cases hc

/-- A word ends before blanks. -/
theorem Blank.breaks (hb : Blank b) (hne : b ≠ []) (cs : List Char) :
  Breaks (b ++ cs)
  := by
  obtain ⟨c, b, rfl⟩ := List.exists_cons_of_ne_nil hne
  intro d hd
  obtain rfl := Option.some.inj hd
  apply hb _ List.mem_cons_self

/-! ### Trimming -/

theorem trimStart_append (hb : Blank b) (cs : List Char) :
  trimStart (b ++ cs) = trimStart cs
  := List.dropWhile_append_of_pos hb

theorem trimEnd_append (hb : Blank b) (cs : List Char) :
  trimEnd (cs ++ b) = trimEnd cs
  := by
  have hb' : ∀ c ∈ b.reverse, isBlank c = true := by
    intro c hc
    apply hb c (List.mem_reverse.1 hc)
  rw [trimEnd, List.reverse_append, List.dropWhile_append_of_pos hb', trimEnd]

/-- Blanks around a text are trimmed. -/
theorem trim_append (hb : Blank b) (hb' : Blank b') (cs : List Char) :
  trim (b ++ cs ++ b') = trim cs
  := by
  rw [trim, trim, List.append_assoc, trimStart_append hb, trimStart, List.dropWhile_append]
  split
  · rename_i hempty
    have hnil := List.isEmpty_iff.1 hempty
    rw [List.dropWhile_eq_nil_iff.2 hb', trimStart, hnil]
  · rw [trimEnd_append hb', trimStart]

theorem trimStart_eq_self (h : ∀ c ∈ cs.head?, isBlank c = false) :
  trimStart cs = cs
  := by
  cases cs with
  | nil => rfl
  | cons c cs =>
    rw [trimStart, List.dropWhile_cons, h c rfl]
    rfl

/-- A text with no blanks at its ends is not trimmed. -/
theorem trim_eq_self (hhead : ∀ c ∈ cs.head?, isBlank c = false)
    (hlast : ∀ c ∈ cs.getLast?, isBlank c = false) :
  trim cs = cs
  := by
  have hreverse : trimStart cs.reverse = cs.reverse := by
    apply trimStart_eq_self
    rw [List.head?_reverse]
    exact hlast
  rw [trim, trimStart_eq_self hhead, trimEnd]
  rw [trimStart] at hreverse
  rw [hreverse, List.reverse_reverse]

theorem Word.head (hw : Word w) (cs : List Char) :
  ∀ c ∈ (w ++ cs).head?, isBlank c = false
  := by
  obtain ⟨d, w, rfl⟩ := List.exists_cons_of_ne_nil hw.ne_nil
  intro c hc
  obtain rfl := Option.some.inj hc
  apply hw.solid _ List.mem_cons_self

theorem Word.last (hw : Word w) (cs : List Char) :
  ∀ c ∈ (cs ++ w).getLast?, isBlank c = false
  := by
  intro c hc
  obtain ⟨d, hd⟩ := List.getLast?_isSome.2 hw.ne_nil |> Option.isSome_iff_exists.1
  rw [List.getLast?_append, hd] at hc
  apply hw.solid c (List.mem_of_getLast? (hd.trans hc))

/-- What is trimmed at an end are blanks. -/
theorem exists_trimEnd (cs : List Char) :
  ∃ b, Blank b ∧ cs = trimEnd cs ++ b
  := by
  use (cs.reverse.takeWhile isBlank).reverse
  constructor
  · intro c hc
    apply List.mem_takeWhile_imp (List.mem_reverse.1 hc)
  · rw [trimEnd, ← List.reverse_append, List.takeWhile_append_dropWhile, List.reverse_reverse]

/-- What is trimmed are blanks. -/
theorem exists_trim (cs : List Char) :
  ∃ b b', Blank b ∧ Blank b' ∧ cs = b ++ trim cs ++ b'
  := by
  obtain ⟨b', hb', hend⟩ := exists_trimEnd (trimStart cs)
  use cs.takeWhile isBlank, b'
  refine ⟨fun c hc => List.mem_takeWhile_imp hc, hb', ?_⟩
  rw [List.append_assoc, trim, ← hend, trimStart, List.takeWhile_append_dropWhile]

/-- Only blanks are trimmed to nothing. -/
theorem trim_eq_nil_iff :
  trim cs = [] ↔ Blank cs
  := by
  constructor
  · intro h
    obtain ⟨b, b', hb, hb', hcs⟩ := exists_trim cs
    rw [h, List.append_nil] at hcs
    intro c hc
    rw [hcs, List.mem_append] at hc
    apply hc.elim (hb c) (hb' c)
  · intro h
    have htrim := trim_append h blank_nil []
    rw [List.append_nil, List.append_nil] at htrim
    rw [htrim]
    rfl

theorem mem_of_mem_trim {c : Char} (h : c ∈ trim cs) :
  c ∈ cs
  := by
  rw [trim, trimEnd, List.mem_reverse] at h
  have hstart := (List.dropWhile_sublist isBlank).mem h
  apply (List.dropWhile_sublist isBlank).mem (List.mem_reverse.1 hstart)

/-! ### Words -/

/-- The first word of a text is what stands between blanks. -/
theorem nextWord_append (hb : Blank b) (hw : Word w) (hrest : Breaks rest) :
  nextWord (b ++ w ++ rest) = (w, rest)
  := by
  have hsolid : ∀ c ∈ w, (! isBlank c) = true := by
    intro c hc
    rw [hw.solid c hc]
    rfl
  rw [nextWord, List.append_assoc, trimStart_append hb, trimStart_eq_self (hw.head rest),
    List.span_eq_takeWhile_dropWhile, List.takeWhile_append_of_pos hsolid,
    List.dropWhile_append_of_pos hsolid]
  cases rest with
  | nil => simp
  | cons c rest => simp [hrest c rfl]

theorem word_of_nextWord (h : nextWord cs = (w, rest)) (hne : w ≠ []) :
  Word w
  := by
  rw [nextWord, List.span_eq_takeWhile_dropWhile] at h
  use hne
  intro c hc
  rw [← (Prod.mk.inj h).1] at hc
  simpa using List.mem_takeWhile_imp hc

theorem suffix_of_nextWord (h : nextWord cs = (w, rest)) :
  rest <:+ cs
  := by
  rw [nextWord, List.span_eq_takeWhile_dropWhile] at h
  rw [← (Prod.mk.inj h).2]
  apply (List.dropWhile_suffix _).trans (List.dropWhile_suffix _)

theorem words_cons_of_blank {c : Char} (hc : isBlank c = true) (cs : List Char) :
  words (c :: cs) = words cs
  := by
  rw [words, List.splitOnP_cons_eq_if_modifyHead, if_pos hc]
  rfl

theorem words_append_of_blank (hb : Blank b) (cs : List Char) :
  words (b ++ cs) = words cs
  := by
  induction b with
  | nil => rfl
  | cons c b ih =>
    rw [Blank, List.forall_mem_cons] at hb
    rw [List.cons_append, words_cons_of_blank hb.1, ih hb.2]

theorem words_blank (hb : Blank b) :
  words b = []
  := by
  have hnil := words_append_of_blank hb []
  rw [List.append_nil] at hnil
  rw [hnil]
  rfl

theorem words_word (hw : Word w) :
  words w = [w]
  := by
  rw [words, List.splitOnP_eq_singleton hw.solid]
  simp [hw.ne_nil]

theorem words_word_append (hw : Word w) (hrest : Breaks rest) :
  words (w ++ rest) = w :: words rest
  := by
  cases rest with
  | nil =>
    rw [List.append_nil, words_word hw]
    rfl
  | cons c rest =>
    have hword := words_word hw
    rw [words] at hword
    rw [words, List.splitOnP_append_cons w rest (hrest c rfl), List.filter_append, hword,
      words_cons_of_blank (hrest c rfl)]
    rfl

/-- Blanks at the end of a text are in none of its words. -/
theorem words_append_blank (hb : Blank b) (cs : List Char) :
  words (cs ++ b) = words cs
  := by
  cases b with
  | nil => rw [List.append_nil]
  | cons c b =>
    rw [Blank, List.forall_mem_cons] at hb
    have hnil := words_blank hb.2
    rw [words] at hnil
    rw [words, List.splitOnP_append_cons cs b hb.1, List.filter_append, hnil, List.append_nil,
      words]

/-- The words of a text with given words. -/
theorem words_of_spaced (h : Spaced ws cs) :
  words cs = ws
  := by
  induction h with
  | blank hb => apply words_blank hb
  | word hb hw hbreaks _ ih =>
    rw [List.append_assoc, words_append_of_blank hb, words_word_append hw hbreaks, ih]

theorem word_of_mem_words (h : w ∈ words cs) :
  Word w
  := by
  obtain ⟨hmem, hne⟩ := List.mem_filter.1 h
  constructor
  · rintro rfl
    cases hne
  · apply eq_false_of_mem_splitOnP hmem

/-- The words of a text hold all of it but its blanks. -/
theorem flatten_words (cs : List Char) :
  (words cs).flatten = cs.filter (! isBlank ·)
  := by
  rw [words, List.flatten_filter_not_isEmpty]
  induction cs with
  | nil => rfl
  | cons c cs ih =>
    rw [List.splitOnP_cons_eq_if_modifyHead]
    split
    · rename_i hc
      rw [List.flatten_cons, List.nil_append, ih, List.filter_cons, hc]
      rfl
    · rename_i hc
      obtain ⟨p, ps, hp⟩ := List.exists_cons_of_ne_nil (List.splitOnP_ne_nil isBlank cs)
      rw [hp] at ih ⊢
      rw [List.filter_cons_of_pos (by simpa using hc), ← ih]
      rfl

theorem mem_of_mem_words (h : w ∈ words cs) {c : Char} (hc : c ∈ w) :
  c ∈ cs
  := by
  have hflatten := List.mem_flatten_of_mem h hc
  rw [flatten_words] at hflatten
  apply List.mem_of_mem_filter hflatten

/-- A character that is not blank is in a text if it is in one of its words. -/
theorem mem_iff_of_not_blank {c : Char} (hc : isBlank c = false) :
  c ∈ cs ↔ ∃ w ∈ words cs, c ∈ w
  := by
  rw [← List.mem_flatten, flatten_words, List.mem_filter, hc]
  simp

end HttpDispatch.Text
