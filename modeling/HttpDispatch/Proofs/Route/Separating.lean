import HttpDispatch.Proofs.Route.Reading

/-!
# Separating parameters

A list of parameters is closed by one scan and cut by another one, and both follow its quotes.  What
lies outside quotes is told here without a scan: a `Quoting.Balanced` text is made of characters
that are no quotes and of texts between quotes.  A list that has been closed is always cut, at the
commas outside quotes and nowhere else, and every quote stays with its declaration:
`Declaration.splitParams_of_closeList`.
-/

namespace HttpDispatch

open Fallible Text

namespace Quoting

/-! ### Texts between quotes -/

/-- A text that may stand between quotes: a backslash takes away the meaning of the character after
it. -/
inductive Content : List Char → Prop
  | nil : Content []
  | plain {c : Char} {cs : List Char} (hquote : c ≠ '\'') (hslash : c ≠ '\\') (h : Content cs) :
      Content (c :: cs)
  | escaped (c : Char) {cs : List Char} (h : Content cs) : Content ('\\' :: c :: cs)

/-- The text consists of characters that are no quotes and of texts between quotes. -/
inductive Balanced : List Char → Prop
  | nil : Balanced []
  | plain {c : Char} {cs : List Char} (hquote : c ≠ '\'') (h : Balanced cs) : Balanced (c :: cs)
  | quoted {content cs : List Char} (hcontent : Content content) (h : Balanced cs) :
      Balanced ('\'' :: content ++ '\'' :: cs)

variable {q : Quoting} {marks cs xs ys : List Char}

theorem Content.after_eq (h : Content cs) :
  inside.after cs = inside
  := by
  induction h with
  | nil => rfl
  | plain hquote hslash _ ih =>
    rw [Quoting.after, List.foldl_cons, step_inside hquote hslash]
    exact ih
  | escaped c _ ih => exact ih

theorem Balanced.after_eq (h : Balanced cs) :
  outside.after cs = outside
  := by
  induction h with
  | nil => rfl
  | plain hquote _ ih =>
    rw [Quoting.after, List.foldl_cons, step_outside hquote]
    exact ih
  | @quoted content cs hcontent _ ih =>
    change inside.after (content ++ '\'' :: cs) = outside
    rw [after_append, hcontent.after_eq]
    exact ih

/-- A text that leads out of quotes begins with the rest of what stands between them, of which a
backslash may have been read before. -/
theorem exists_content (hq : q.quoted = true) (h : q.after cs = outside) :
  ∃ content rest, cs = content ++ '\'' :: rest
    ∧ Content ((if q.escaped then ['\\'] else []) ++ content) ∧ outside.after rest = outside
  := by
  induction cs generalizing q with
  | nil =>
    obtain rfl : q = outside := h
    cases hq
  | cons c cs ih =>
    obtain ⟨_, escaped⟩ := q
    obtain rfl := hq
    cases escaped with
    | true =>
      obtain ⟨content, rest, rfl, hcontent, hrest⟩ := ih rfl h
      exact ⟨c :: content, rest, rfl, .escaped c hcontent, hrest⟩
    | false =>
      by_cases hquote : c = '\''
      · subst hquote
        exact ⟨[], cs, rfl, .nil, h⟩
      · by_cases hslash : c = '\\'
        · subst hslash
          obtain ⟨content, rest, rfl, hcontent, hrest⟩ := ih rfl h
          exact ⟨'\\' :: content, rest, rfl, hcontent, hrest⟩
        · change (inside.step c).after cs = outside at h
          rw [step_inside hquote hslash] at h
          obtain ⟨content, rest, rfl, hcontent, hrest⟩ := ih rfl h
          exact ⟨c :: content, rest, rfl, .plain hquote hslash hcontent, hrest⟩

/-- The texts that end outside quotes. -/
theorem balanced_iff :
  Balanced cs ↔ outside.after cs = outside
  := by
  constructor
  · exact Balanced.after_eq
  · intro h
    -- what follows a text between quotes is no tail that an induction on the text would reach
    induction hlength : cs.length using Nat.strong_induction_on generalizing cs with
    | _ n ih =>
      subst hlength
      cases cs with
      | nil => exact .nil
      | cons c cs =>
        by_cases hquote : c = '\''
        · subst hquote
          obtain ⟨content, rest, rfl, hcontent, hrest⟩ :=
            exists_content rfl (show inside.after cs = outside from h)
          apply Balanced.quoted hcontent
          apply ih rest.length _ hrest rfl
          simp only [List.length_cons, List.length_append]
          omega
        · change (outside.step c).after cs = outside at h
          rw [step_outside hquote] at h
          apply Balanced.plain hquote
          apply ih cs.length (Nat.lt_succ_self _) h rfl

instance : DecidablePred Balanced := fun _ => decidable_of_iff _ balanced_iff.symm

/-- What is balanced at the beginning does not count for what follows. -/
theorem balanced_append_iff (hx : Balanced xs) :
  Balanced (xs ++ ys) ↔ Balanced ys
  := by
  rw [balanced_iff, after_append, hx.after_eq, balanced_iff]

/-- Outside quotes the text before a place is balanced, and inside it is not. -/
theorem quoted_after_eq_true_iff :
  (outside.after cs).quoted = true ↔ ¬ Balanced cs
  := by
  rw [balanced_iff]
  constructor
  · intro hquoted hends
    rw [hends] at hquoted
    cases hquoted
  · intro hends
    by_contra hquoted
    apply hends
    apply (sound_outside.after cs).eq_outside (by simpa using hquoted)

/-- A text without quotes does not lead inside quotes or outside. -/
theorem quoted_after_of_notMem (h : '\'' ∉ cs) :
  (q.after cs).quoted = q.quoted
  := by
  induction cs generalizing q with
  | nil => rfl
  | cons c cs ih =>
    rw [List.mem_cons, not_or] at h
    have hstep : (q.step c).quoted = q.quoted := by
      simp only [step, Ne.symm h.1, if_false]
      split
      · rfl
      · split <;> rfl
    exact (ih h.2).trans hstep

/-! ### Places outside quotes -/

/-- The places of a character that lie outside quotes: the text before them is balanced. -/
def exposed (c : Char) (cs : List Char) : List ℕ :=
  (List.range cs.length).filter fun i => cs[i]? = some c ∧ Balanced (cs.take i)

theorem mem_exposed_iff {c : Char} {i : ℕ} :
  i ∈ exposed c cs ↔ cs[i]? = some c ∧ Balanced (cs.take i)
  := by
  rw [exposed, List.mem_filter, List.mem_range, decide_eq_true_iff, and_iff_right_iff_imp]
  rintro ⟨hc, -⟩
  exact (List.getElem?_eq_some_iff.1 hc).1

/-- Behind a balanced text the places are moved by its length. -/
theorem exposed_append (hx : Balanced xs) (c : Char) (ys : List Char) :
  exposed c (xs ++ ys) = exposed c xs ++ (exposed c ys).map (xs.length + ·)
  := by
  rw [exposed, List.length_append, List.range_add, List.filter_append, List.filter_map]
  have hfront : ∀ i ∈ List.range xs.length,
      decide ((xs ++ ys)[i]? = some c ∧ Balanced ((xs ++ ys).take i))
        = decide (xs[i]? = some c ∧ Balanced (xs.take i)) := by
    intro i hi
    have hlt := List.mem_range.1 hi
    rw [List.getElem?_append_left hlt, List.take_append_of_le_length hlt.le]
  have hback : ∀ i ∈ List.range ys.length,
      decide ((xs ++ ys)[xs.length + i]? = some c ∧ Balanced ((xs ++ ys).take (xs.length + i)))
        = decide (ys[i]? = some c ∧ Balanced (ys.take i)) := by
    intro i _
    rw [List.getElem?_append_right (Nat.le_add_right _ _), Nat.add_sub_cancel_left,
      List.take_length_add_append, decide_eq_decide, balanced_append_iff hx]
  exact congrArg₂ (fun front back : List ℕ => front ++ back.map (xs.length + ·))
    (List.filter_congr hfront) (List.filter_congr hback)

/-- Sheltered marks lie inside quotes, wherever they stand. -/
theorem shelters_iff :
  q.Shelters marks cs
    ↔ ∀ i, ∀ c ∈ cs[i]?, c ∈ marks → (q.after (cs.take i)).quoted = true
  := by
  induction cs generalizing q with
  | nil => simp [Shelters]
  | cons c cs ih =>
    rw [Shelters, ih]
    constructor
    · rintro ⟨hfirst, hrest⟩ i d hd hmark
      cases i with
      | zero =>
        obtain rfl := Option.some.inj hd
        exact hfirst hmark
      | succ i => exact hrest i d hd hmark
    · intro h
      exact ⟨fun hmark => h 0 c rfl hmark, fun i d hd hmark => h (i + 1) d hd hmark⟩

/-- The whole texts are the balanced ones with no mark outside quotes. -/
theorem whole_iff :
  Whole marks cs ↔ Balanced cs ∧ ∀ c ∈ marks, exposed c cs = []
  := by
  have hexposed : outside.Shelters marks cs ↔ ∀ c ∈ marks, exposed c cs = [] := by
    simp only [shelters_iff, quoted_after_eq_true_iff, List.eq_nil_iff_forall_not_mem,
      mem_exposed_iff, Option.mem_def, not_and]
    constructor
    · intro h c hmark i hc
      exact h i c hc hmark
    · intro h i c hc hmark
      exact h c hmark i hc
  constructor
  · intro h
    exact ⟨balanced_iff.2 h.ends, hexposed.1 h.shelters⟩
  · rintro ⟨hbalanced, hmarks⟩
    exact ⟨hexposed.2 hmarks, hbalanced.after_eq⟩

end Quoting

namespace Declaration

open Quoting

/-! ### Cutting a list -/

/-- Only a text that ends inside quotes is not cut. -/
theorem pieces_eq_error_iff {q : Quoting} (hq : q.Sound) {cs : List Char} {fault : RouteFault} :
  pieces q cs = .error fault ↔ fault = .unterminatedQuote ∧ (q.after cs).quoted = true
  := by
  induction cs generalizing q with
  | nil =>
    rw [pieces]
    change _ ↔ _ ∧ q.quoted = true
    cases q.quoted with
    | false => simp
    | true => simp [eq_comm]
  | cons c cs ih =>
    change _ ↔ _ ∧ ((q.step c).after cs).quoted = true
    rw [pieces]
    split
    · rename_i hcomma
      obtain rfl : q = outside := hq.eq_outside (by simpa using hcomma.1)
      obtain rfl : c = ',' := hcomma.2
      rw [map_eq_error_iff, ih hq]
      rfl
    · rw [map_eq_error_iff, ih (hq.step c)]

/-- A text that ends outside quotes is cut. -/
theorem exists_pieces {cs : List Char} (h : outside.after cs = outside) :
  ∃ ps, pieces outside cs = .ok ps
  := by
  cases hpieces : pieces outside cs with
  | error fault =>
    obtain ⟨-, hquoted⟩ := (pieces_eq_error_iff sound_outside).1 hpieces
    rw [h] at hquoted
    cases hquoted
  | ok ps => exact ⟨ps, rfl⟩

/-- The pieces of a list that is cut at the commas outside quotes. -/
structure Separated (list : List Char) (ps : List (List Char)) : Prop where
  /-- The list has its pieces with commas between them. -/
  joined : [','].intercalate ps = list
  /-- There is one piece more than commas outside quotes. -/
  count : ps.length = (exposed ',' list).length + 1
  /-- A piece has no comma outside quotes, and ends outside as it begins. -/
  whole : ∀ p ∈ ps, exposed ',' p = [] ∧ Balanced p
  /-- A piece stands in the list between the others, and whether a place of it lies inside quotes,
  and after a backslash there, is the same in the list. -/
  kept : ∀ front p back, ps = front ++ p :: back →
    list = front.flatMap (· ++ [',']) ++ p ++ back.flatMap ([','] ++ ·)
      ∧ ∀ i, outside.after (front.flatMap (· ++ [',']) ++ p.take i) = outside.after (p.take i)

theorem whole_comma_iff {cs : List Char} :
  Whole [','] cs ↔ exposed ',' cs = [] ∧ Balanced cs
  := by
  rw [whole_iff, List.forall_mem_singleton, and_comm]

/-- Joined pieces have one comma less outside quotes than there are pieces. -/
theorem length_exposed_intercalate {ps : List (List Char)} (hne : ps ≠ [])
    (h : ∀ p ∈ ps, exposed ',' p = [] ∧ Balanced p) :
  (exposed ',' ([','].intercalate ps)).length + 1 = ps.length
  := by
  induction ps with
  | nil => exact absurd rfl hne
  | cons p ps ih =>
    obtain ⟨⟨hnone, hbalanced⟩, hps⟩ := List.forall_mem_cons.1 h
    by_cases hnil : ps = []
    · rw [hnil, List.intercalate_singleton, hnone]
      rfl
    · have hcomma : Balanced [','] := .plain (by decide) .nil
      have hone : exposed ',' [','] = [0] := by decide
      rw [List.intercalate_cons_of_ne_nil hnil, List.append_assoc, exposed_append hbalanced,
        exposed_append hcomma, hnone, hone]
      simp [ih hnil hps]

/-- Behind pieces that end outside quotes, a piece begins outside. -/
theorem balanced_flatMap {ps : List (List Char)} (h : ∀ p ∈ ps, Balanced p) :
  Balanced (ps.flatMap (· ++ [',']))
  := by
  induction ps with
  | nil => exact .nil
  | cons p ps ih =>
    obtain ⟨hp, hps⟩ := List.forall_mem_cons.1 h
    rw [List.flatMap_cons, List.append_assoc, balanced_append_iff hp]
    exact .plain (by decide) (ih hps)

/-- A text is cut into its separated pieces. -/
theorem pieces_eq_ok_iff_separated {list : List Char} {ps : List (List Char)} :
  pieces outside list = .ok ps ↔ Separated list ps
  := by
  rw [pieces_eq_ok_iff]
  simp only [whole_comma_iff]
  constructor
  · rintro ⟨hne, rfl, hwhole⟩
    refine ⟨rfl, (length_exposed_intercalate hne hwhole).symm, hwhole, ?_⟩
    rintro front p back rfl
    have hfront : Balanced (front.flatMap (· ++ [','])) := by
      apply balanced_flatMap
      intro p' hp'
      exact (hwhole p' (List.mem_append_left _ hp')).2
    refine ⟨intercalate_append_cons _ _ _ _, ?_⟩
    intro i
    rw [after_append, hfront.after_eq]
  · intro h
    refine ⟨?_, h.joined.symm, h.whole⟩
    rintro rfl
    cases h.count

/-- The blanks at the ends of a text lie outside quotes if the text ends there. -/
theorem whole_trim {cs : List Char} (h : Whole [','] cs) :
  Whole [','] (trim cs)
  := by
  obtain ⟨b, b', hb, hb', hcs⟩ := exists_trim cs
  rw [hcs, List.append_assoc] at h
  have hrest := h.of_append (whole_blank hb)
  have hquoted : ((outside.after (trim cs)).after b').quoted = false := by
    rw [← after_append, hrest.ends]
    rfl
  rw [quoted_after_of_notMem (hb'.notMem rfl)] at hquoted
  use (shelters_append.1 hrest.shelters).1
  apply (sound_outside.after _).eq_outside hquoted

theorem splitParams_of_pieces {list : List Char} {ps : List (List Char)}
    (h : pieces outside list = .ok ps) :
  splitParams list = .ok (if Blank list then [] else ps.map trim)
  := by
  rw [splitParams_eq, h]
  split
  · rfl
  · rfl

/-! ### Lists that have been closed -/

/-- A list of parameters that has been closed is cut, at the commas outside quotes and nowhere else,
so that no quote and no escape gets from one declaration into another.  A blank list declares
nothing. -/
theorem splitParams_of_closeList {text : List Char} {opening : ℕ}
    (hopening : text[opening]? = some '(') {list after : List Char}
    (hclose : closeList outside (text.drop (opening + 1)) = .ok (list, after)) :
  text = text.take opening ++ '(' :: list ++ ')' :: after
    ∧ ∃ ps, Separated list ps
      ∧ splitParams list = .ok (if Blank list then [] else ps.map trim)
      ∧ ∀ p ∈ ps, exposed ',' (trim p) = [] ∧ Balanced (trim p)
  := by
  obtain ⟨hrest, hwhole⟩ := closeList_eq_ok_iff.1 hclose
  constructor
  · obtain ⟨hlt, hparen⟩ := List.getElem?_eq_some_iff.1 hopening
    rw [List.append_assoc, List.cons_append, ← hrest, ← hparen, List.getElem_cons_drop,
      List.take_append_drop]
  · obtain ⟨ps, hpieces⟩ := exists_pieces hwhole.ends
    have hseparated := pieces_eq_ok_iff_separated.1 hpieces
    refine ⟨ps, hseparated, splitParams_of_pieces hpieces, ?_⟩
    intro p hp
    apply whole_comma_iff.1
    apply whole_trim
    apply whole_comma_iff.2 (hseparated.whole p hp)

/-- A handler with a parameter whose value has a comma, an escaped quote and parentheses. -/
def greeting : List Char := "Say.hi(String text = 'hi, it\\'s (me)', String to) cached".toList

/-- The parameters of that handler. -/
def greetingParams : List Char := "String text = 'hi, it\\'s (me)', String to".toList

theorem splitParams_of_closeList_greeting :
  greeting[6]? = some '('
    ∧ closeList outside (greeting.drop 7) = .ok (greetingParams, " cached".toList)
    ∧ greeting = greeting.take 6 ++ '(' :: greetingParams ++ ')' :: " cached".toList
    ∧ exposed ',' greetingParams = [30]
    ∧ ∃ ps, Separated greetingParams ps ∧ ps.length = 2
      ∧ ps.map trim = ["String text = 'hi, it\\'s (me)'".toList, "String to".toList]
      ∧ ∀ p ∈ ps, exposed ',' (trim p) = [] ∧ Balanced (trim p)
  := by
  have hopening : greeting[6]? = some '(' := by decide +kernel
  have hclose : closeList outside (greeting.drop 7) = .ok (greetingParams, " cached".toList) := by
    decide +kernel
  have hcommas : exposed ',' greetingParams = [30] := by decide +kernel
  have hsplit : splitParams greetingParams
      = .ok ["String text = 'hi, it\\'s (me)'".toList, "String to".toList] := by
    decide +kernel
  obtain ⟨htext, ps, hseparated, hps, htrimmed⟩ := splitParams_of_closeList hopening hclose
  refine ⟨hopening, hclose, htext, hcommas, ps, hseparated, ?_, ?_, htrimmed⟩
  · rw [hseparated.count, hcommas]
    rfl
  · rw [hsplit, if_neg (by decide +kernel)] at hps
    exact (Except.ok.inj hps).symm

end Declaration

end HttpDispatch
