import HttpDispatch.Proofs.Route.Layout

/-!
# Written declarations

A declaration is written with every value between quotes.  A text that goes on after a comma never
declares what its front declares, so a written list can be cut in one way only to declare its
parameters, and a written declaration is read back exactly if its written parameters are whole.
Types without marks and values without backslashes make them so.
-/

namespace HttpDispatch

open Fallible Text

/-! ### Written declarations -/

/-- What is written after the name of a parameter. -/
def ValueRule.written : ValueRule → List Char
  | .plain => []
  | .defaulted text => [' ', '?', '=', ' ', '\''] ++ Param.escapeQuotes text.toList ++ ['\'']
  | .forced text => [' ', '=', ' ', '\''] ++ Param.escapeQuotes text.toList ++ ['\'']

/-- The parameter as it is written. -/
def ParamDeclaration.written (p : ParamDeclaration) : List Char :=
  p.type.toList ++ [' '] ++ p.name.toList ++ p.rule.written

namespace Declaration

/-- The texts between the commas of a written list. -/
def writtenPieces : List ParamDeclaration → List (List Char)
  | [] => []
  | p :: ps => p.written :: ps.map (' ' :: ·.written)

/-- The words after a written list. -/
def writtenModifiers (ms : List String) : List Char := ms.flatMap fun m => ' ' :: m.toList

/-- The declaration as it is written. -/
def written (d : Declaration) : List Char :=
  [] ++ d.method.token.toList ++ ([' '] ++ d.path.toList ++ ([' '] ++ (d.handler.toList ++ []
    ++ '(' :: ([','].intercalate (writtenPieces d.params) ++ ')' :: writtenModifiers d.modifiers))))

variable {p : ParamDeclaration} {ps : List ParamDeclaration} {cs : List Char}

/-- A written parameter declares the parameter. -/
theorem declares_written (hp : p.Spelled) :
  Declares p.written p
  := by
  apply declares_of_ruleText hp (by decide) (by decide)
  cases p.rule with
  | plain => exact .plain
  | defaulted text =>
    exact @RuleText.defaulted _ [' '] [' '] _ _ (by decide) (by decide) (denotes_quoted text)
  | forced text =>
    exact @RuleText.forced _ [' '] [' '] _ _ (by decide) (by decide) (denotes_quoted text)

theorem forall₂_writtenPieces (hps : ∀ p ∈ ps, p.Spelled) :
  List.Forall₂ Declares (writtenPieces ps) ps
  := by
  cases ps with
  | nil => exact .nil
  | cons p ps =>
    rw [List.forall_mem_cons] at hps
    apply List.Forall₂.cons (declares_written hps.1)
    rw [List.forall₂_map_left_iff, List.forall₂_same]
    intro p hp
    have hblank := @declares_append_iff [' '] [] (by decide) (by decide) p.written p
    rw [List.append_nil] at hblank
    apply hblank.2 (declares_written (hps.2 p hp))

theorem spaced_writtenModifiers {ms : List String} (hms : ∀ m ∈ ms, Word m.toList) :
  Spaced (ms.map String.toList) (writtenModifiers ms)
  := by
  induction ms with
  | nil => exact .blank blank_nil
  | cons m ms ih =>
    rw [List.forall_mem_cons] at hms
    apply @Spaced.word [' '] _ _ _ (by decide) hms.1 ?_ (ih hms.2)
    cases ms with
    | nil => intro c hc; cases hc
    | cons m ms =>
      intro c hc
      obtain rfl := Option.some.inj hc
      rfl

/-! ### Values determine their texts -/

theorem unescapeQuotes_append_cons {c : Char} (hc : c ≠ '\'') (xs ys : List Char) :
  unescapeQuotes (xs ++ c :: ys) = unescapeQuotes xs ++ unescapeQuotes (c :: ys)
  := by
  fun_induction unescapeQuotes xs with
  | case1 => rfl
  | case2 d =>
    rw [List.singleton_append, unescapeQuotes_cons (fun h => hc h.2)]
    rfl
  | case3 d e xs h ih =>
    obtain ⟨rfl, rfl⟩ := h
    change '\'' :: unescapeQuotes (xs ++ c :: ys) = _
    rw [ih]
    rfl
  | case4 d e xs h ih =>
    rw [List.cons_append] at ih
    rw [List.cons_append, List.cons_append, unescapeQuotes_cons h, ih]
    rfl

theorem length_unescapeQuotes_le_append (xs ys : List Char) :
  (unescapeQuotes xs).length ≤ (unescapeQuotes (xs ++ ys)).length
  := by
  fun_induction unescapeQuotes xs with
  | case1 => apply Nat.zero_le
  | case2 d =>
    cases ys with
    | nil => rfl
    | cons c ys =>
      rw [List.singleton_append, unescapeQuotes]
      split <;> simp
  | case3 d e xs h ih =>
    obtain ⟨rfl, rfl⟩ := h
    change _ ≤ ('\'' :: unescapeQuotes (xs ++ ys)).length
    simpa using ih
  | case4 d e xs h ih =>
    rw [List.cons_append] at ih
    rw [List.cons_append, List.cons_append, unescapeQuotes_cons h]
    simpa using ih

theorem unescapeQuotes_cons_ne_nil (c : Char) (cs : List Char) :
  unescapeQuotes (c :: cs) ≠ []
  := by
  cases cs with
  | nil => apply List.cons_ne_nil
  | cons d cs =>
    rw [unescapeQuotes]
    split <;> apply List.cons_ne_nil

theorem length_unescapeQuotes_lt_append {c : Char} (hc : c ≠ '\'') (xs ys zs : List Char) :
  (unescapeQuotes xs).length < (unescapeQuotes (xs ++ ys ++ c :: zs)).length
  := by
  rw [unescapeQuotes_append_cons hc, List.length_append]
  have hle := length_unescapeQuotes_le_append xs ys
  have hpos := List.length_pos_of_ne_nil (unescapeQuotes_cons_ne_nil c zs)
  omega

/-- A text that goes on after a comma does not denote what its front denotes. -/
theorem unquote_append_ne {us ys zs text : List Char} (hne : us ≠ [])
    (h : unquote us = some text) :
  unquote (us ++ ys ++ ',' :: zs) ≠ some text
  := by
  intro hlong
  obtain ⟨c, us, rfl⟩ := List.exists_cons_of_ne_nil hne
  rw [List.cons_append, List.cons_append] at hlong
  by_cases hc : c = '\''
  · subst hc
    obtain ⟨front, rfl, htext⟩ := unquote_quote_iff.1 h
    obtain ⟨front', hfront', htext'⟩ := unquote_quote_iff.1 hlong
    -- The comma comes before the quote at the end.
    obtain ⟨zs', rfl⟩ : ∃ zs', zs = zs' ++ ['\''] := by
      have hlast := congrArg List.getLast? hfront'
      rw [List.getLast?_append_of_ne_nil _ (List.cons_ne_nil _ _), List.getLast?_concat] at hlast
      obtain ⟨zs', hzs'⟩ := List.getLast?_eq_some_iff.1 hlast
      cases zs' with
      | nil => cases hzs'
      | cons d zs' => exact ⟨zs', (List.cons.inj hzs').2⟩
    have hshape : front ++ ['\''] ++ ys ++ ',' :: (zs' ++ ['\''])
        = front ++ ('\'' :: ys) ++ ',' :: zs' ++ ['\''] := by simp
    obtain rfl := List.append_cancel_right (hshape.symm.trans hfront')
    have hlt := @length_unescapeQuotes_lt_append ',' (by decide) front ('\'' :: ys) zs'
    rw [htext, htext'] at hlt
    exact lt_irrefl _ hlt
  · have hhead : ∀ {cs : List Char}, ∀ d ∈ (c :: cs).head?, d ≠ '\'' := by
      intro cs d hd
      obtain rfl := Option.some.inj hd
      exact hc
    have heq := ((unquote_bare_iff hhead).1 hlong).2.trans ((unquote_bare_iff hhead).1 h).2.symm
    have hlength := congrArg List.length heq
    simp at hlength

/-- A text that goes on after a comma is trimmed to one that does. -/
theorem trim_append_comma {cs : List Char} (hne : trim cs ≠ []) (x : List Char) :
  ∃ ys zs, trim (cs ++ ',' :: x) = trim cs ++ ys ++ ',' :: zs
  := by
  obtain ⟨b, -, hstart⟩ := exists_trimEnd (trimStart cs)
  have hstart' : trimStart (cs ++ ',' :: x) = trim cs ++ b ++ ',' :: x := by
    rw [trimStart, List.dropWhile_append, if_neg, ← trimStart, hstart, trim]
    rw [← trimStart, hstart, List.isEmpty_iff]
    apply List.append_ne_nil_of_left_ne_nil hne
  obtain ⟨b', hb', hend⟩ := exists_trimEnd (trim cs ++ b ++ ',' :: x)
  have hcomma : ',' ∉ b' := hb'.notMem rfl
  rw [trim, hstart']
  rcases List.append_eq_append_iff.1 hend with ⟨zs, htrim, hzs⟩ | ⟨zs, -, hzs⟩
  · cases zs with
    | nil =>
      rw [← List.nil_append b', ← hzs] at hcomma
      exact absurd List.mem_cons_self hcomma
    | cons c zs =>
      obtain ⟨rfl, -⟩ := List.cons.inj hzs
      exact ⟨b, zs, htrim⟩
  · rw [hzs, List.mem_append, not_or] at hcomma
    exact absurd List.mem_cons_self hcomma.2

/-! ### Written lists -/

theorem declares_iff_split {signature : List Char} {value : Option (Bool × List Char)}
    (h : splitValue cs = (signature, value)) :
  Declares cs p ↔ words signature = [p.type.toList, p.name.toList]
    ∧ isIdentifier p.name = true ∧ valueRule? value = some p.rule
  := by
  rw [← readParam_eq_ok_iff, readParam_eq_ok_iff_split h]
  constructor
  · rintro ⟨type, name, rule, hwords, hname, hrule, rfl⟩
    rw [String.toList_ofList, String.toList_ofList]
    exact ⟨hwords, hname, hrule⟩
  · rintro ⟨hwords, hname, hrule⟩
    refine ⟨_, _, _, hwords, ?_, hrule, ?_⟩
    · rw [String.ofList_toList]
      exact hname
    · rw [String.ofList_toList, String.ofList_toList]

/-- What stands before the first `=` does not depend on what follows. -/
theorem exists_splitValue {signature : List Char} (h : '=' ∉ signature) :
  ∃ signature' isDefault, ∀ value,
    splitValue (signature ++ '=' :: value) = (signature', some (isDefault, trim value))
  := by
  by_cases hlast : signature.getLast? = some '?'
  · use signature.dropLast, true
    intro value
    rw [splitValue_append h, if_pos hlast]
  · use signature, false
    intro value
    rw [splitValue_append h, if_neg hlast]

/-- The value of a text that goes on after a comma is not that of its front. -/
theorem valueRule?_append_ne {isDefault : Bool} {value : List Char} {rule : ValueRule}
    (h : valueRule? (some (isDefault, trim value)) = some rule) (x : List Char) :
  valueRule? (some (isDefault, trim (value ++ ',' :: x))) ≠ some rule
  := by
  intro hlong
  obtain ⟨hne, text, htext, rfl⟩ := valueRule?_eq_some_iff.1 h
  obtain ⟨-, text', htext', heq⟩ := valueRule?_eq_some_iff.1 hlong
  obtain ⟨ys, zs, htrim⟩ := trim_append_comma hne x
  have hsame : text' = text := by
    apply String.ofList_injective
    cases isDefault with
    | false => exact (ValueRule.forced.inj heq).symm
    | true => exact (ValueRule.defaulted.inj heq).symm
  rw [htrim, hsame] at htext'
  exact unquote_append_ne hne htext htext'

/-- A text that goes on after a comma does not declare what its front declares. -/
theorem Declares.not_append (h : Declares cs p) (x : List Char) :
  ¬ Declares (cs ++ ',' :: x) p
  := by
  intro hlong
  by_cases hequals : '=' ∈ cs
  · obtain ⟨signature, value, rfl, hsignature⟩ := List.eq_append_cons_of_mem hequals
    obtain ⟨_, _, hsplit⟩ := exists_splitValue hsignature
    rw [List.append_assoc, List.cons_append, declares_iff_split (hsplit _)] at hlong
    apply valueRule?_append_ne ((declares_iff_split (hsplit _)).1 h).2.2 x hlong.2.2
  · obtain ⟨hwords, -, hrule⟩ := (declares_iff_split (splitValue_of_notMem hequals)).1 h
    by_cases hequals' : '=' ∈ cs ++ ',' :: x
    · obtain ⟨signature, value, heq, hsignature⟩ := List.eq_append_cons_of_mem hequals'
      obtain ⟨_, isDefault, hsplit⟩ := exists_splitValue hsignature
      rw [heq, declares_iff_split (hsplit _), ← hrule, valueRule?, valueRule?_eq_some_iff] at hlong
      obtain ⟨-, -, -, _, -, hplain⟩ := hlong
      cases isDefault <;> cases hplain
    · obtain ⟨hwords', -, -⟩ := (declares_iff_split (splitValue_of_notMem hequals')).1 hlong
      have hflatten := congrArg List.flatten (hwords'.trans hwords.symm)
      rw [flatten_words, flatten_words, List.filter_append, List.append_right_eq_self] at hflatten
      cases hflatten

/-- Two ways to cut a list that declare the same parameters are one. -/
theorem eq_of_forall₂_declares {us ts : List (List Char)} (hus : List.Forall₂ Declares us ps)
    (hts : List.Forall₂ Declares ts ps) (h : [','].intercalate us = [','].intercalate ts) :
  us = ts
  := by
  induction hus generalizing ts with
  | nil => exact (List.forall₂_nil_right_iff.1 hts).symm
  | @cons u p us ps hu hus ih =>
    obtain ⟨t, ts', ht, htail, rfl⟩ := List.forall₂_cons_right_iff.1 hts
    by_cases hnil : us = []
    · obtain rfl : ps = [] := by
        rw [hnil] at hus
        exact List.forall₂_nil_left_iff.1 hus
      obtain rfl := List.forall₂_nil_right_iff.1 htail
      rw [hnil, List.intercalate_singleton, List.intercalate_singleton] at h
      rw [h, hnil]
    · have hnil' : ts' ≠ [] := by
        rintro rfl
        obtain rfl := List.forall₂_nil_left_iff.1 htail
        exact hnil (List.forall₂_nil_right_iff.1 hus)
      rw [List.intercalate_cons_of_ne_nil hnil, List.intercalate_cons_of_ne_nil hnil',
        List.append_assoc, List.append_assoc] at h
      rcases List.append_eq_append_iff.1 h with ⟨vs, rfl, hvs⟩ | ⟨vs, rfl, hvs⟩
      · cases vs with
        | nil => rw [List.append_nil, ih htail (List.cons.inj hvs).2]
        | cons c vs =>
          obtain ⟨rfl, -⟩ := List.cons.inj hvs
          exact absurd ht (hu.not_append vs)
      · cases vs with
        | nil => rw [List.append_nil, ih htail (List.cons.inj hvs).2.symm]
        | cons c vs =>
          obtain ⟨rfl, -⟩ := List.cons.inj hvs
          exact absurd hu (ht.not_append vs)

/-- Written pieces are whole if the written parameters are. -/
theorem whole_writtenPieces_iff {marks : List Char} (hmarks : ' ' ∉ marks) :
  (∀ piece ∈ writtenPieces ps, Quoting.Whole marks piece)
    ↔ ∀ p ∈ ps, Quoting.Whole marks p.written
  := by
  have hspace : Quoting.Whole marks [' '] := by
    apply Quoting.whole_of_notMem (by decide)
    simpa using hmarks
  have hcons : ∀ {cs : List Char}, Quoting.Whole marks (' ' :: cs) ↔ Quoting.Whole marks cs := by
    intro cs
    rw [← List.singleton_append]
    exact ⟨fun h => h.of_append hspace, hspace.append⟩
  cases ps with
  | nil => simp [writtenPieces]
  | cons p ps =>
    rw [writtenPieces, List.forall_mem_cons, List.forall_mem_cons, List.forall_mem_map]
    simp only [hcons]

/-- A written declaration is read back exactly if its parameters can stand in a list. -/
theorem read_written_iff {d : Declaration} (hd : d.Spelled) :
  read d.written = .ok (d.atLine 0)
    ↔ ∀ p ∈ d.params, Quoting.Whole marks p.written
  := by
  have hhandler : d.handler.toList ≠ [] := by simpa using hd.handler_ne_empty
  have hhead : ∀ {tail : List Char}, ∀ c ∈ (d.handler.toList ++ [] ++ '(' :: tail).head?,
      isBlank c = false := by
    intro tail
    rw [List.append_nil]
    apply (word_of_isHandlerChar hhandler hd.handler_chars).1.head
  have hspaced := spaced_writtenModifiers fun m hm => (hd.modifiers m hm).1
  obtain ⟨⟨-, hclose⟩, hmodifiers⟩ := readModifiers_of_spaced hspaced fun m hm =>
    (hd.modifiers m hm).2
  have hdeclares := forall₂_writtenPieces hd.params
  rw [written, read_append_eq_ok_iff blank_nil hd.method_word (by decide) (by decide) hd.path
    (by decide) (by decide) hhead, ends_append_iff hhandler hd.handler_chars blank_nil]
  constructor
  · rintro ⟨-, -, -, -, list, after, heq, hwhole, hparams, hafter⟩
    obtain ⟨⟨-, hclose'⟩, -⟩ := readModifiers_eq_ok_iff.1 hafter
    obtain ⟨rfl, rfl⟩ := append_cons_inj_of_notMem_right hclose hclose' heq
    rcases readParams_eq_ok_iff.1 hparams with ⟨-, hnil⟩ | ⟨pieces, -, hlist, hpieces, hread⟩
    · change d.params = [] at hnil
      rw [hnil]
      simp
    · obtain rfl := eq_of_forall₂_declares hread hdeclares hlist.symm
      have hparens := Quoting.whole_of_intercalate (by decide) hwhole hpieces
      apply (whole_writtenPieces_iff (by decide)).1
      intro piece hpiece
      apply (hpieces piece hpiece).union (hparens piece hpiece)
  · intro h
    have hpieces := (whole_writtenPieces_iff (by decide)).2 h
    refine ⟨?_, ?_, rfl, ?_, _, _, rfl, ?_, ?_, hmodifiers⟩
    · rw [String.ofList_toList]
      exact hd.method
    · rw [String.ofList_toList]
      rfl
    · rw [String.ofList_toList]
      rfl
    · apply Quoting.whole_intercalate (by decide)
      intro piece hpiece
      apply (hpieces piece hpiece).mono (by decide)
    · rw [readParams_eq_ok_iff]
      by_cases hnil : d.params = []
      · left
        rw [hnil]
        exact ⟨blank_nil, hnil⟩
      · right
        refine ⟨_, ?_, rfl, ?_, hdeclares⟩
        · intro hpieces'
          rw [hpieces'] at hdeclares
          exact hnil (List.forall₂_nil_left_iff.1 hdeclares)
        · intro piece hpiece
          apply (hpieces piece hpiece).mono (by decide)

/-- Types without marks and values without backslashes are written so that they can stand in a
list. -/
theorem whole_written (hp : p.Spelled) (htype : p.Separate)
    (hvalue : ∀ text, p.rule.text? = some text → '\\' ∉ text.toList) :
  Quoting.Whole marks p.written
  := by
  have hrule : RuleText ValueLayout p.rule.written p.rule := by
    cases hrule : p.rule with
    | plain => exact .plain
    | defaulted text =>
      rw [hrule] at hvalue
      exact @RuleText.defaulted _ [' '] [' '] _ _ (by decide) (by decide)
        (.quoted (hvalue text rfl))
    | forced text =>
      rw [hrule] at hvalue
      exact @RuleText.forced _ [' '] [' '] _ _ (by decide) (by decide)
        (.quoted (hvalue text rfl))
  have hlayout := @ParamLayout.mk p [] [' '] _ [] blank_nil (by decide) (by decide) hrule blank_nil
  rw [List.append_nil] at hlayout
  apply hlayout.whole hp htype

end Declaration

end HttpDispatch
