import HttpDispatch.Proofs.Route.Quoting
import HttpDispatch.Proofs.Text.Words

/-!
# Reading a declaration

What a line must look like to be read as a declaration.  `Declaration.Declares` says it of the text
of one parameter, `Declaration.Ends` of the text after the path, and `Declaration.Spelled` says what
the words of every declaration that is read have in common.
-/

namespace HttpDispatch

open Fallible Text

/-! ### Characters -/

/-- No character lies in both of two lists of ranges that are apart. -/
theorem Text.inRanges_eq_false {rs ss : List (ℕ × ℕ)}
    (h : ∀ r ∈ rs, ∀ s ∈ ss, r.2 < s.1 ∨ s.2 < r.1) {c : Char} (hc : inRanges rs c = true) :
  inRanges ss c = false
  := by
  obtain ⟨r, hr, hrange⟩ := List.any_eq_true.1 hc
  rw [inRanges, List.any_eq_false]
  intro s hs
  simp only [Bool.and_eq_true, decide_eq_true_eq] at hrange ⊢
  have := h r hr s hs
  omega

theorem Text.isBlank_of_isAlphanum {c : Char} (h : c.isAlphanum = true) :
  isBlank c = false
  := by
  have hupper : c.isUpper = decide (65 ≤ c.toNat ∧ c.toNat ≤ 90) := rfl
  have hlower : c.isLower = (decide (97 ≤ c.toNat) && decide (c.toNat ≤ 122)) := rfl
  have hdigit : c.isDigit = (decide (48 ≤ c.toNat) && decide (c.toNat ≤ 57)) := rfl
  change (c.isUpper || c.isLower || c.isDigit) = true at h
  rw [hupper, hlower, hdigit] at h
  have hranges : inRanges [(65, 90), (97, 122), (48, 57)] c = true := by
    simpa [inRanges, or_assoc] using h
  apply inRanges_eq_false (by decide) hranges

namespace Declaration

theorem isBlank_of_isHandlerChar {c : Char} (h : isHandlerChar c = true) :
  isBlank c = false
  := by
  rw [isHandlerChar, Bool.or_eq_true] at h
  rcases h with h | h
  · apply inRanges_eq_false (by decide +kernel) h
  · simp only [List.contains_iff_mem, List.mem_cons, List.not_mem_nil, or_false] at h
    rcases h with rfl | rfl | rfl | rfl | rfl <;> rfl

end Declaration

/-- An identifier consists of letters, digits and underscores. -/
theorem mem_of_isIdentifier {name : List Char} (h : isIdentifier (String.ofList name) = true) :
  name ≠ [] ∧ ∀ c ∈ name, c.isAlphanum = true ∨ c = '_'
  := by
  rw [isIdentifier, String.toList_ofList] at h
  cases name with
  | nil => cases h
  | cons c cs =>
    simp only [Bool.and_eq_true, Bool.or_eq_true, decide_eq_true_eq, List.all_eq_true] at h
    use List.cons_ne_nil _ _
    rw [List.forall_mem_cons]
    refine ⟨h.1.imp_left ?_, h.2⟩
    intro halpha
    change (c.isAlpha || c.isDigit) = true
    rw [halpha]
    rfl

/-- A character of no identifier. -/
theorem notMem_of_isIdentifier {name : List Char} (h : isIdentifier (String.ofList name) = true)
    {c : Char} (hc : c.isAlphanum = false) (hne : c ≠ '_') :
  c ∉ name
  := by
  intro hmem
  rcases (mem_of_isIdentifier h).2 c hmem with halphanum | rfl
  · rw [hc] at halphanum
    cases halphanum
  · exact hne rfl

theorem word_of_isIdentifier {name : List Char} (h : isIdentifier (String.ofList name) = true) :
  Word name
  := by
  obtain ⟨hne, hchars⟩ := mem_of_isIdentifier h
  use hne
  intro c hc
  rcases hchars c hc with halphanum | rfl
  · apply isBlank_of_isAlphanum halphanum
  · rfl

namespace Declaration

theorem whole_blank {b : List Char} (hb : Blank b) :
  Quoting.Whole marks b
  := by
  apply Quoting.whole_of_notMem (hb.notMem rfl)
  intro c hc hmark
  have hblank := hb c hc
  revert hmark
  simp only [marks, List.mem_cons, List.not_mem_nil, or_false]
  rintro (rfl | rfl | rfl) <;> cases hblank

/-! ### Values -/

theorem unescapeQuotes_cons {c d : Char} (h : ¬ (c = '\\' ∧ d = '\'')) (cs : List Char) :
  unescapeQuotes (c :: d :: cs) = c :: unescapeQuotes (d :: cs)
  := by
  rw [unescapeQuotes, if_neg h]

/-- An escaped text does not begin with a quote. -/
theorem head?_escapeQuotes_ne (cs : List Char) :
  ∀ c ∈ (Param.escapeQuotes cs).head?, c ≠ '\''
  := by
  cases cs with
  | nil =>
    intro c hc
    cases hc
  | cons c cs =>
    rw [Quoting.escapeQuotes_cons]
    split
    · rintro _ ⟨⟩
      decide
    · rename_i hne
      rintro _ ⟨⟩
      exact hne

/-- Escaping is undone. -/
theorem unescapeQuotes_escapeQuotes (cs : List Char) :
  unescapeQuotes (Param.escapeQuotes cs) = cs
  := by
  induction cs with
  | nil => rfl
  | cons c cs ih =>
    rw [Quoting.escapeQuotes_cons]
    split
    · rename_i hc
      change '\'' :: unescapeQuotes (Param.escapeQuotes cs) = _
      rw [ih, hc]
    · have hhead := head?_escapeQuotes_ne cs
      rw [List.singleton_append]
      generalize Param.escapeQuotes cs = escaped at ih hhead
      cases escaped with
      | nil =>
        rw [← ih]
        rfl
      | cons d ds =>
        rw [unescapeQuotes_cons (fun h => hhead d rfl h.2), ih]

/-- What a text that begins with a quote denotes. -/
theorem unquote_quote_iff {cs text : List Char} :
  unquote ('\'' :: cs) = some text ↔ ∃ front, cs = front ++ ['\''] ∧ unescapeQuotes front = text
  := by
  rw [unquote]
  constructor
  · intro h
    split at h
    · rename_i hlast
      obtain ⟨front, rfl⟩ := List.getLast?_eq_some_iff.1 hlast
      rw [List.dropLast_concat] at h
      exact ⟨front, rfl, Option.some.inj h⟩
    · cases h
  · rintro ⟨front, rfl, rfl⟩
    rw [if_pos List.getLast?_concat, List.dropLast_concat]

/-- What a text that does not begin with a quote denotes. -/
theorem unquote_bare_iff {cs text : List Char} (h : ∀ c ∈ cs.head?, c ≠ '\'') :
  unquote cs = some text ↔ ('\'' ∉ cs ∧ ' ' ∉ cs) ∧ cs = text
  := by
  rw [unquote.eq_def]
  split
  · exact absurd rfl (h _ rfl)
  · simp only [List.contains_iff_mem, ← not_or]
    split
    · rename_i hbad
      simp [hbad]
    · rename_i hbad
      simp [hbad]

/-! ### Parameters -/

/-- The text declares the parameter. -/
inductive Declares : List Char → ParamDeclaration → Prop
  | plain {signature type name : List Char} (hsignature : '=' ∉ signature)
      (hwords : words signature = [type, name])
      (hname : isIdentifier (String.ofList name) = true) :
      Declares signature ⟨String.ofList type, String.ofList name, .plain⟩
  | defaulted {signature type name value text : List Char} (hsignature : '=' ∉ signature)
      (hwords : words signature = [type, name])
      (hname : isIdentifier (String.ofList name) = true) (hvalue : trim value ≠ [])
      (htext : unquote (trim value) = some text) :
      Declares (signature ++ '?' :: '=' :: value)
        ⟨String.ofList type, String.ofList name, .defaulted (String.ofList text)⟩
  /-- A `?` before the `=` is no part of a signature. -/
  | forced {signature type name value text : List Char} (hsignature : '=' ∉ signature)
      (hlast : signature.getLast? ≠ some '?') (hwords : words signature = [type, name])
      (hname : isIdentifier (String.ofList name) = true) (hvalue : trim value ≠ [])
      (htext : unquote (trim value) = some text) :
      Declares (signature ++ '=' :: value)
        ⟨String.ofList type, String.ofList name, .forced (String.ofList text)⟩

theorem splitValue_of_notMem {cs : List Char} (h : '=' ∉ cs) :
  splitValue cs = (cs, none)
  := by
  rw [splitValue, span_ne_of_notMem h]

theorem splitValue_append {signature : List Char} (h : '=' ∉ signature) (value : List Char) :
  splitValue (signature ++ '=' :: value)
    = if signature.getLast? = some '?' then (signature.dropLast, some (true, trim value))
      else (signature, some (false, trim value))
  := by
  rw [splitValue, span_ne_append h]

theorem valueRule?_eq_some_iff {isDefault : Bool} {raw : List Char} {rule : ValueRule} :
  valueRule? (some (isDefault, raw)) = some rule ↔ raw ≠ [] ∧ ∃ text, unquote raw = some text
    ∧ rule = if isDefault then .defaulted (String.ofList text) else .forced (String.ofList text)
  := by
  cases raw with
  | nil => simp [valueRule?]
  | cons c cs =>
    simp only [valueRule?, Option.map_eq_some_iff]
    simp [eq_comm]

/-- What a text with the given signature and value declares. -/
theorem readParam_eq_ok_iff_split {cs signature : List Char} {value : Option (Bool × List Char)}
    (h : splitValue cs = (signature, value)) {p : ParamDeclaration} :
  readParam cs = .ok p ↔ ∃ type name rule, words signature = [type, name]
    ∧ isIdentifier (String.ofList name) = true ∧ valueRule? value = some rule
    ∧ p = ⟨String.ofList type, String.ofList name, rule⟩
  := by
  rw [readParam, h]
  constructor
  · intro hread
    dsimp only at hread
    split at hread
    · rename_i type name rule hwords hrule
      split at hread
      · rename_i hname
        exact ⟨type, name, rule, hwords, hname, hrule, (Except.ok.inj hread).symm⟩
      · cases hread
    · cases hread
  · rintro ⟨type, name, rule, hwords, hname, hrule, rfl⟩
    simp only [hwords, hrule, hname]
    rfl

/-- A parameter is read from a text that declares it. -/
theorem readParam_eq_ok_iff {cs : List Char} {p : ParamDeclaration} :
  readParam cs = .ok p ↔ Declares cs p
  := by
  constructor
  · intro hread
    by_cases hequals : '=' ∈ cs
    · obtain ⟨signature, value, rfl, hsignature⟩ := List.eq_append_cons_of_mem hequals
      have hsplit := splitValue_append hsignature value
      split at hsplit
      · rename_i hlast
        obtain ⟨type, name, rule, hwords, hname, hrule, rfl⟩ :=
          (readParam_eq_ok_iff_split hsplit).1 hread
        obtain ⟨hvalue, text, htext, rfl⟩ := valueRule?_eq_some_iff.1 hrule
        obtain ⟨front, rfl⟩ := List.getLast?_eq_some_iff.1 hlast
        rw [List.dropLast_concat] at hwords
        rw [List.append_assoc]
        rw [List.mem_append, not_or] at hsignature
        exact .defaulted hsignature.1 hwords hname hvalue htext
      · rename_i hlast
        obtain ⟨type, name, rule, hwords, hname, hrule, rfl⟩ :=
          (readParam_eq_ok_iff_split hsplit).1 hread
        obtain ⟨hvalue, text, htext, rfl⟩ := valueRule?_eq_some_iff.1 hrule
        exact .forced hsignature hlast hwords hname hvalue htext
    · obtain ⟨type, name, rule, hwords, hname, hrule, rfl⟩ :=
        (readParam_eq_ok_iff_split (splitValue_of_notMem hequals)).1 hread
      obtain rfl := Option.some.inj hrule
      exact .plain hequals hwords hname
  · intro h
    cases h with
    | plain hsignature hwords hname =>
      rw [readParam_eq_ok_iff_split (splitValue_of_notMem hsignature)]
      exact ⟨_, _, _, hwords, hname, rfl, rfl⟩
    | @defaulted signature _ _ value _ hsignature hwords hname hvalue htext =>
      have hsignature' : '=' ∉ signature ++ ['?'] := by simpa using hsignature
      have hsplit := splitValue_append hsignature' value
      rw [List.getLast?_concat, if_pos rfl, List.dropLast_concat, List.append_assoc] at hsplit
      rw [← List.singleton_append, readParam_eq_ok_iff_split hsplit]
      exact ⟨_, _, _, hwords, hname, valueRule?_eq_some_iff.2 ⟨hvalue, _, htext, rfl⟩, rfl⟩
    | @forced signature _ _ value _ hsignature hlast hwords hname hvalue htext =>
      have hsplit := splitValue_append hsignature value
      rw [if_neg hlast] at hsplit
      rw [readParam_eq_ok_iff_split hsplit]
      exact ⟨_, _, _, hwords, hname, valueRule?_eq_some_iff.2 ⟨hvalue, _, htext, rfl⟩, rfl⟩

/-- Blanks around a declaration do not count. -/
theorem declares_append_iff {b b' : List Char} (hb : Blank b) (hb' : Blank b') {cs : List Char}
    {p : ParamDeclaration} :
  Declares (b ++ cs ++ b') p ↔ Declares cs p
  := by
  rw [← readParam_eq_ok_iff, ← readParam_eq_ok_iff]
  by_cases hequals : '=' ∈ cs
  · obtain ⟨signature, value, rfl, hsignature⟩ := List.eq_append_cons_of_mem hequals
    have hsignature' : '=' ∉ b ++ signature := by
      rw [List.mem_append, not_or]
      exact ⟨hb.notMem rfl, hsignature⟩
    have hshape : b ++ (signature ++ '=' :: value) ++ b'
        = b ++ signature ++ '=' :: (value ++ b') := by simp
    have hsplit := splitValue_append hsignature value
    have hsplit' := splitValue_append hsignature' (value ++ b')
    rw [← List.nil_append value, trim_append blank_nil hb', List.nil_append] at hsplit'
    rw [hshape]
    by_cases hlast : signature.getLast? = some '?'
    · obtain ⟨front, rfl⟩ := List.getLast?_eq_some_iff.1 hlast
      rw [if_pos hlast, List.dropLast_concat] at hsplit
      rw [← List.append_assoc, List.getLast?_concat, if_pos rfl, List.dropLast_concat] at hsplit'
      rw [← List.append_assoc, readParam_eq_ok_iff_split hsplit', readParam_eq_ok_iff_split hsplit,
        words_append_of_blank hb]
    · have hlast' : (b ++ signature).getLast? ≠ some '?' := by
        rw [List.getLast?_append]
        cases hsome : signature.getLast? with
        | none =>
          intro hb'
          exact hb.notMem rfl (List.mem_of_getLast? hb')
        | some c =>
          rw [hsome] at hlast
          exact hlast
      rw [if_neg hlast] at hsplit
      rw [if_neg hlast'] at hsplit'
      rw [readParam_eq_ok_iff_split hsplit', readParam_eq_ok_iff_split hsplit,
        words_append_of_blank hb]
  · have hequals' : '=' ∉ b ++ cs ++ b' := by
      rw [List.mem_append, List.mem_append, not_or, not_or]
      exact ⟨⟨hb.notMem rfl, hequals⟩, hb'.notMem rfl⟩
    rw [readParam_eq_ok_iff_split (splitValue_of_notMem hequals'),
      readParam_eq_ok_iff_split (splitValue_of_notMem hequals), words_append_blank hb',
      words_append_of_blank hb]

/-- A text that declares a parameter is not blank. -/
theorem Declares.not_blank {cs : List Char} {p : ParamDeclaration} (h : Declares cs p) :
  ¬ Blank cs
  := by
  intro hblank
  have hnone : ∀ {signature : List Char} {type name : List Char},
      (∀ c ∈ signature, c ∈ cs) → words signature ≠ [type, name] := by
    intro signature type name hmem hwords
    rw [words_blank fun c hc => hblank c (hmem c hc)] at hwords
    cases hwords
  cases h with
  | plain _ hwords => exact hnone (fun c hc => hc) hwords
  | defaulted _ hwords => exact hnone (fun c hc => List.mem_append_left _ hc) hwords
  | forced _ _ hwords => exact hnone (fun c hc => List.mem_append_left _ hc) hwords

theorem splitParams_eq (list : List Char) :
  splitParams list
    = if Blank list then .ok [] else (pieces .outside list).map fun ps => ps.map trim
  := by
  simp only [splitParams, List.isEmpty_iff, trim_eq_nil_iff]

/-- The parameters are read from a blank list or, as it is cut into whole texts, from these. -/
theorem readParams_eq_ok_iff {list : List Char} {ps : List ParamDeclaration} :
  readParams list = .ok ps ↔ (Blank list ∧ ps = []) ∨ ∃ pieces, pieces ≠ []
    ∧ list = [','].intercalate pieces ∧ (∀ p ∈ pieces, Quoting.Whole [','] p)
    ∧ List.Forall₂ Declares pieces ps
  := by
  have htrimmed : ∀ {pieces : List (List Char)},
      (pieces.map trim).mapM readParam = .ok ps ↔ List.Forall₂ Declares pieces ps := by
    intro pieces
    rw [mapM_eq_ok_iff, List.forall₂_map_left_iff]
    apply forall₂_iff_of_mem
    intro piece _ p
    obtain ⟨b, b', hb, hb', hpiece⟩ := exists_trim piece
    rw [readParam_eq_ok_iff]
    conv_rhs => rw [hpiece]
    rw [declares_append_iff hb hb']
  rw [readParams, bind_eq_ok_iff, splitParams_eq]
  by_cases hblank : Blank list
  · rw [if_pos hblank]
    constructor
    · rintro ⟨decls, hdecls, hps⟩
      obtain rfl := Except.ok.inj hdecls
      exact .inl ⟨hblank, (Except.ok.inj hps).symm⟩
    · rintro (⟨-, rfl⟩ | ⟨pieces, hne, rfl, -, hdeclares⟩)
      · exact ⟨[], rfl, rfl⟩
      · obtain ⟨piece, pieces, rfl⟩ := List.exists_cons_of_ne_nil hne
        obtain ⟨p, ps', hp, -, rfl⟩ := List.forall₂_cons_left_iff.1 hdeclares
        exfalso
        apply hp.not_blank
        intro c hc
        apply hblank c (mem_intercalate_of_mem List.mem_cons_self hc)
  · rw [if_neg hblank]
    constructor
    · rintro ⟨decls, hdecls, hps⟩
      obtain ⟨pieces, hpieces, rfl⟩ := map_eq_ok_iff.1 hdecls
      obtain ⟨hne, hlist, hwhole⟩ := pieces_eq_ok_iff.1 hpieces
      exact .inr ⟨pieces, hne, hlist, hwhole, htrimmed.1 hps⟩
    · rintro (⟨hblank', -⟩ | ⟨pieces, hne, hlist, hwhole, hdeclares⟩)
      · exact absurd hblank' hblank
      · rw [pieces_eq_ok_iff.2 ⟨hne, hlist, hwhole⟩]
        exact ⟨_, rfl, htrimmed.2 hdeclares⟩

/-! ### Words after the parameters -/

theorem readModifiers_eq_ok_iff {cs : List Char} {ms : List String} :
  readModifiers cs = .ok ms
    ↔ ('(' ∉ cs ∧ ')' ∉ cs) ∧ (words cs).map String.ofList = ms
  := by
  have hword : ∀ (w : List Char) (m : String),
      (if w.contains '(' ∨ w.contains ')' then .error .unbalancedParens
        else .ok (String.ofList w) : Except RouteFault String) = .ok m
      ↔ ('(' ∉ w ∧ ')' ∉ w) ∧ String.ofList w = m := by
    intro w m
    simp only [List.contains_iff_mem, ← not_or]
    split
    · rename_i hparen
      simp [hparen]
    · rename_i hparen
      simp [hparen]
  rw [readModifiers, mapM_eq_ok_iff]
  simp only [hword]
  rw [List.forall₂_and_left, ← List.forall₂_map_left_iff, List.forall₂_eq_eq_eq,
    mem_iff_of_not_blank rfl, mem_iff_of_not_blank rfl]
  simp only [not_exists, not_and, forall_and]

/-- Words without parentheses are read as they are spaced. -/
theorem readModifiers_of_spaced {cs : List Char} {ms : List String}
    (h : Spaced (ms.map String.toList) cs)
    (hparens : ∀ m ∈ ms, '(' ∉ m.toList ∧ ')' ∉ m.toList) :
  ('(' ∉ cs ∧ ')' ∉ cs) ∧ readModifiers cs = .ok ms
  := by
  have hwords := words_of_spaced h
  have hnone : '(' ∉ cs ∧ ')' ∉ cs := by
    rw [mem_iff_of_not_blank rfl, mem_iff_of_not_blank rfl, hwords]
    simp only [List.mem_map, exists_exists_and_eq_and, not_exists, not_and]
    exact ⟨fun m hm => (hparens m hm).1, fun m hm => (hparens m hm).2⟩
  use hnone
  rw [readModifiers_eq_ok_iff, hwords, List.map_map]
  refine ⟨hnone, ?_⟩
  apply (List.map_congr_left fun m _ => String.ofList_toList).trans (List.map_id ms)

/-! ### Lines -/

/-- The text declares the handler with its parameters and the words after them. -/
def Ends (cs : List Char) (d : Declaration) : Prop :=
  ∃ handler list after, splitHandler cs = .ok (handler, list, after)
    ∧ handler ≠ [] ∧ (∀ c ∈ handler, isHandlerChar c = true) ∧ d.handler = String.ofList handler
    ∧ readParams list = .ok d.params ∧ readModifiers after = .ok d.modifiers

theorem read_eq_ok_iff {cs : List Char} {d : Declaration} :
  read cs = .ok d ↔ ∃ token rest path rest', nextWord cs = (token, rest)
    ∧ Method.ofToken? (String.ofList token) = some d.method ∧ nextWord rest = (path, rest')
    ∧ path ≠ [] ∧ d.path = String.ofList path ∧ d.line = 0 ∧ Ends (trimStart rest') d
  := by
  rcases hfirst : nextWord cs with ⟨token, rest⟩
  rcases hsecond : nextWord rest with ⟨path, rest'⟩
  rw [read, hfirst]
  dsimp only
  constructor
  · intro h
    split at h
    · cases h
    split at h
    · rename_i method hmethod
      rw [hsecond] at h
      dsimp only at h
      split at h
      · cases h
      rename_i hpath
      split at h
      · cases h
      obtain ⟨⟨handler, list, after⟩, hsplit, h⟩ := bind_eq_ok_iff.1 h
      dsimp only at h
      split at h
      · cases h
      rename_i hne
      split at h
      · cases h
      rename_i hall
      obtain ⟨params, hparams, h⟩ := bind_eq_ok_iff.1 h
      obtain ⟨modifiers, hmodifiers, h⟩ := bind_eq_ok_iff.1 h
      obtain rfl := Except.ok.inj h
      refine ⟨token, rest, path, rest', rfl, hmethod, hsecond, ?_, rfl, rfl, handler, list, after,
        hsplit, ?_, ?_, rfl, hparams, hmodifiers⟩
      · simpa using hpath
      · simpa using hne
      · simpa using hall
    · cases h
  · rintro ⟨_, _, _, _, htoken, hmethod, hword, hpath, hdpath, hline, handler, list, after, hsplit,
      hne, hall, hhandler, hparams, hmodifiers⟩
    obtain ⟨rfl, rfl⟩ := Prod.mk.inj htoken
    obtain ⟨rfl, rfl⟩ := Prod.mk.inj (hsecond.symm.trans hword)
    obtain ⟨method, _, _, params, modifiers, _⟩ := d
    obtain rfl := hdpath
    obtain rfl := hhandler
    obtain rfl := hline
    have htoken : token ≠ [] := by
      rintro rfl
      cases hmethod
    have hrest : trimStart rest' ≠ [] := by
      intro hnil
      rw [hnil] at hsplit
      obtain ⟨rfl, -⟩ := Prod.mk.inj (Except.ok.inj hsplit)
      exact hne rfl
    rw [if_neg (by simpa using htoken)]
    simp only [hmethod, hsecond]
    rw [if_neg (by simpa using hpath), if_neg (by simpa using hrest), bind_eq_ok_iff]
    use (handler, list, after), hsplit
    dsimp only
    rw [if_neg (by simpa using hne), if_neg (by simpa using hall), bind_eq_ok_iff]
    use params, hparams
    rw [bind_eq_ok_iff]
    use modifiers, hmodifiers
    rfl

/-- What is read from a line whose first words are known. -/
theorem read_append_eq_ok_iff {b token gap path gap' rest : List Char} (hb : Blank b)
    (htoken : Word token) (hgap : Blank gap) (hne : gap ≠ []) (hpath : Word path)
    (hgap' : Blank gap') (hne' : gap' ≠ []) (hrest : ∀ c ∈ rest.head?, isBlank c = false)
    {d : Declaration} :
  read (b ++ token ++ (gap ++ path ++ (gap' ++ rest))) = .ok d
    ↔ Method.ofToken? (String.ofList token) = some d.method ∧ d.path = String.ofList path
      ∧ d.line = 0 ∧ Ends rest d
  := by
  have hbreaks : Breaks (gap ++ path ++ (gap' ++ rest)) := by
    rw [List.append_assoc]
    apply hgap.breaks hne
  have hfirst := nextWord_append hb htoken hbreaks
  have hsecond := nextWord_append hgap hpath (hgap'.breaks hne' rest)
  have hstart : trimStart (gap' ++ rest) = rest := by
    rw [trimStart_append hgap', trimStart_eq_self hrest]
  rw [read_eq_ok_iff, hfirst]
  constructor
  · rintro ⟨_, _, _, _, heq, hmethod, heq', -, hdpath, hline, hends⟩
    obtain ⟨rfl, rfl⟩ := Prod.mk.inj heq
    obtain ⟨rfl, rfl⟩ := Prod.mk.inj (hsecond.symm.trans heq')
    rw [hstart] at hends
    exact ⟨hmethod, hdpath, hline, hends⟩
  · rintro ⟨hmethod, hdpath, hline, hends⟩
    rw [← hstart] at hends
    exact ⟨_, _, _, _, rfl, hmethod, hsecond, hpath.ne_nil, hdpath, hline, hends⟩

theorem splitHandler_append {before : List Char} (h : '(' ∉ before) (rest : List Char) :
  splitHandler (before ++ '(' :: rest)
    = (closeList .outside rest).map fun r => (trim before, r.1, r.2)
  := by
  rw [splitHandler, span_ne_append h]

theorem splitHandler_of_notMem {cs : List Char} (h : '(' ∉ cs) :
  splitHandler cs = .ok ((nextWord cs).1, [], (nextWord cs).2)
  := by
  rw [splitHandler, span_ne_of_notMem h]

/-- The name of a handler is a word without parentheses. -/
theorem word_of_isHandlerChar {handler : List Char} (hne : handler ≠ [])
    (h : ∀ c ∈ handler, isHandlerChar c = true) :
  Word handler ∧ '(' ∉ handler
  := by
  refine ⟨⟨hne, fun c hc => isBlank_of_isHandlerChar (h c hc)⟩, ?_⟩
  intro hmem
  have hparen := h _ hmem
  revert hparen
  decide +kernel

/-- What a handler with a list of parameters declares. -/
theorem ends_append_iff {handler b rest : List Char} (hne : handler ≠ [])
    (hhandler : ∀ c ∈ handler, isHandlerChar c = true) (hb : Blank b) {d : Declaration} :
  Ends (handler ++ b ++ '(' :: rest) d ↔ d.handler = String.ofList handler ∧ ∃ list after,
    rest = list ++ ')' :: after ∧ Quoting.Whole ['(', ')'] list
      ∧ readParams list = .ok d.params ∧ readModifiers after = .ok d.modifiers
  := by
  obtain ⟨hword, hparen⟩ := word_of_isHandlerChar hne hhandler
  have hparen' : '(' ∉ handler ++ b := by
    rw [List.mem_append, not_or]
    exact ⟨hparen, hb.notMem rfl⟩
  have htrim : trim (handler ++ b) = handler := by
    rw [← List.nil_append handler, trim_append blank_nil hb]
    apply trim_eq_self
    · rw [← List.append_nil handler]
      apply hword.head
    · rw [← List.nil_append handler]
      apply hword.last
  rw [Ends, splitHandler_append hparen', htrim]
  constructor
  · rintro ⟨_, _, _, hsplit, -, -, hname, hparams, hmodifiers⟩
    obtain ⟨⟨list, after⟩, hclose, heq⟩ := map_eq_ok_iff.1 hsplit
    cases heq
    obtain ⟨hrest, hwhole⟩ := closeList_eq_ok_iff.1 hclose
    exact ⟨hname, list, after, hrest, hwhole, hparams, hmodifiers⟩
  · rintro ⟨hname, list, after, hrest, hwhole, hparams, hmodifiers⟩
    rw [closeList_eq_ok_iff.2 ⟨hrest, hwhole⟩]
    exact ⟨handler, list, after, rfl, hne, hhandler, hname, hparams, hmodifiers⟩

end Declaration

/-! ### What is read -/

/-- The words of a parameter that a line can declare. -/
structure ParamDeclaration.Spelled (p : ParamDeclaration) : Prop where
  type : Word p.type.toList
  equals_notMem : '=' ∉ p.type.toList
  name : isIdentifier p.name = true

instance (p : ParamDeclaration) : Decidable p.Spelled :=
  decidable_of_iff (Word p.type.toList ∧ '=' ∉ p.type.toList ∧ isIdentifier p.name = true)
    ⟨fun h => ⟨h.1, h.2.1, h.2.2⟩, fun h => ⟨h.type, h.equals_notMem, h.name⟩⟩

/-- The words of a declaration that can stand on a line. -/
structure Declaration.Spelled (d : Declaration) : Prop where
  method_ne_empty : d.method.token ≠ ""
  method_upper : ∀ c ∈ d.method.token.toList, c.isUpper = true
  path : Word d.path.toList
  handler_ne_empty : d.handler ≠ ""
  handler_chars : ∀ c ∈ d.handler.toList, isHandlerChar c = true
  params : ∀ p ∈ d.params, p.Spelled
  modifiers : ∀ m ∈ d.modifiers, Word m.toList ∧ '(' ∉ m.toList ∧ ')' ∉ m.toList

instance (d : Declaration) : Decidable d.Spelled :=
  decidable_of_iff (d.method.token ≠ "" ∧ d.method.token.toList.all Char.isUpper = true
    ∧ Word d.path.toList ∧ d.handler ≠ ""
    ∧ d.handler.toList.all Declaration.isHandlerChar = true ∧ (∀ p ∈ d.params, p.Spelled)
    ∧ ∀ m ∈ d.modifiers, Word m.toList ∧ '(' ∉ m.toList ∧ ')' ∉ m.toList)
    ⟨fun ⟨h₁, h₂, h₃, h₄, h₅, h₆, h₇⟩ =>
      ⟨h₁, List.all_eq_true.1 h₂, h₃, h₄, List.all_eq_true.1 h₅, h₆, h₇⟩,
      fun h => ⟨h.method_ne_empty, List.all_eq_true.2 h.method_upper, h.path, h.handler_ne_empty,
        List.all_eq_true.2 h.handler_chars, h.params, h.modifiers⟩⟩

namespace Declaration

theorem Declares.spelled {cs : List Char} {p : ParamDeclaration} (h : Declares cs p) :
  p.Spelled
  := by
  have hspelled : ∀ {signature type name : List Char} (rule : ValueRule), '=' ∉ signature →
      words signature = [type, name] → isIdentifier (String.ofList name) = true →
      ParamDeclaration.Spelled ⟨String.ofList type, String.ofList name, rule⟩ := by
    intro signature type name rule hsignature hwords hname
    have htype : type ∈ words signature := by
      rw [hwords]
      apply List.mem_cons_self
    constructor
    · rw [String.toList_ofList]
      apply word_of_mem_words htype
    · rw [String.toList_ofList]
      intro hequals
      apply hsignature (mem_of_mem_words htype hequals)
    · exact hname
  cases h with
  | plain hsignature hwords hname => exact hspelled _ hsignature hwords hname
  | defaulted hsignature hwords hname => exact hspelled _ hsignature hwords hname
  | forced hsignature _ hwords hname => exact hspelled _ hsignature hwords hname

theorem spelled_of_read {cs : List Char} {d : Declaration} (h : read cs = .ok d) :
  d.Spelled
  := by
  obtain ⟨token, rest, path, rest', -, hmethod, hsecond, hpath, hdpath, -, handler, list, after, -,
    hne, hall, hhandler, hparams, hmodifiers⟩ := read_eq_ok_iff.1 h
  rw [Method.ofToken?] at hmethod
  split at hmethod
  · rename_i htoken
    obtain hmethod := Option.some.inj hmethod
    rw [List.all_eq_true] at htoken
    obtain ⟨⟨hopen, hclose⟩, hwords⟩ := readModifiers_eq_ok_iff.1 hmodifiers
    constructor
    · rw [← hmethod]
      exact htoken.1
    · rw [← hmethod]
      exact htoken.2
    · rw [hdpath, String.toList_ofList]
      apply word_of_nextWord hsecond hpath
    · rw [hhandler]
      simpa using hne
    · rw [hhandler, String.toList_ofList]
      exact hall
    · intro p hp
      rcases readParams_eq_ok_iff.1 hparams with ⟨-, hnil⟩ | ⟨pieces, -, -, -, hdeclares⟩
      · rw [hnil] at hp
        cases hp
      · obtain ⟨piece, -, hpiece⟩ := exists_mem_of_forall₂ hdeclares hp
        exact hpiece.spelled
    · intro m hm
      rw [← hwords] at hm
      obtain ⟨word, hword, rfl⟩ := List.mem_map.1 hm
      rw [String.toList_ofList]
      exact ⟨word_of_mem_words hword, fun hmem => hopen (mem_of_mem_words hword hmem),
        fun hmem => hclose (mem_of_mem_words hword hmem)⟩
  · cases hmethod

theorem Spelled.method {d : Declaration} (h : d.Spelled) :
  Method.ofToken? d.method.token = some d.method
  := by
  rw [Method.ofToken?, if_pos]
  use h.method_ne_empty
  rw [List.all_eq_true]
  exact h.method_upper

theorem Spelled.method_word {d : Declaration} (h : d.Spelled) :
  Word d.method.token.toList
  := by
  constructor
  · simpa using h.method_ne_empty
  · intro c hc
    apply isBlank_of_isAlphanum
    change (c.isUpper || c.isLower || c.isDigit) = true
    rw [h.method_upper c hc]
    rfl

/-! ### Written parameters -/

/-- The text has no blanks at its ends and denotes the value. -/
structure Denotes (cs : List Char) (text : String) : Prop where
  ne_nil : cs ≠ []
  trimmed : trim cs = cs
  denoted : unquote cs = some text.toList

/-- What is written after the name of a parameter; values are written as `V` says. -/
inductive RuleText (V : List Char → String → Prop) : List Char → ValueRule → Prop
  | plain : RuleText V [] .plain
  | defaulted {b b' value : List Char} {text : String} (hb : Blank b) (hb' : Blank b')
      (hvalue : V value text) : RuleText V (b ++ '?' :: '=' :: (b' ++ value)) (.defaulted text)
  | forced {b b' value : List Char} {text : String} (hb : Blank b) (hb' : Blank b')
      (hvalue : V value text) : RuleText V (b ++ '=' :: (b' ++ value)) (.forced text)

theorem Denotes.trim_append {b value : List Char} {text : String} (h : Denotes value text)
    (hb : Blank b) :
  trim (b ++ value) = value
  := by
  rw [← List.append_nil (b ++ value), Text.trim_append hb blank_nil, h.trimmed]

/-- A parameter is declared by its type, its name and what is written after them. -/
theorem declares_of_ruleText {p : ParamDeclaration} (hp : p.Spelled) {gap rule : List Char}
    (hgap : Blank gap) (hne : gap ≠ []) (hrule : RuleText Denotes rule p.rule) :
  Declares (p.type.toList ++ gap ++ p.name.toList ++ rule) p
  := by
  obtain ⟨type, name, valueRule⟩ := p
  have hident : isIdentifier (String.ofList name.toList) = true := by
    rw [String.ofList_toList]
    exact hp.name
  have hname := word_of_isIdentifier hident
  have hequals : ∀ {b : List Char}, Blank b → '=' ∉ type.toList ++ gap ++ name.toList ++ b := by
    intro b hb
    simp only [List.mem_append, not_or]
    exact ⟨⟨⟨hp.equals_notMem, hgap.notMem rfl⟩, notMem_of_isIdentifier hident rfl (by decide)⟩,
      hb.notMem rfl⟩
  have hwords : ∀ {b : List Char}, Blank b →
      words (type.toList ++ gap ++ name.toList ++ b) = [type.toList, name.toList] := by
    intro b hb
    rw [words_append_blank hb, List.append_assoc,
      words_word_append hp.type (hgap.breaks hne name.toList), words_append_of_blank hgap,
      words_word hname]
  cases hrule with
  | plain =>
    have hplain := Declares.plain (hequals blank_nil) (hwords blank_nil) hident
    rw [String.ofList_toList, String.ofList_toList] at hplain
    exact hplain
  | @defaulted b b' value text hb hb' hvalue =>
    have htrim := hvalue.trim_append hb'
    have hdefaulted := Declares.defaulted (hequals hb) (hwords hb) hident
      (htrim.symm ▸ hvalue.ne_nil) (htrim.symm ▸ hvalue.denoted)
    rw [String.ofList_toList, String.ofList_toList, String.ofList_toList] at hdefaulted
    rw [← List.append_assoc]
    exact hdefaulted
  | @forced b b' value text hb hb' hvalue =>
    have htrim := hvalue.trim_append hb'
    have hlast : (type.toList ++ gap ++ name.toList ++ b).getLast? ≠ some '?' := by
      rw [List.append_assoc, List.getLast?_append_of_ne_nil _ (by simp [hname.ne_nil])]
      intro hmark
      rcases List.mem_append.1 (List.mem_of_getLast? hmark) with hmem | hmem
      · exact notMem_of_isIdentifier hident rfl (by decide) hmem
      · exact hb.notMem rfl hmem
    have hforced := Declares.forced (hequals hb) hlast (hwords hb) hident
      (htrim.symm ▸ hvalue.ne_nil) (htrim.symm ▸ hvalue.denoted)
    rw [String.ofList_toList, String.ofList_toList, String.ofList_toList] at hforced
    rw [← List.append_assoc]
    exact hforced

/-- A text between quotes with its own quotes escaped denotes itself. -/
theorem denotes_quoted (text : String) :
  Denotes ('\'' :: Param.escapeQuotes text.toList ++ ['\'']) text
  := by
  constructor
  · apply List.cons_ne_nil
  · apply trim_eq_self
    · intro c hc
      obtain rfl := Option.some.inj hc
      rfl
    · intro c hc
      rw [List.getLast?_concat] at hc
      obtain rfl := Option.some.inj hc
      rfl
  · apply unquote_quote_iff.2 ⟨_, rfl, unescapeQuotes_escapeQuotes _⟩

end Declaration

/-- A line declares the route that its declaration denotes under the base path. -/
theorem RouteTable.readLine_eq_ok_iff {registry : Registry} {base : String} {n : ℕ} {cs : List Char}
    {r : Route} :
  readLine registry base n cs = .ok r
    ↔ ∃ d, Declaration.read cs = .ok d ∧ ((d.under base).atLine n).build registry = .ok r
  := by
  rw [readLine]
  split
  · rename_i hread
    simp [hread]
  · rename_i d hread
    simp [hread]

/-- Every route of a table is declared by a line of it. -/
theorem RouteTable.exists_line_of_readLines {registry : Registry} {base : String} {n : ℕ}
    {lines : List (List Char)} {routes : List Route}
    (h : readLines registry base n lines = .ok routes) {r : Route} (hr : r ∈ routes) :
  ∃ m, ∃ line ∈ lines, readLine registry base m (trim line) = .ok r
  := by
  induction lines generalizing n routes with
  | nil =>
    obtain rfl := Except.ok.inj h
    cases hr
  | cons line lines ih =>
    rw [readLines] at h
    split at h
    · obtain ⟨m, line', hmem, hline⟩ := ih h hr
      use m, line', List.mem_cons_of_mem _ hmem
    · split at h
      · cases h
      · rename_i hread
        obtain ⟨rest, hrest, rfl⟩ := map_eq_ok_iff.1 h
        rcases List.mem_cons.1 hr with rfl | hr
        · use n, line, List.mem_cons_self
        · obtain ⟨m, line', hmem, hline⟩ := ih hrest hr
          use m, line', List.mem_cons_of_mem _ hmem

end HttpDispatch
