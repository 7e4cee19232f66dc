import HttpDispatch.Proofs.Route.Reading

/-!
# Layouts of a declaration

How a declaration may stand on a line: `Declaration.Layout` leaves open the blanks between its
words and around its parentheses, commas and operators, whether a value stands between quotes, and
whether an empty list of parameters is written.  In every layout the line is read as the
declaration, and so it gives the route, or the fault, of the same declaration built step by step.
-/

namespace HttpDispatch

open Text

namespace Declaration

/-! ### Layouts -/

/-- A value in a list: between quotes with its own quotes escaped, or bare. -/
inductive ValueLayout : List Char → String → Prop
  | quoted {text : String} (h : '\\' ∉ text.toList) :
      ValueLayout ('\'' :: Param.escapeQuotes text.toList ++ ['\'']) text
  | bare {text : String} (hne : text ≠ "")
      (h : ∀ c ∈ text.toList, isBlank c = false ∧ c ∉ ['\'', ',', '(', ')']) :
      ValueLayout text.toList text

/-- A parameter in a list. -/
inductive ParamLayout : List Char → ParamDeclaration → Prop
  | mk {p : ParamDeclaration} {b gap rule b' : List Char} (hb : Blank b) (hgap : Blank gap)
      (hne : gap ≠ []) (hrule : RuleText ValueLayout rule p.rule) (hb' : Blank b') :
      ParamLayout (b ++ (p.type.toList ++ gap ++ p.name.toList ++ rule) ++ b') p

/-- The parameters between parentheses. -/
inductive ListLayout : List Char → List ParamDeclaration → Prop
  | blank {b : List Char} (hb : Blank b) : ListLayout b []
  | params {pieces : List (List Char)} {ps : List ParamDeclaration} (hne : pieces ≠ [])
      (hpieces : List.Forall₂ ParamLayout pieces ps) : ListLayout ([','].intercalate pieces) ps

/-- The handler, its parameters and the words after them. -/
inductive TailLayout (d : Declaration) : List Char → Prop
  | listed {b list after : List Char} (hb : Blank b) (hlist : ListLayout list d.params)
      (hafter : Spaced (d.modifiers.map String.toList) after) :
      TailLayout d (d.handler.toList ++ b ++ '(' :: (list ++ ')' :: after))
  /-- Without parameters no parentheses are needed. -/
  | bare {after : List Char} (hparams : d.params = []) (hbreaks : Breaks after)
      (hafter : Spaced (d.modifiers.map String.toList) after) :
      TailLayout d (d.handler.toList ++ after)

/-- A declaration on a line. -/
inductive Layout (d : Declaration) : List Char → Prop
  | mk {b gap gap' tail : List Char} (hb : Blank b) (hgap : Blank gap) (hne : gap ≠ [])
      (hgap' : Blank gap') (hne' : gap' ≠ []) (htail : TailLayout d tail) :
      Layout d (b ++ d.method.token.toList ++ (gap ++ d.path.toList ++ (gap' ++ tail)))

/-! ### Reading a layout -/

theorem ValueLayout.denotes {value : List Char} {text : String} (h : ValueLayout value text) :
  Denotes value text
  := by
  cases h with
  | quoted _ => apply denotes_quoted
  | bare hne h =>
    have hword : Word text.toList := ⟨by simpa using hne, fun c hc => (h c hc).1⟩
    constructor
    · exact hword.ne_nil
    · apply trim_eq_self
      · rw [← List.append_nil text.toList]
        apply hword.head
      · rw [← List.nil_append text.toList]
        apply hword.last
    · rw [unquote_bare_iff]
      · refine ⟨⟨?_, ?_⟩, rfl⟩
        · intro hquote
          simpa using (h _ hquote).2
        · intro hspace
          cases (h _ hspace).1
      · rintro c hc rfl
        simpa using (h _ (List.mem_of_mem_head? hc)).2

theorem ValueLayout.whole {value : List Char} {text : String} (h : ValueLayout value text) :
  Quoting.Whole marks value
  := by
  cases h with
  | quoted h => apply Quoting.whole_quoted (by decide) h
  | bare _ h =>
    apply Quoting.whole_of_notMem
    · intro hquote
      simpa using (h _ hquote).2
    · intro c hc hmark
      apply (h c hc).2 (List.mem_cons_of_mem _ hmark)

theorem ruleText_denotes {rule : List Char} {r : ValueRule} (h : RuleText ValueLayout rule r) :
  RuleText Denotes rule r
  := by
  cases h with
  | plain => exact .plain
  | defaulted hb hb' hvalue => exact .defaulted hb hb' hvalue.denotes
  | forced hb hb' hvalue => exact .forced hb hb' hvalue.denotes

theorem ruleText_whole {rule : List Char} {r : ValueRule} (h : RuleText ValueLayout rule r) :
  Quoting.Whole marks rule
  := by
  cases h with
  | plain => apply Quoting.whole_nil
  | defaulted hb hb' hvalue =>
    have hoperator : Quoting.Whole marks ['?', '='] := by decide
    apply (whole_blank hb).append (hoperator.append ((whole_blank hb').append hvalue.whole))
  | forced hb hb' hvalue =>
    have hoperator : Quoting.Whole marks ['='] := by decide
    apply (whole_blank hb).append (hoperator.append ((whole_blank hb').append hvalue.whole))

end Declaration

/-- No character of the type matters to a list. -/
def ParamDeclaration.Separate (p : ParamDeclaration) : Prop :=
  ∀ c ∈ p.type.toList, c ∉ '\'' :: Declaration.marks

instance (p : ParamDeclaration) : Decidable p.Separate :=
  decidable_of_iff (p.type.toList.all (! ('\'' :: Declaration.marks).contains ·) = true)
    (by simp [ParamDeclaration.Separate])

namespace Declaration

variable {p : ParamDeclaration} {ps : List ParamDeclaration} {cs : List Char}

theorem ParamLayout.declares (h : ParamLayout cs p) (hp : p.Spelled) :
  Declares cs p
  := by
  cases h with
  | mk hb hgap hne hrule hb' =>
    rw [declares_append_iff hb hb']
    apply declares_of_ruleText hp hgap hne (ruleText_denotes hrule)

theorem ParamLayout.whole (h : ParamLayout cs p) (hp : p.Spelled) (htype : p.Separate) :
  Quoting.Whole marks cs
  := by
  cases h with
  | mk hb hgap hne hrule hb' =>
    have hident : isIdentifier (String.ofList p.name.toList) = true := by
      rw [String.ofList_toList]
      exact hp.name
    have htypeWhole : Quoting.Whole marks p.type.toList := by
      apply Quoting.whole_of_notMem
      · intro hquote
        apply htype _ hquote List.mem_cons_self
      · intro c hc hmark
        apply htype c hc (List.mem_cons_of_mem _ hmark)
    have hnameWhole : Quoting.Whole marks p.name.toList := by
      apply Quoting.whole_of_notMem (notMem_of_isIdentifier hident rfl (by decide))
      intro c hc hmark
      simp only [marks, List.mem_cons, List.not_mem_nil, or_false] at hmark
      rcases hmark with rfl | rfl | rfl <;>
        exact notMem_of_isIdentifier hident rfl (by decide) hc
    have hparam := ((htypeWhole.append (whole_blank hgap)).append hnameWhole).append
      (ruleText_whole hrule)
    apply ((whole_blank hb).append hparam).append (whole_blank hb')

theorem forall₂_of_layout {pieces : List (List Char)} (h : List.Forall₂ ParamLayout pieces ps)
    (hps : ∀ p ∈ ps, p.Spelled ∧ p.Separate) :
  List.Forall₂ Declares pieces ps ∧ ∀ piece ∈ pieces, Quoting.Whole marks piece
  := by
  induction h with
  | nil => simp
  | cons hp _ ih =>
    rw [List.forall_mem_cons] at hps
    obtain ⟨hdeclares, hwhole⟩ := ih hps.2
    use .cons (hp.declares hps.1.1) hdeclares
    apply List.forall_mem_cons.2 ⟨hp.whole hps.1.1 hps.1.2, hwhole⟩

/-- A list in any layout is closed behind it and read as its parameters. -/
theorem ListLayout.read (h : ListLayout cs ps) (hps : ∀ p ∈ ps, p.Spelled ∧ p.Separate) :
  Quoting.Whole ['(', ')'] cs ∧ readParams cs = .ok ps
  := by
  have hparens : ['(', ')'] ⊆ marks := by decide
  have hcomma : [','] ⊆ marks := by decide
  cases h with
  | blank hb =>
    use (whole_blank hb).mono hparens
    apply readParams_eq_ok_iff.2 (.inl ⟨hb, rfl⟩)
  | params hne hpieces =>
    obtain ⟨hdeclares, hwhole⟩ := forall₂_of_layout hpieces hps
    constructor
    · apply Quoting.whole_intercalate (by decide)
      intro piece hpiece
      apply (hwhole piece hpiece).mono hparens
    · apply readParams_eq_ok_iff.2 (.inr ⟨_, hne, rfl, ?_, hdeclares⟩)
      intro piece hpiece
      apply (hwhole piece hpiece).mono hcomma

theorem TailLayout.ends {d : Declaration} (hd : d.Spelled)
    (htypes : ∀ p ∈ d.params, p.Separate) (h : TailLayout d cs) :
  Ends cs d
  := by
  have hne : d.handler.toList ≠ [] := by simpa using hd.handler_ne_empty
  have hname := (String.ofList_toList (s := d.handler)).symm
  have hparens : ∀ m ∈ d.modifiers, '(' ∉ m.toList ∧ ')' ∉ m.toList :=
    fun m hm => (hd.modifiers m hm).2
  cases h with
  | listed hb hlist hafter =>
    obtain ⟨hwhole, hread⟩ := hlist.read fun p hp => ⟨hd.params p hp, htypes p hp⟩
    rw [ends_append_iff hne hd.handler_chars hb]
    exact ⟨hname, _, _, rfl, hwhole, hread, (readModifiers_of_spaced hafter hparens).2⟩
  | bare hparams hbreaks hafter =>
    obtain ⟨⟨hopen, -⟩, hread⟩ := readModifiers_of_spaced hafter hparens
    obtain ⟨hword, hparen⟩ := word_of_isHandlerChar hne hd.handler_chars
    have hsplit := splitHandler_of_notMem (mt List.mem_append.1 (not_or.2 ⟨hparen, hopen⟩))
    have hnext := nextWord_append blank_nil hword hbreaks
    rw [List.nil_append] at hnext
    rw [hnext] at hsplit
    refine ⟨_, _, _, hsplit, hne, hd.handler_chars, hname, ?_, hread⟩
    rw [hparams]
    rfl

/-- In every layout a line is read as the declaration that it lays out. -/
theorem Layout.read_eq_ok {d : Declaration} (hd : d.Spelled)
    (htypes : ∀ p ∈ d.params, p.Separate) (h : Layout d cs) :
  Declaration.read cs = .ok (d.atLine 0)
  := by
  cases h with
  | mk hb hgap hne hgap' hne' htail =>
    have hhead : ∀ {tail : List Char}, TailLayout d tail →
        ∀ c ∈ tail.head?, isBlank c = false := by
      intro tail htail
      have hword := (word_of_isHandlerChar (by simpa using hd.handler_ne_empty)
        hd.handler_chars).1
      cases htail with
      | listed =>
        rw [List.append_assoc]
        apply hword.head
      | bare => apply hword.head
    have hends := htail.ends hd htypes
    rw [read_append_eq_ok_iff hb hd.method_word hgap hne hd.path hgap' hne' (hhead htail),
      String.ofList_toList, String.ofList_toList]
    exact ⟨hd.method, rfl, rfl, hends⟩

/-! ### Building step by step -/

/-- The declaration with one more parameter, made by the step for what is said of its value. -/
def declare (d : Declaration) (p : ParamDeclaration) : Declaration :=
  match p.rule with
  | .plain => d.param p.type p.name
  | .defaulted text => d.defaulted p.type p.name text
  | .forced text => d.forced p.type p.name text

theorem declare_eq_withParam (d : Declaration) (p : ParamDeclaration) :
  d.declare p = d.withParam p
  := by
  obtain ⟨type, name, rule⟩ := p
  cases rule <;> rfl

theorem foldl_declare (d : Declaration) (ps : List ParamDeclaration) :
  ps.foldl declare d = { d with params := d.params ++ ps }
  := by
  induction ps generalizing d with
  | nil => simp
  | cons p ps ih =>
    rw [List.foldl_cons, ih, declare_eq_withParam]
    simp [withParam]

theorem foldl_modifier (d : Declaration) (ms : List String) :
  ms.foldl modifier d = { d with modifiers := d.modifiers ++ ms }
  := by
  induction ms generalizing d with
  | nil => simp
  | cons m ms ih =>
    rw [List.foldl_cons, ih]
    simp [modifier]

end Declaration

/-- In every layout a line gives what its declaration, built step by step, gives. -/
theorem RouteTable.readLine_layout (registry : Registry) (base : String) (line : ℕ)
    {d : Declaration} (hd : d.Spelled) (htypes : ∀ p ∈ d.params, p.Separate)
    {cs : List Char} (h : d.Layout cs) :
  readLine registry base line cs
    = (((d.modifiers.foldl Declaration.modifier
          (d.params.foldl Declaration.declare
            (Declaration.new d.method d.path d.handler))).under base).atLine line).build registry
  := by
  rw [readLine, h.read_eq_ok hd htypes, Declaration.foldl_declare, Declaration.foldl_modifier]
  rfl

/-- A declaration with a value that holds all the marks of a list. -/
def Declaration.notes : Declaration where
  method := ⟨"GET"⟩
  path := "/notes"
  handler := "Notes.find"
  params := [⟨"String", "text", .forced "it's (so), = x"⟩, ⟨"Int", "limit", .defaulted "20"⟩]
  modifiers := ["admin"]
  line := 0

theorem Declaration.notes_spelled :
  notes.Spelled
  := by decide +kernel

/-- A line on which it is laid out. -/
def Declaration.notesLine : List Char :=
  "GET\t/notes  Notes.find ( String text= 'it\\'s (so), = x' ,Int limit?=20)admin".toList

theorem Declaration.notes_layout :
  notes.Layout notesLine
  := by
  have hforced : RuleText ValueLayout "= 'it\\'s (so), = x'".toList (.forced "it's (so), = x") :=
    @RuleText.forced _ [] [' '] _ _ (by decide) (by decide)
      (@ValueLayout.quoted "it's (so), = x" (by decide))
  have hdigits : ∀ c ∈ "20".toList, isBlank c = false ∧ c ∉ ['\'', ',', '(', ')'] := by
    change ∀ c ∈ ['2', '0'], _
    rw [List.forall_mem_cons, List.forall_mem_singleton]
    decide
  have hdefaulted : RuleText ValueLayout "?=20".toList (.defaulted "20") :=
    @RuleText.defaulted _ [] [] _ _ (by decide) (by decide)
      (@ValueLayout.bare "20" (by decide) hdigits)
  have htext : ParamLayout " String text= 'it\\'s (so), = x' ".toList
      ⟨"String", "text", .forced "it's (so), = x"⟩ :=
    @ParamLayout.mk ⟨"String", "text", _⟩ [' '] [' '] _ [' '] (by decide) (by decide) (by decide)
      hforced (by decide)
  have hlimit : ParamLayout "Int limit?=20".toList ⟨"Int", "limit", .defaulted "20"⟩ :=
    @ParamLayout.mk ⟨"Int", "limit", _⟩ [] [' '] _ [] (by decide) (by decide) (by decide)
      hdefaulted (by decide)
  have hlist : ListLayout " String text= 'it\\'s (so), = x' ,Int limit?=20".toList
      notes.params :=
    .params (List.cons_ne_nil _ _) (.cons htext (.cons hlimit .nil))
  have hafter : Spaced (notes.modifiers.map String.toList) "admin".toList :=
    @Spaced.word [] _ [] _ blank_nil (by decide) (by intro c hc; cases hc) (.blank blank_nil)
  exact @Layout.mk _ [] ['\t'] [' ', ' '] _ (by decide) (by decide) (by decide) (by decide)
    (by decide) (@TailLayout.listed _ [' '] _ _ (by decide) hlist hafter)

/-- Blanks, quotes and marks in a value do not change what the line gives. -/
theorem RouteTable.readLine_layout_notes :
  readLine .standard "/api" 3 Declaration.notesLine = .ok {
    method := ⟨"GET"⟩
    path := "/api/notes"
    pattern := [.literal "api", .literal "notes"]
    handler := "Notes.find"
    params := [⟨"text", "String", .forced, some ⟨"it's (so), = x", .text "it's (so), = x"⟩⟩,
      ⟨"limit", "Int", .query, some ⟨"20", .int32 20⟩⟩]
    modifiers := ["admin"]
    line := 3 }
  := by
  have htypes : ∀ p ∈ Declaration.notes.params, p.Separate := by decide
  rw [readLine_layout .standard "/api" 3 Declaration.notes_spelled htypes
    Declaration.notes_layout]
  rfl

end HttpDispatch
