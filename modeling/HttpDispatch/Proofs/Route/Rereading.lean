import HttpDispatch.Proofs.Route.Validation
import HttpDispatch.Proofs.Route.Written

/-!
# Reading back a table

A route is written as the declaration that it was built from, on one line, and routes that are the
same were built from one declaration.  So a written table is read back exactly if the written
parameters are whole.
-/

namespace HttpDispatch

open Fallible Text

/-! ### Written routes -/

theorem ValueRule.eq_of_source {rule rule' : ValueRule} {captured captured' : Bool}
    (hsource : rule.source captured = rule'.source captured')
    (htext : rule.text? = rule'.text?) :
  rule = rule'
  := by
  cases rule <;> cases rule' <;> cases captured <;> cases captured' <;>
    simp_all [source, text?]

namespace ParamDeclaration

variable {registry : Registry} {captures captures' : List String} {d d' : ParamDeclaration}
  {p p' : Param}

/-- A built parameter is written as its declaration. -/
theorem toList_text (h : d.build registry captures = .ok p) :
  p.text.toList = d.written
  := by
  obtain ⟨hname, htype, hsource, hdeclared⟩ := of_build h
  have hraw := raw_of_declared hdeclared
  rw [Param.text, hname, htype, hsource, written]
  cases hrule : d.rule with
  | plain =>
    rw [hrule] at hraw
    rw [Option.map_eq_none_iff.1 hraw]
    simp [ValueRule.written]
  | defaulted text =>
    rw [hrule] at hraw
    obtain ⟨v, hv, rfl⟩ := Option.map_eq_some_iff.1 hraw
    have hsource : (ValueRule.defaulted v.raw).source (captures.contains d.name) ≠ .forced := by
      cases captures.contains d.name with
      | false => exact ParamSource.noConfusion
      | true => exact ParamSource.noConfusion
    rw [hv, if_neg hsource]
    simp [Param.quotedValue, ValueRule.written]
  | forced text =>
    rw [hrule] at hraw
    obtain ⟨v, hv, rfl⟩ := Option.map_eq_some_iff.1 hraw
    have hsource : (ValueRule.forced v.raw).source (captures.contains d.name) = .forced := rfl
    rw [hv, if_pos hsource]
    simp [Param.quotedValue, ValueRule.written]

/-- Parameters that are declared alike have one declaration. -/
theorem eq_of_same (h : d.build registry captures = .ok p)
    (h' : d'.build registry captures' = .ok p') (hsame : p.same p' = true) :
  d = d'
  := by
  obtain ⟨hname, htype, hsource, hdeclared⟩ := of_build h
  obtain ⟨hname', htype', hsource', hdeclared'⟩ := of_build h'
  simp only [Param.same, Bool.and_eq_true, beq_iff_eq, raw_of_declared hdeclared,
    raw_of_declared hdeclared', hname, hname', htype, htype', hsource, hsource'] at hsame
  obtain ⟨⟨⟨hname, htype⟩, hsource⟩, htext⟩ := hsame
  have hrule := ValueRule.eq_of_source hsource htext
  obtain ⟨_, _, _⟩ := d
  obtain ⟨_, _, _⟩ := d'
  obtain rfl := hname
  obtain rfl := htype
  obtain rfl := hrule
  rfl

end ParamDeclaration

namespace Declaration

/-- A comma and a blank join the written parameters as a comma joins the pieces. -/
theorem intercalate_writtenPieces (ps : List ParamDeclaration) :
  [',', ' '].intercalate (ps.map ParamDeclaration.written)
    = [','].intercalate (writtenPieces ps)
  := by
  cases ps with
  | nil => rfl
  | cons p ps =>
    have hcons : ∀ (xs : List Char) (xss : List (List Char)),
        [','].intercalate ((' ' :: xs) :: xss) = ' ' :: [','].intercalate (xs :: xss) := by
      intro xs xss
      cases xss <;> rfl
    rw [writtenPieces, List.map_cons]
    generalize p.written = cs
    induction ps generalizing cs with
    | nil => rfl
    | cons p ps ih =>
      rw [List.map_cons, List.map_cons, List.intercalate_cons_cons, List.intercalate_cons_cons,
        ih, hcons]
      simp

end Declaration

namespace Route

variable {registry : Registry} {r r' : Route} {d : Declaration}

theorem map_written_of_build (h : d.build registry = .ok r) :
  r.params.map (·.text.toList) = d.params.map ParamDeclaration.written
  := by
  obtain ⟨-, hparams, -⟩ := Declaration.of_build h
  apply map_eq_map_of_forall₂ (Declaration.of_buildParams hparams).1
  intro q p hq
  apply ParamDeclaration.toList_text hq

/-- A built route is written as its declaration. -/
theorem toList_text (h : d.build registry = .ok r) :
  r.text.toList = d.written
  := by
  have hparams := map_written_of_build h
  obtain ⟨pattern, params, -, -, -, rfl⟩ := Declaration.build_eq_ok_iff.1 h
  rw [Declaration.written, ← Declaration.intercalate_writtenPieces, ← hparams,
    Declaration.writtenModifiers]
  simp [Route.text, String.toList_join, List.flatMap_map, Function.comp_def]

/-- Whether lists are alike element by element. -/
theorem sameAll_iff {α : Type} {same : α → α → Bool} {as bs : List α} :
  sameAll same as bs = true ↔ List.Forall₂ (fun a b => same a b = true) as bs
  := by
  induction as generalizing bs with
  | nil => cases bs <;> simp [sameAll]
  | cons a as ih => cases bs <;> simp [sameAll, ih]

/-- Parameters that are declared alike one by one have the same declarations. -/
theorem eq_of_sameAll {captures captures' : List String} {ds ds' : List ParamDeclaration}
    {ps ps' : List Param}
    (h : List.Forall₂ (fun d p => d.build registry captures = .ok p) ds ps)
    (h' : List.Forall₂ (fun d p => d.build registry captures' = .ok p) ds' ps')
    (hsame : List.Forall₂ (fun p p' => p.same p' = true) ps ps') :
  ds = ds'
  := by
  induction h generalizing ds' ps' with
  | nil =>
    cases hsame
    cases h'
    rfl
  | cons hd _ ih =>
    cases hsame with
    | cons hp hps =>
      cases h' with
      | cons hd' hds' => rw [ParamDeclaration.eq_of_same hd hd' hp, ih hds' hps]

/-- Routes that are the same but for their lines have one declaration, but for its line. -/
theorem eq_of_same {d' : Declaration} (h : d.build registry = .ok r)
    (h' : d'.build registry = .ok r') (hsame : r.same r' = true) :
  d.atLine 0 = d'.atLine 0
  := by
  obtain ⟨pattern, params, -, hparams, -, rfl⟩ := Declaration.build_eq_ok_iff.1 h
  obtain ⟨pattern', params', -, hparams', -, rfl⟩ := Declaration.build_eq_ok_iff.1 h'
  simp only [same, Bool.and_eq_true, beq_iff_eq, sameAll_iff] at hsame
  obtain ⟨⟨⟨⟨⟨hmethod, hpath⟩, -⟩, hhandler⟩, hall⟩, hmodifiers⟩ := hsame
  have hdeclarations := eq_of_sameAll (Declaration.of_buildParams hparams).1
    (Declaration.of_buildParams hparams').1 hall
  rw [Declaration.atLine, Declaration.atLine, hmethod, hpath, hhandler, hdeclarations, hmodifiers]

/-- A route is the same on another line. -/
theorem same_line (r : Route) (line : ℕ) :
  r.same { r with line } = true
  := by
  have hparams : sameAll Param.same r.params r.params = true := by
    rw [sameAll_iff, List.forall₂_same]
    intro p _
    simp [Param.same]
  simp [same, hparams]

end Route

/-! ### Lines -/

namespace Declaration

variable {cs : List Char} {d : Declaration}

theorem mem_of_mem_unescapeQuotes {c : Char} (h : c ∈ unescapeQuotes cs) :
  c ∈ cs
  := by
  fun_induction unescapeQuotes cs with
  | case1 => exact h
  | case2 d => exact h
  | case3 d e cs hpair ih =>
    rcases List.mem_cons.1 h with rfl | h
    · simp [hpair.2]
    · simp [ih h]
  | case4 d e cs _ ih =>
    rcases List.mem_cons.1 h with rfl | h
    · exact List.mem_cons_self
    · exact List.mem_cons_of_mem _ (ih h)

/-- What a text denotes is in it. -/
theorem mem_of_unquote {text : List Char} (h : unquote cs = some text) {c : Char}
    (hc : c ∈ text) :
  c ∈ cs
  := by
  by_cases hquote : ∀ c ∈ cs.head?, c ≠ '\''
  · rw [((unquote_bare_iff hquote).1 h).2]
    exact hc
  · cases cs with
    | nil => simp at hquote
    | cons d cs =>
      obtain rfl : d = '\'' := by simpa using hquote
      obtain ⟨front, rfl, rfl⟩ := unquote_quote_iff.1 h
      simp [mem_of_mem_unescapeQuotes hc]

/-- The value of a parameter is in the text that declares it. -/
theorem Declares.mem_of_text {p : ParamDeclaration} (h : Declares cs p) {text : String}
    (htext : p.rule.text? = some text) {c : Char} (hc : c ∈ text.toList) :
  c ∈ cs
  := by
  cases h with
  | plain => cases htext
  | defaulted _ _ _ _ hvalue =>
    obtain rfl := Option.some.inj htext
    rw [String.toList_ofList] at hc
    simp [mem_of_mem_trim (mem_of_unquote hvalue hc)]
  | forced _ _ _ _ _ hvalue =>
    obtain rfl := Option.some.inj htext
    rw [String.toList_ofList] at hc
    simp [mem_of_mem_trim (mem_of_unquote hvalue hc)]

theorem mem_of_mem_escapeQuotes {c : Char} (h : c ∈ Param.escapeQuotes cs) :
  c = '\\' ∨ c ∈ cs
  := by
  obtain ⟨d, hd, hc⟩ := List.mem_flatMap.1 h
  split at hc
  · rename_i hquote
    simp only [List.mem_cons, List.not_mem_nil, or_false] at hc
    rcases hc with rfl | rfl
    · exact .inl rfl
    · exact .inr (hquote ▸ hd)
  · obtain rfl := List.mem_singleton.1 hc
    exact .inr hd

/-- The list of parameters is in the text from which it is read. -/
theorem mem_of_splitHandler {handler list after : List Char}
    (h : splitHandler cs = .ok (handler, list, after)) {c : Char} (hc : c ∈ list) :
  c ∈ cs
  := by
  by_cases hopen : '(' ∈ cs
  · obtain ⟨before, rest, rfl, hbefore⟩ := List.eq_append_cons_of_mem hopen
    rw [splitHandler_append hbefore] at h
    obtain ⟨⟨list', after'⟩, hclose, heq⟩ := map_eq_ok_iff.1 h
    cases heq
    rw [(closeList_eq_ok_iff.1 hclose).1]
    simp [hc]
  · rw [splitHandler_of_notMem hopen] at h
    cases h
    cases hc

/-- The values of a declaration are in the text from which it is read. -/
theorem mem_of_read (h : read cs = .ok d) {p : ParamDeclaration} (hp : p ∈ d.params)
    {text : String} (htext : p.rule.text? = some text) {c : Char} (hc : c ∈ text.toList) :
  c ∈ cs
  := by
  obtain ⟨token, rest, path, rest', hfirst, -, hsecond, -, -, -, handler, list, after, hsplit, -, -,
    -, hparams, -⟩ := read_eq_ok_iff.1 h
  rcases readParams_eq_ok_iff.1 hparams with ⟨-, hnil⟩ | ⟨pieces, -, hlist, -, hdeclares⟩
  · rw [hnil] at hp
    cases hp
  · obtain ⟨piece, hpiece, hdeclares⟩ := exists_mem_of_forall₂ hdeclares hp
    have hmem : c ∈ list := by
      rw [hlist]
      apply mem_intercalate_of_mem hpiece (hdeclares.mem_of_text htext hc)
    have hrest := (List.dropWhile_suffix _).mem (mem_of_splitHandler hsplit hmem)
    apply (suffix_of_nextWord hfirst).mem ((suffix_of_nextWord hsecond).mem hrest)

theorem newline_notMem_of_word {w : List Char} (hw : Word w) :
  '\n' ∉ w
  := by
  intro hmem
  cases hw.solid _ hmem

/-- A parameter whose value is on one line is written on one line. -/
theorem newline_notMem_writtenParam {p : ParamDeclaration} (hp : p.Spelled)
    (hvalue : ∀ text, p.rule.text? = some text → '\n' ∉ text.toList) :
  '\n' ∉ p.written
  := by
  have hescaped : ∀ text, p.rule.text? = some text →
      '\n' ∉ Param.escapeQuotes text.toList := by
    intro text htext hmem
    rcases mem_of_mem_escapeQuotes hmem with hback | hmem
    · cases hback
    · exact hvalue text htext hmem
  have hrule : '\n' ∉ p.rule.written := by
    cases hrule : p.rule with
    | plain => simp [ValueRule.written]
    | defaulted text => simpa [ValueRule.written] using hescaped text (by rw [hrule]; rfl)
    | forced text => simpa [ValueRule.written] using hescaped text (by rw [hrule]; rfl)
  have hident : isIdentifier (String.ofList p.name.toList) = true := by
    rw [String.ofList_toList]
    exact hp.name
  simp [ParamDeclaration.written, newline_notMem_of_word hp.type,
    newline_notMem_of_word (word_of_isIdentifier hident), hrule]

/-- A declaration read from one line is written on one line. -/
theorem newline_notMem_written (h : read cs = .ok d) (hcs : '\n' ∉ cs) :
  '\n' ∉ d.written
  := by
  have hd := spelled_of_read h
  have hparam : ∀ p ∈ d.params, '\n' ∉ p.written := by
    intro p hp
    apply newline_notMem_writtenParam (hd.params p hp)
    intro text htext hmem
    exact hcs (mem_of_read h hp htext hmem)
  have hlist : '\n' ∉ [','].intercalate (writtenPieces d.params) := by
    rw [← intercalate_writtenPieces]
    intro hmem
    rcases mem_of_mem_intercalate hmem with hjoint | ⟨piece, hpiece, hmem⟩
    · simp at hjoint
    · obtain ⟨p, hp, rfl⟩ := List.mem_map.1 hpiece
      exact hparam p hp hmem
  have hmodifiers : '\n' ∉ writtenModifiers d.modifiers := by
    intro hmem
    obtain ⟨m, hm, hmem⟩ := List.mem_flatMap.1 hmem
    rcases List.mem_cons.1 hmem with heq | hmem
    · cases heq
    · exact newline_notMem_of_word (hd.modifiers m hm).1 hmem
  have hhandler := word_of_isHandlerChar (by simpa using hd.handler_ne_empty) hd.handler_chars
  simp [written, newline_notMem_of_word hd.method_word, newline_notMem_of_word hd.path,
    newline_notMem_of_word hhandler.1, hlist, hmodifiers]

/-- A written declaration has no blanks at its ends. -/
theorem trim_written (hd : d.Spelled) :
  trim d.written = d.written
  := by
  apply trim_eq_self
  · rw [written, List.nil_append]
    apply hd.method_word.head
  · have hshape : ∃ front, d.written = front ++ ')' :: writtenModifiers d.modifiers := by
      refine ⟨[] ++ d.method.token.toList ++ ([' '] ++ d.path.toList ++ ([' ']
        ++ (d.handler.toList ++ [] ++ '(' :: [','].intercalate (writtenPieces d.params)))), ?_⟩
      simp [written]
    obtain ⟨front, hfront⟩ := hshape
    rw [hfront]
    rcases List.eq_nil_or_concat d.modifiers with hnil | ⟨ms, m, hms⟩
    · rw [hnil]
      intro c hc
      rw [writtenModifiers, List.flatMap_nil, List.getLast?_concat] at hc
      obtain rfl := Option.some.inj hc
      rfl
    · have hm : Word m.toList := (hd.modifiers m (by simp [hms])).1
      have hlast : front ++ ')' :: writtenModifiers d.modifiers
          = front ++ ')' :: (writtenModifiers ms ++ [' ']) ++ m.toList := by
        simp [hms, writtenModifiers]
      rw [hlast]
      apply hm.last

theorem isSkipped_written (hd : d.Spelled) :
  RouteTable.isSkipped d.written = false
  := by
  obtain ⟨c, cs, hcs⟩ := List.exists_cons_of_ne_nil hd.method_word.ne_nil
  have hupper : c.isUpper = true := by
    apply hd.method_upper
    simp [hcs]
  rw [RouteTable.isSkipped, written, List.nil_append, hcs]
  have hc : c ≠ '#' := by
    rintro rfl
    cases hupper
  simp [hc]

end Declaration

/-- A line of a table declares the route. -/
def Route.Declared (registry : Registry) (r : Route) : Prop :=
  ∃ cs d n, '\n' ∉ cs ∧ Declaration.read cs = .ok d ∧ (d.atLine n).build registry = .ok r

/-- Types without marks and values without backslashes can be written in a list. -/
theorem Route.Declared.whole {registry : Registry} {r : Route} (h : r.Declared registry)
    {p : Param} (hp : p ∈ r.params) (htype : ∀ c ∈ p.type.toList, c ∉ '\'' :: Declaration.marks)
    (hvalue : ∀ v, p.declared = some v → '\\' ∉ v.raw.toList) :
  Quoting.Whole Declaration.marks p.text.toList
  := by
  obtain ⟨cs, d, n, -, hread, hbuild⟩ := h
  obtain ⟨-, hparams, -⟩ := Declaration.of_build hbuild
  obtain ⟨q, hq, hqp⟩ := exists_mem_of_forall₂ (Declaration.of_buildParams hparams).1 hp
  obtain ⟨-, htypeq, -, hdeclared⟩ := ParamDeclaration.of_build hqp
  rw [ParamDeclaration.toList_text hqp]
  apply Declaration.whole_written ((Declaration.spelled_of_read hread).params q hq)
  · rw [ParamDeclaration.Separate, ← htypeq]
    exact htype
  · intro text htext
    rw [← ParamDeclaration.raw_of_declared hdeclared] at htext
    obtain ⟨v, hv, rfl⟩ := Option.map_eq_some_iff.1 htext
    apply hvalue v hv

namespace RouteTable

variable {registry : Registry} {r : Route} {routes : List Route}

/-- A written route is read back on any line exactly if its parameters can stand in a list. -/
theorem readLine_text_iff (h : r.Declared registry) (n : ℕ) :
  (∃ r', readLine registry "" n r.text.toList = .ok r' ∧ r.same r' = true)
    ↔ ∀ p ∈ r.params, Quoting.Whole Declaration.marks p.text.toList
  := by
  obtain ⟨cs, d, m, -, hread, hbuild⟩ := h
  have hd := Declaration.spelled_of_read hread
  have hparams : (∀ p ∈ r.params, Quoting.Whole Declaration.marks p.text.toList)
      ↔ ∀ p ∈ d.params, Quoting.Whole Declaration.marks p.written := by
    have hleft := @List.forall_mem_map _ _ (fun p : Param => p.text.toList) r.params
      (Quoting.Whole Declaration.marks)
    rw [Route.map_written_of_build hbuild, List.forall_mem_map] at hleft
    exact hleft.symm
  rw [hparams, ← Declaration.read_written_iff hd, Route.toList_text hbuild]
  constructor
  · rintro ⟨r', hline, hsame⟩
    obtain ⟨d', hread', hbuild'⟩ := readLine_eq_ok_iff.1 hline
    obtain ⟨_, _, _, _, -, -, -, -, -, hline', -⟩ := Declaration.read_eq_ok_iff.1 hread'
    have heq := Route.eq_of_same hbuild hbuild' hsame
    change d.atLine 0 = d'.atLine 0 at heq
    have hzero : d'.atLine 0 = d' := by rw [Declaration.atLine, ← hline']
    rw [heq, hzero]
    exact hread'
  · intro hwritten
    have hbuilt := Declaration.build_atLine hbuild n
    exact ⟨_, readLine_eq_ok_iff.2 ⟨_, hwritten, hbuilt⟩, r.same_line n⟩

theorem declared_of_readLines {n : ℕ} {lines : List (List Char)}
    (h : readLines registry "" n lines = .ok routes) (hlines : ∀ line ∈ lines, '\n' ∉ line) :
  ∀ r ∈ routes, r.Declared registry
  := by
  intro r hr
  obtain ⟨m, line, hmem, hline⟩ := exists_line_of_readLines h hr
  obtain ⟨d, hd, hbuild⟩ := readLine_eq_ok_iff.1 hline
  refine ⟨trim line, d, m, ?_, hd, hbuild⟩
  intro hnewline
  exact hlines line hmem (mem_of_mem_trim hnewline)

theorem readLines_text_iff (h : ∀ r ∈ routes, r.Declared registry) (n : ℕ) :
  (∃ routes', readLines registry "" n (routes.map (·.text.toList) ++ [[]]) = .ok routes'
      ∧ Route.sameAll Route.same routes routes' = true)
    ↔ ∀ r ∈ routes, ∀ p ∈ r.params, Quoting.Whole Declaration.marks p.text.toList
  := by
  induction routes generalizing n with
  | nil =>
    simp only [List.not_mem_nil, IsEmpty.forall_iff, implies_true, iff_true]
    exact ⟨[], rfl, rfl⟩
  | cons r routes ih =>
    rw [List.forall_mem_cons] at h
    rw [List.forall_mem_cons, ← readLine_text_iff h.1 n, ← ih h.2 (n + 1)]
    obtain ⟨cs, d, m, -, hread, hbuild⟩ := h.1
    have hd := Declaration.spelled_of_read hread
    have htrim : trim r.text.toList = r.text.toList := by
      rw [Route.toList_text hbuild]
      apply Declaration.trim_written hd
    have hskipped : isSkipped r.text.toList = false := by
      rw [Route.toList_text hbuild]
      apply Declaration.isSkipped_written hd
    rw [List.map_cons, List.cons_append, readLines, htrim, hskipped, if_neg Bool.false_ne_true]
    constructor
    · rintro ⟨routes', hread, hsame⟩
      split at hread
      · cases hread
      · rename_i hline
        obtain ⟨rest, hrest, rfl⟩ := map_eq_ok_iff.1 hread
        rw [Route.sameAll, Bool.and_eq_true] at hsame
        exact ⟨⟨_, hline, hsame.1⟩, rest, hrest, hsame.2⟩
    · rintro ⟨⟨r', hline, hsame⟩, rest, hrest, hall⟩
      refine ⟨r' :: rest, ?_, ?_⟩
      · rw [hline, hrest]
        rfl
      · rw [Route.sameAll, hsame, hall]
        rfl

/-- The lines of a written table are the written routes and an empty one. -/
theorem splitOn_text (h : ∀ r ∈ routes, r.Declared registry) :
  (text routes).toList.splitOn '\n' = routes.map (·.text.toList) ++ [[]]
  := by
  rw [text, String.toList_join, List.flatMap_map, List.splitOn]
  induction routes with
  | nil => rfl
  | cons r routes ih =>
    rw [List.forall_mem_cons] at h
    obtain ⟨cs, d, m, hcs, hread, hbuild⟩ := h.1
    have hline : ∀ c ∈ r.text.toList, (c == '\n') = false := by
      intro c hc
      rw [beq_eq_false_iff_ne]
      rintro rfl
      rw [Route.toList_text hbuild] at hc
      exact Declaration.newline_notMem_written hread hcs hc
    have hcons : (r.text ++ "\n").toList = r.text.toList ++ ['\n'] := by simp
    rw [List.flatMap_cons, hcons, List.append_assoc, List.singleton_append,
      List.splitOnP_append_cons (p := (· == '\n')) _ _ rfl, List.splitOnP_eq_singleton hline,
      ih h.2]
    rfl

variable {table : String}

/-- Every route that is read from a table is declared by a line of it. -/
theorem declared_of_read (h : read registry "" table = .ok routes) :
  ∀ r ∈ routes, r.Declared registry
  := declared_of_readLines h fun _ hline => notMem_of_mem_splitOn hline

/-- A table that is read is read back from its routes, as they are written, exactly if the written
parameters can stand in a list. -/
theorem read_text_iff (h : read registry "" table = .ok routes) :
  (∃ routes', read registry "" (text routes) = .ok routes'
      ∧ Route.sameAll Route.same routes routes' = true)
    ↔ ∀ r ∈ routes, ∀ p ∈ r.params, Quoting.Whole Declaration.marks p.text.toList
  := by
  have hdeclared := declared_of_read h
  rw [read, splitOn_text hdeclared, readLines_text_iff hdeclared]

/-- A table with quotes, marks and a backslash in its values. -/
def searchTable : String :=
  "GET /find H.find(String q ?= 'it\\'s, (so)')\nGET / H.tab(String t = a\\t)"

/-- Its routes. -/
def searchRoutes : List Route := [
  ⟨⟨"GET"⟩, "/find", [.literal "find"], "H.find",
    [⟨"q", "String", .query, some ⟨"it's, (so)", .text "it's, (so)"⟩⟩], [], 1⟩,
  ⟨⟨"GET"⟩, "/", [], "H.tab",
    [⟨"t", "String", .forced, some ⟨"a\\t", .text "a\\t"⟩⟩], [], 2⟩]

theorem read_text_iff_search :
  ∃ routes', read .standard "" (text searchRoutes) = .ok routes'
    ∧ Route.sameAll Route.same searchRoutes routes' = true
  := by
  have hread : read .standard "" searchTable = .ok searchRoutes := by decide +kernel
  apply (read_text_iff hread).2
  decide

/-- The route of a table with a value that ends in a backslash. -/
def slashRoute : Route :=
  ⟨⟨"GET"⟩, "/", [], "H.x", [⟨"a", "String", .forced, some ⟨"x\\", .text "x\\"⟩⟩], [], 1⟩

/-- A backslash at the end of a value takes the quote after it. -/
theorem read_text_slash :
  read .standard "" "GET / H.x(String a = x\\)" = .ok [slashRoute]
    ∧ read .standard "" (text [slashRoute]) = .error ⟨1, .unterminatedQuote⟩
  := by decide +kernel

/-- A table whose types hold no marks and whose values hold no backslashes is read back. -/
theorem read_text_of_notMem (h : read registry "" table = .ok routes)
    (htypes : ∀ r ∈ routes, ∀ p ∈ r.params, ∀ c ∈ p.type.toList, c ∉ '\'' :: Declaration.marks)
    (hvalues : ∀ r ∈ routes, ∀ p ∈ r.params, ∀ v, p.declared = some v → '\\' ∉ v.raw.toList) :
  ∃ routes', read registry "" (text routes) = .ok routes'
    ∧ Route.sameAll Route.same routes routes' = true
  := by
  have hdeclared := declared_of_read h
  rw [read, splitOn_text hdeclared, readLines_text_iff hdeclared]
  intro r hr p hp
  apply (hdeclared r hr).whole hp (htypes r hr p hp) (hvalues r hr p hp)

end RouteTable

end HttpDispatch
