import HttpDispatch.Proofs.Route.Reversal

/-!
# Targets in reverse

Each token of a pattern has pieces of its own in the target that a route gives in reverse, and each
value in the query a pair of its own: `Route.reverse_spelled`.  So whatever characters the text of
a value has, it changes nothing of a target but the pieces or the pair of the value.
-/

namespace HttpDispatch.Route

open Fallible Text

variable {r : Route} {registry : Registry} {values values' : NamedValues}

/-! ### Tokens and their pieces -/

/-- The text is the one that the registry writes for the value of a parameter. -/
def Unbinds (r : Route) (registry : Registry) (values : NamedValues) (name text : String) : Prop :=
  ∃ p ∈ r.params, p.name = name
    ∧ ∃ v, valueFor? p values = some v ∧ registry.unbind p.type name v = .ok text

/-- The pieces of a path stand for a token: a literal stands as it is, and a capture is decoded from
one piece, a wildcard from a piece for each part of its text. -/
inductive SpellsToken (r : Route) (registry : Registry) (values : NamedValues) :
    PathToken → List String → Prop
  | literal (text : String) : SpellsToken r registry values (.literal text) [text]
  | capture {name text piece : String} (unbinds : r.Unbinds registry values name text)
      (decodes : Percent.decode piece = some text) :
    SpellsToken r registry values (.capture name) [piece]
  | wildcard {name text : String} {pieces : List String}
      (unbinds : r.Unbinds registry values name text)
      (decodes : List.Forall₂ (fun piece part => Percent.decode piece = some (String.ofList part))
        pieces (text.toList.splitOn '/')) :
    SpellsToken r registry values (.wildcard name) pieces

/-- The text of a captured parameter is that of its value. -/
theorem unbinds_of_capturedText {name text : String}
    (h : r.capturedText registry values name = .ok text) :
  r.Unbinds registry values name text
  := by
  rw [capturedText] at h
  split at h
  · cases h
  · rename_i p hp
    split at h
    · cases h
    · rename_i v hv
      exact ⟨p, List.mem_of_find?_eq_some hp, by simpa using List.find?_some hp, v, hv, h⟩

/-- A token is written in pieces that stand for it. -/
theorem spellsToken_written {t : PathToken}
    (h : ∀ name ∈ t.captured?,
      r.capturedText registry values name = .ok (r.textOf registry values name)) :
  r.SpellsToken registry values t (t.written (r.textOf registry values))
  := by
  cases t with
  | literal literal => exact .literal literal
  | capture name =>
    have hunbinds := unbinds_of_capturedText (h name rfl)
    exact .capture hunbinds (Percent.decode_encode _)
  | wildcard name =>
    have hunbinds := unbinds_of_capturedText (h name rfl)
    apply SpellsToken.wildcard hunbinds
    rw [PathToken.written, List.forall₂_map_left_iff, List.forall₂_same]
    intro part _
    apply Percent.decode_encode

/-! ### Values and their pairs -/

/-- The parameter is one of the query, and it has a given value. -/
def IsSupplied (values : NamedValues) (p : Param) : Prop :=
  p.source = .query ∧ (values.lookup p.name).isSome

instance (values : NamedValues) : DecidablePred (IsSupplied values) :=
  fun _ => inferInstanceAs (Decidable (_ ∧ _))

/-- The pair has the name of a parameter and the text that the registry writes for its given
value. -/
def SpellsParam (registry : Registry) (values : NamedValues) (p : Param)
    (pair : String × String) : Prop :=
  pair.1 = p.name
    ∧ ∃ v, values.lookup p.name = some v ∧ registry.unbind p.type p.name v = .ok pair.2

/-- A parameter contributes a pair to the query if it has a given value there. -/
theorem of_queryPair? {p : Param} {pair : Option (String × String)}
    (h : queryPair? registry values p = .ok pair) :
  (IsSupplied values p ∧ ∃ pair', pair = some pair' ∧ SpellsParam registry values p pair')
    ∨ ¬ IsSupplied values p ∧ pair = none
  := by
  rw [queryPair?] at h
  split at h
  · rename_i hsource
    obtain rfl := Except.ok.inj h
    exact .inr ⟨fun h => hsource h.1, rfl⟩
  · rename_i hsource
    split at h
    · rename_i v hv
      obtain ⟨text, htext, rfl⟩ := map_eq_ok_iff.1 h
      left
      exact ⟨⟨not_not.1 hsource, Option.isSome_of_eq_some hv⟩, _, rfl, rfl, v, hv, htext⟩
    · rename_i hv
      split at h
      · obtain rfl := Except.ok.inj h
        exact .inr ⟨by simp [IsSupplied, hv], rfl⟩
      · cases h

/-- The pairs of the query are those of the parameters with a given value. -/
theorem forall₂_spellsParam {params : List Param} {pairs : List (Option (String × String))}
    (h : List.Forall₂ (fun p pair => queryPair? registry values p = .ok pair) params pairs) :
  List.Forall₂ (SpellsParam registry values) (params.filter (IsSupplied values ·))
    (pairs.filterMap id)
  := by
  induction h with
  | nil => exact .nil
  | cons hpair _ ih =>
    rw [List.filter_cons]
    rcases of_queryPair? hpair with ⟨hsupplied, pair', rfl, hspells⟩ | ⟨hnot, rfl⟩
    · rw [if_pos (decide_eq_true hsupplied)]
      exact .cons hspells ih
    · rw [if_neg (by simpa using hnot)]
      exact ih

/-! ### Other values -/

/-- Values that agree but for one name. -/
def AgreeBut (name : String) (values values' : NamedValues) : Prop :=
  ∀ other, other ≠ name → values'.lookup other = values.lookup other

theorem valueFor?_congr {p : Param} (h : values'.lookup p.name = values.lookup p.name) :
  valueFor? p values' = valueFor? p values
  := by
  rw [valueFor?, valueFor?, h]

/-- A captured text depends on no value but its own. -/
theorem textOf_congr {name : String} (h : values'.lookup name = values.lookup name) :
  r.textOf registry values' name = r.textOf registry values name
  := by
  have hcaptured : r.capturedText registry values' name = r.capturedText registry values name := by
    rw [capturedText, capturedText]
    split
    · rfl
    · rename_i p hp
      obtain rfl : p.name = name := by simpa using List.find?_some hp
      rw [valueFor?_congr h]
  rw [textOf, textOf, hcaptured]

/-- The pieces of a token depend on no value but its own. -/
theorem written_congr {name : String} (h : AgreeBut name values values') {t : PathToken}
    (ht : t.captured? ≠ some name) :
  t.written (r.textOf registry values') = t.written (r.textOf registry values)
  := by
  cases t with
  | literal literal => rfl
  | capture other | wildcard other =>
    have hother : other ≠ name := by
      rintro rfl
      apply ht rfl
    rw [PathToken.written, PathToken.written, textOf_congr (h other hother)]

/-- What a parameter contributes is left out with the pairs of its name. -/
theorem filter_queryPair? {p : Param} {pair : Option (String × String)}
    (h : queryPair? registry values p = .ok pair) (pairs : List (Option (String × String))) :
  ((pair :: pairs).filterMap id).filter (·.1 ≠ p.name)
    = (pairs.filterMap id).filter (·.1 ≠ p.name)
  := by
  cases pair with
  | none => rfl
  | some pair => simp [fst_of_queryPair? h]

/-- The pairs of other names depend on no value of the name. -/
theorem filter_pairs_congr {name : String} (h : AgreeBut name values values')
    {params : List Param} {pairs pairs' : List (Option (String × String))}
    (hpairs : List.Forall₂ (fun p pair => queryPair? registry values p = .ok pair) params pairs)
    (hpairs' : List.Forall₂ (fun p pair => queryPair? registry values' p = .ok pair)
      params pairs') :
  (pairs'.filterMap id).filter (·.1 ≠ name) = (pairs.filterMap id).filter (·.1 ≠ name)
  := by
  induction hpairs generalizing pairs' with
  | nil =>
    cases hpairs'
    rfl
  | @cons p pair params pairs hpair _ ih =>
    obtain ⟨pair', pairs', hpair', htail, rfl⟩ := List.forall₂_cons_left_iff.1 hpairs'
    have ih := ih htail
    by_cases hname : p.name = name
    · subst hname
      rw [filter_queryPair? hpair, filter_queryPair? hpair', ih]
    · have hsame : queryPair? registry values' p = queryPair? registry values p := by
        rw [queryPair?, queryPair?, h _ hname]
      obtain rfl := Except.ok.inj (hpair'.symm.trans (hsame.trans hpair))
      have hcons (ps : List (Option (String × String))) :
          (pair' :: ps).filterMap id = pair'.toList ++ ps.filterMap id := by
        cases pair' <;> rfl
      rw [hcons, hcons, List.filter_append, List.filter_append, ih]

/-! ### Targets -/

/-- The target of a route has pieces for each token and a pair for each value in the query, and
nothing else. -/
structure Spelled (r : Route) (registry : Registry) (values : NamedValues) (url : String)
    (pieces : List (List String)) (pairs : List (String × String)) : Prop where
  tokens : List.Forall₂ (r.SpellsToken registry values) r.pattern pieces
  path : ∃ rest : String, (Request.splitTarget url).1 = "/" ++ rest
    ∧ if r.pattern = [] then rest = ""
      else (rest.toList.splitOn '/').map String.ofList = pieces.flatten
  params : List.Forall₂ (SpellsParam registry values) (r.params.filter (IsSupplied values ·)) pairs
  query : ((Request.splitTarget url).2.map Query.read).getD .empty = ⟨pairs⟩
  bare : (Request.splitTarget url).2 = none ↔ pairs = []

/-- The pieces of a path are those of its tokens. -/
theorem path_of_pathOf (hr : r.WellFormed) (text : String → String) :
  ∃ rest : String, r.pattern.pathOf text = "/" ++ rest
    ∧ if r.pattern = [] then rest = ""
      else (rest.toList.splitOn '/').map String.ofList
        = (r.pattern.map (PathToken.written text)).flatten
  := by
  use "/".intercalate (r.pattern.written text), rfl
  split
  · rename_i hnil
    rw [hnil]
    rfl
  · rename_i hnil
    have hslash := Pattern.notMem_of_mem_written text rfl (by decide) hr.pattern.slash_notMem
    rw [splitOn_toList_intercalate '/' "/" rfl (mt Pattern.written_eq_nil_iff.1 hnil) hslash,
      List.map_map, Pattern.written, List.flatMap_def]
    apply (List.map_congr_left fun s _ => String.ofList_toList).trans (List.map_id _)

/-- A target is spelled by what is written for its tokens and its values. -/
theorem spelled_of_reverse (hr : r.WellFormed) {url : String}
    (literals : ∀ text, .literal text ∈ r.pattern → '?' ∉ text.toList)
    (reversed : r.reverse registry values = .ok url) :
  ∃ pairs, r.queryPairs registry values = .ok pairs
    ∧ r.Spelled registry values url
      (r.pattern.map (PathToken.written (r.textOf registry values))) pairs
  := by
  obtain ⟨path, pairs, hpath, hpairs, hsplit⟩ := splitTarget_reverse literals reversed
  obtain ⟨rfl, hcaptured⟩ := of_pathWith hpath
  use pairs, hpairs
  constructor
  · rw [List.forall₂_map_right_iff, List.forall₂_same]
    intro t ht
    apply spellsToken_written
    intro name hname
    apply hcaptured name (List.mem_filterMap.2 ⟨t, ht, hname⟩)
  · rw [hsplit]
    apply path_of_pathOf hr
  · obtain ⟨ps, hps, rfl⟩ := map_eq_ok_iff.1 hpairs
    exact forall₂_spellsParam (mapM_eq_ok_iff.1 hps)
  · rw [hsplit, ← Query.read_intercalate pairs]
    cases pairs <;> rfl
  · rw [hsplit]
    cases pairs <;> simp

/-- A target that a route gives in reverse has pieces for each token of the pattern, which denote
the token, and a pair for each given value of the query.  With another value of one name, the
target has the same pieces for the tokens that do not capture the name, and the same pairs of the
other names. -/
theorem reverse_spelled {url : String} (validated : r.Validated)
    (literals : ∀ text, .literal text ∈ r.pattern → '?' ∉ text.toList)
    (reversed : r.reverse registry values = .ok url) :
  ∃ pieces pairs, r.Spelled registry values url pieces pairs
    ∧ ∀ name values' url', AgreeBut name values values' →
      r.reverse registry values' = .ok url' →
      ∃ pieces' pairs', r.Spelled registry values' url' pieces' pairs'
        ∧ (∀ (i : ℕ) (t : PathToken), r.pattern[i]? = some t → t.captured? ≠ some name →
          pieces'[i]? = pieces[i]?)
        ∧ pairs'.filter (·.1 ≠ name) = pairs.filter (·.1 ≠ name)
  := by
  have hr := validated.wellFormed
  obtain ⟨pairs, hpairs, hspelled⟩ := spelled_of_reverse hr literals reversed
  refine ⟨_, pairs, hspelled, ?_⟩
  intro name values' url' hagree reversed'
  obtain ⟨pairs', hpairs', hspelled'⟩ := spelled_of_reverse hr literals reversed'
  refine ⟨_, pairs', hspelled', ?_, ?_⟩
  · intro i t ht hname
    rw [List.getElem?_map, List.getElem?_map, ht, Option.map_some, Option.map_some,
      written_congr hagree hname]
  · obtain ⟨ps, hps, rfl⟩ := map_eq_ok_iff.1 hpairs
    obtain ⟨ps', hps', rfl⟩ := map_eq_ok_iff.1 hpairs'
    exact filter_pairs_congr hagree (mapM_eq_ok_iff.1 hps) (mapM_eq_ok_iff.1 hps')

theorem reverse_spelled_files :
  ∃ pieces pairs, Router.filesRoute.Spelled Router.textRegistry Router.filesValues
      "/files/a%20b%2Fc/docs//read%2Bme?view=x%26y%3D%25" pieces pairs
    ∧ pieces.flatten = ["files", "a%20b%2Fc", "docs", "", "read%2Bme"]
    ∧ pairs = [("view", "x&y=%")]
  := by
  have built : Router.filesDeclaration.build Router.textRegistry = .ok Router.filesRoute := by
    decide +kernel
  have literals : ∀ text, .literal text ∈ Router.filesRoute.pattern → '?' ∉ text.toList := by
    intro text htext
    simp only [Router.filesRoute, List.mem_cons, PathToken.literal.injEq, reduceCtorEq,
      List.not_mem_nil, or_false] at htext
    subst htext
    decide
  obtain ⟨pieces, pairs, hspelled, -⟩ := reverse_spelled ⟨_, _, built⟩ literals
    (show Router.filesRoute.reverse Router.textRegistry Router.filesValues
      = .ok "/files/a%20b%2Fc/docs//read%2Bme?view=x%26y%3D%25" by decide +kernel)
  refine ⟨pieces, pairs, hspelled, ?_, ?_⟩
  · obtain ⟨rest, hrest, hpieces⟩ := hspelled.path
    have hpath : (Request.splitTarget "/files/a%20b%2Fc/docs//read%2Bme?view=x%26y%3D%25").1
        = "/" ++ "files/a%20b%2Fc/docs//read%2Bme" := by
      decide +kernel
    obtain rfl := (String.append_right_inj "/").1 (hpath.symm.trans hrest)
    rw [← hpieces]
    decide +kernel
  · apply (congrArg Query.pairs hspelled.query).symm.trans
    decide +kernel

end HttpDispatch.Route
