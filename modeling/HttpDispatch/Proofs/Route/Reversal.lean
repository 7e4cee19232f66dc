import HttpDispatch.Proofs.Http.Query
import HttpDispatch.Proofs.Route.Finding
import HttpDispatch.Proofs.Route.Writing
import Mathlib.Data.List.Nodup

/-!
# Routing in reverse

The target that `Route.reverse` gives is one that the route takes, with the values that were used,
unless a captured text is empty: a capture takes no empty segment, and the path of a lone wildcard
with no text has no segments at all.
-/

namespace HttpDispatch

open Fallible Text

/-! ### Values -/

namespace Registry

/-- The value is one that the registry reads for a parameter. -/
def Produces (registry : Registry) (type name : String) (v : Value) : Prop :=
  ∃ text, registry.bind type name text = .ok v

/-- The registry reads back what it writes for the value. -/
def Restores (registry : Registry) (type name : String) (v : Value) : Prop :=
  ∀ text, registry.unbind type name v = .ok text → registry.bind type name text = .ok v

end Registry

namespace Route

variable {r : Route} {registry : Registry} {values : NamedValues}

/-- The found values are those that are used for the parameters. -/
def Uses (r : Route) (values found : NamedValues) : Prop :=
  List.Forall₂ (fun p v => v.1 = p.name ∧ valueFor? p values = some v.2) r.params found

/-- No capture and no lone wildcard is written as the empty text. -/
structure LeavesNoGap (r : Route) (registry : Registry) (values : NamedValues) : Prop where
  capture : ∀ name, .capture name ∈ r.pattern → r.capturedText registry values name ≠ .ok ""
  wildcard : ∀ name, r.pattern = [.wildcard name] →
    r.capturedText registry values name ≠ .ok ""

theorem param?_of_mem (hr : r.WellFormed) {p : Param} (hp : p ∈ r.params) :
  r.param? p.name = some p
  := by
  have hfound : (r.param? p.name).isSome := by
    rw [param?, List.find?_isSome]
    use p, hp
    exact decide_eq_true rfl
  obtain ⟨q, hq⟩ := Option.isSome_iff_exists.1 hfound
  have hname : q.name = p.name := by simpa using List.find?_some hq
  rw [hq, List.inj_on_of_nodup_map hr.names_nodup (List.mem_of_find?_eq_some hq) hp hname]

/-! ### The path -/

/-- The text of a captured parameter, if it has one. -/
def textOf (r : Route) (registry : Registry) (values : NamedValues) (name : String) : String :=
  match r.capturedText registry values name with
  | .ok text => text
  | .error _ => ""

theorem textOf_of_ok {name text : String} (h : r.capturedText registry values name = .ok text) :
  r.textOf registry values name = text
  := by
  rw [textOf, h]

/-- The text of a token joins its segments, and its captured text is there. -/
theorem of_tokenText {t : PathToken} {s : String}
    (h : r.tokenText registry values t = .ok s) :
  s = "/".intercalate (t.written (r.textOf registry values))
    ∧ ∀ name ∈ t.captured?,
        r.capturedText registry values name = .ok (r.textOf registry values name)
  := by
  cases t with
  | literal literal =>
    obtain rfl := Except.ok.inj h
    use String.intercalate_singleton.symm
    exact nofun
  | capture name =>
    obtain ⟨text, htext, rfl⟩ := map_eq_ok_iff.1 h
    rw [PathToken.written, textOf_of_ok htext]
    use String.intercalate_singleton.symm
    rintro _ ⟨rfl⟩
    rw [textOf_of_ok htext, htext]
  | wildcard name =>
    obtain ⟨text, htext, rfl⟩ := map_eq_ok_iff.1 h
    rw [PathToken.written, textOf_of_ok htext]
    use rfl
    rintro _ ⟨rfl⟩
    rw [textOf_of_ok htext, htext]

/-- The texts of the tokens after slashes are the segments after slashes. -/
theorem join_written (text : String → String) {p : Pattern} (hp : p ≠ []) :
  String.join ((p.map fun t => "/".intercalate (t.written text)).map ("/" ++ ·))
    = p.pathOf text
  := by
  induction p with
  | nil => exact absurd rfl hp
  | cons t p ih =>
    rw [Pattern.pathOf, Pattern.written_cons, List.map_cons, List.map_cons, String.join_cons]
    by_cases hnil : p = []
    · subst hnil
      simp [Pattern.written]
    · rw [ih hnil, Pattern.pathOf, String.intercalate_append_of_ne_nil (t.written_ne_nil text)
        (mt Pattern.written_eq_nil_iff.1 hnil), String.append_assoc, String.append_assoc]

/-- The path is written from the captured texts. -/
theorem of_pathWith {path : String} (h : r.pathWith registry values = .ok path) :
  path = r.pattern.pathOf (r.textOf registry values)
    ∧ ∀ name ∈ r.pattern.captures,
        r.capturedText registry values name = .ok (r.textOf registry values name)
  := by
  obtain ⟨texts, htexts, rfl⟩ := map_eq_ok_iff.1 h
  have htexts := mapM_eq_ok_iff.1 htexts
  constructor
  · have hmap : texts
        = r.pattern.map fun t => "/".intercalate (t.written (r.textOf registry values)) := by
      rw [← List.map_id texts]
      apply map_eq_map_of_forall₂ htexts
      intro t s hs
      apply (of_tokenText hs).1
    rw [hmap, List.isEmpty_map]
    by_cases hnil : r.pattern = []
    · rw [hnil]
      rfl
    · rw [List.isEmpty_eq_false_iff.2 hnil]
      apply join_written _ hnil
  · intro name hname
    obtain ⟨t, ht, hcaptured⟩ := List.mem_filterMap.1 hname
    obtain ⟨s, -, hs⟩ := exists_mem_of_forall₂ htexts.flip ht
    apply (of_tokenText hs).2 name hcaptured

/-- What is written leaves no gap if its texts do not. -/
theorem leavesNoGap_iff {path : String} (h : r.pathWith registry values = .ok path) :
  r.LeavesNoGap registry values ↔ r.pattern.Filled (r.textOf registry values)
  := by
  have htext : ∀ name ∈ r.pattern.captures,
      (r.capturedText registry values name ≠ .ok "" ↔ r.textOf registry values name ≠ "") := by
    intro name hname
    rw [(of_pathWith h).2 name hname, ne_eq, Except.ok.injEq]
  have hcapture : ∀ name, .capture name ∈ r.pattern → name ∈ r.pattern.captures := by
    intro name hname
    apply List.mem_filterMap.2
    exact ⟨_, hname, rfl⟩
  have hwildcard : ∀ name, r.pattern = [.wildcard name] → name ∈ r.pattern.captures := by
    intro name hname
    rw [hname]
    apply List.mem_singleton_self
  constructor
  · rintro ⟨hc, hw⟩
    constructor
    · intro name hname
      apply (htext name (hcapture name hname)).1 (hc name hname)
    · intro name hname
      apply (htext name (hwildcard name hname)).1 (hw name hname)
  · rintro ⟨hc, hw⟩
    constructor
    · intro name hname
      apply (htext name (hcapture name hname)).2 (hc name hname)
    · intro name hname
      apply (htext name (hwildcard name hname)).2 (hw name hname)

/-! ### The query -/

/-- What a parameter contributes to the query has its name. -/
theorem fst_of_queryPair? {p : Param} {pair : String × String}
    (h : queryPair? registry values p = .ok (some pair)) :
  pair.1 = p.name
  := by
  rw [queryPair?] at h
  split at h
  · exact nomatch h
  · split at h
    · obtain ⟨text, -, hpair⟩ := map_eq_ok_iff.1 h
      obtain rfl := Option.some.inj hpair
      rfl
    · split at h <;> exact nomatch h

theorem getAll_cons (pair : String × String) (pairs : List (String × String)) (name : String) :
  (Query.mk (pair :: pairs)).getAll name
    = (if pair.1 = name then [pair.2] else []) ++ (Query.mk pairs).getAll name
  := by
  rw [Query.getAll, Query.getAll, List.filter_cons]
  by_cases hname : pair.1 = name
  · simp [hname]
  · simp [hname]

/-- The query has under a name what the parameter of the name contributes. -/
theorem getAll_of_forall₂ {ps : List Param} {pairs : List (Option (String × String))}
    (h : List.Forall₂ (fun p pair => queryPair? registry values p = .ok pair) ps pairs)
    (hnodup : (ps.map Param.name).Nodup) :
  (∀ name, name ∉ ps.map Param.name → (Query.mk (pairs.filterMap id)).getAll name = [])
    ∧ ∀ p ∈ ps, ∃ pair, queryPair? registry values p = .ok pair
        ∧ (Query.mk (pairs.filterMap id)).getAll p.name = (pair.map Prod.snd).toList
  := by
  induction h with
  | nil => simp [Query.getAll]
  | @cons p pair ps pairs hpair _ ih =>
    rw [List.map_cons, List.nodup_cons] at hnodup
    obtain ⟨hother, hmem⟩ := ih hnodup.2
    have hstep : ∀ name, (Query.mk ((pair :: pairs).filterMap id)).getAll name
        = (if p.name = name then (pair.map Prod.snd).toList else [])
          ++ (Query.mk (pairs.filterMap id)).getAll name := by
      intro name
      cases pair with
      | none => simp
      | some pair =>
        rw [← fst_of_queryPair? hpair]
        apply getAll_cons pair _ name
    constructor
    · intro name hname
      rw [List.map_cons, List.mem_cons, not_or] at hname
      rw [hstep, if_neg (Ne.symm hname.1), hother name hname.2]
      rfl
    · intro q hq
      rcases List.mem_cons.1 hq with rfl | hq
      · use pair, hpair
        rw [hstep, if_pos rfl, hother _ hnodup.1, List.append_nil]
      · obtain ⟨pair', hpair', hall⟩ := hmem q hq
        use pair', hpair'
        have hne : p.name ≠ q.name := by
          intro heq
          apply hnodup.1
          rw [heq]
          apply List.mem_map_of_mem hq
        rw [hstep, if_neg hne, hall]
        rfl

/-- The target is cut into the path and the query that it was made of. -/
theorem splitTarget_reverse {url : String}
    (hliteral : ∀ text, .literal text ∈ r.pattern → '?' ∉ text.toList)
    (h : r.reverse registry values = .ok url) :
  ∃ path pairs, r.pathWith registry values = .ok path ∧ r.queryPairs registry values = .ok pairs
    ∧ Request.splitTarget url
      = (path, if pairs.isEmpty then none else some ("&".intercalate (pairs.map Query.pairText)))
  := by
  obtain ⟨path, hpath, h⟩ := bind_eq_ok_iff.1 h
  obtain ⟨pairs, hpairs, h⟩ := bind_eq_ok_iff.1 h
  use path, pairs, hpath, hpairs
  have hquestion : '?' ∉ path.toList := by
    rw [(of_pathWith hpath).1]
    apply Pattern.notMem_pathOf _ rfl (by decide) (by decide) hliteral
  split at h
  · rename_i hempty
    obtain rfl := Except.ok.inj h
    rw [Request.splitTarget, span_ne_of_notMem hquestion, if_pos hempty]
    simp
  · rename_i hempty
    have hurl : url.toList
        = path.toList ++ '?' :: ("&".intercalate (pairs.map Query.pairText)).toList := by
      rw [← Except.ok.inj h, String.toList_append, String.toList_append, List.append_assoc]
      rfl
    rw [Request.splitTarget, hurl, span_ne_append hquestion, if_neg hempty]
    simp only [String.ofList_toList]

/-! ### The request -/

/-- A parameter that is captured gets the value that was used for it from the path. -/
theorem hasValue_of_path (hr : r.WellFormed)
    (hcaptured : ∀ name ∈ r.pattern.captures,
      r.capturedText registry values name = .ok (r.textOf registry values name))
    {p : Param} (hp : p ∈ r.params) (hsource : p.source = .path)
    (hrestores : ∀ v, valueFor? p values = some v → registry.Restores p.type p.name v)
    (query : Query) :
  ∃ v, valueFor? p values = some v
    ∧ p.HasValue registry
        (fun name text => name ∈ r.pattern.captures ∧ text = r.textOf registry values name) query v
  := by
  have hname := hr.path_captured p hp hsource
  have htext := hcaptured p.name hname
  rw [capturedText, param?_of_mem hr hp] at htext
  simp only at htext
  split at htext
  · exact nomatch htext
  · rename_i v hv
    use v, hv
    apply Param.HasValue.path hsource ⟨hname, rfl⟩
    apply hrestores v hv _ htext

/-- A parameter of the query gets the value that was used for it from the query, or has it as its
default. -/
theorem hasValue_of_query {p : Param} (hsource : p.source = .query) {query : Query}
    {pair : Option (String × String)} (hpair : queryPair? registry values p = .ok pair)
    (hall : query.getAll p.name = (pair.map Prod.snd).toList)
    (hrestores : ∀ v, valueFor? p values = some v → registry.Restores p.type p.name v)
    (captured : String → String → Prop) :
  ∃ v, valueFor? p values = some v ∧ p.HasValue registry captured query v
  := by
  have hvalue : valueFor? p values = (values.lookup p.name <|> p.declared.map (·.value)) := by
    rw [valueFor?, if_neg (by simp [hsource])]
  rw [queryPair?, if_neg (by simp [hsource])] at hpair
  rw [hvalue] at hrestores ⊢
  split at hpair
  · rename_i v hv
    obtain ⟨text, htext, rfl⟩ := map_eq_ok_iff.1 hpair
    rw [hv] at hrestores ⊢
    use v, rfl
    apply Param.HasValue.query hsource hall
    apply hrestores v rfl _ htext
  · rename_i hv
    split at hpair
    · rename_i hdeclared
      obtain ⟨d, hd⟩ := Option.isSome_iff_exists.1 hdeclared
      obtain rfl := Except.ok.inj hpair
      use d.value
      rw [hv, hd]
      use rfl
      apply Param.HasValue.default hsource hall hd
    · exact nomatch hpair

/-- A parameter gets the value that was used for it from the texts that were written. -/
theorem hasValue_of_written (hr : r.WellFormed) {pairs : List (Option (String × String))}
    (hpairs : List.Forall₂ (fun p pair => queryPair? registry values p = .ok pair) r.params pairs)
    (hcaptured : ∀ name ∈ r.pattern.captures,
      r.capturedText registry values name = .ok (r.textOf registry values name))
    {p : Param} (hp : p ∈ r.params)
    (hrestores : ∀ v, valueFor? p values = some v → registry.Restores p.type p.name v) :
  ∃ v, valueFor? p values = some v
    ∧ p.HasValue registry
        (fun name text => name ∈ r.pattern.captures ∧ text = r.textOf registry values name)
        ⟨pairs.filterMap id⟩ v
  := by
  cases hsource : p.source with
  | forced =>
    obtain ⟨d, hd⟩ := Option.isSome_iff_exists.1 (hr.forced_declared p hp hsource)
    use d.value, ?_, .forced hsource hd
    rw [valueFor?, if_pos hsource, hd]
    rfl
  | path => exact hasValue_of_path hr hcaptured hp hsource hrestores _
  | query =>
    obtain ⟨pair, hpair, hall⟩ := (getAll_of_forall₂ hpairs hr.names_nodup).2 p hp
    apply hasValue_of_query hsource hpair hall hrestores _

/-- The values that are used are restored: those that were given, and those that were declared when
the route was built. -/
theorem restores_of_build {validator : Registry} {d : Declaration}
    (built : d.build validator = .ok r)
    (law : ∀ type name v, registry.Produces type name v ∨ validator.Produces type name v →
      registry.Restores type name v)
    (given : ∀ p ∈ r.params, ∀ v, values.lookup p.name = some v →
      registry.Produces p.type p.name v)
    {p : Param} (hp : p ∈ r.params) {v : Value} (hv : valueFor? p values = some v) :
  registry.Restores p.type p.name v
  := by
  have hdeclared : p.declared.map (·.value) = some v → registry.Restores p.type p.name v := by
    intro hv
    obtain ⟨dv, hdv, rfl⟩ := Option.map_eq_some_iff.1 hv
    apply law _ _ _ (.inr ⟨dv.raw, Declaration.bind_of_build built hp hdv⟩)
  rw [valueFor?] at hv
  split at hv
  · apply hdeclared hv
  · cases hgiven : values.lookup p.name with
    | none =>
      rw [hgiven] at hv
      apply hdeclared hv
    | some w =>
      rw [hgiven] at hv
      obtain rfl := Option.some.inj hv
      apply law _ _ _ (.inl (given p hp w hgiven))

/-- The query of a target is that of the pairs that it was made of. -/
theorem query_of_splitTarget {pairs : List (String × String)} {request : Request}
    (h : request.queryText
      = if pairs.isEmpty then none else some ("&".intercalate (pairs.map Query.pairText))) :
  request.query = ⟨pairs⟩
  := by
  rw [Request.query, h, ← Query.read_intercalate pairs]
  cases pairs <;> rfl

end Route

namespace Router

variable {registry : Registry} {r : Route} {values : NamedValues}

/-- A router with one route finds the route when its attempt succeeds. -/
theorem find_singleton_of_ok {method : Method} {path : String} {query : Query}
    {found : NamedValues}
    (h : attempt registry method (Pattern.pathSegments path) query r = some (.ok found)) :
  find ⟨[r], registry⟩ method path query = .ok ⟨0, r, found⟩
  := by
  rw [find, candidates, search, h]

theorem find_singleton_of_none {method : Method} {path : String} {query : Query}
    (h : attempt registry method (Pattern.pathSegments path) query r = none) :
  find ⟨[r], registry⟩ method path query = .error ⟨method, path, []⟩
  := by
  rw [find, candidates, search, h]
  rfl

/-- The path that is written leads to the values that were used. -/
theorem attempt_written (hr : r.WellFormed) {path : String} {pairs : List (String × String)}
    (hpath : r.pathWith registry values = .ok path)
    (hpairs : r.queryPairs registry values = .ok pairs)
    (hrestores : ∀ p ∈ r.params, ∀ v, Route.valueFor? p values = some v →
      registry.Restores p.type p.name v)
    (hfilled : r.pattern.Filled (r.textOf registry values)) :
  ∃ found, attempt registry r.method (Pattern.pathSegments path) ⟨pairs⟩ r = some (.ok found)
    ∧ r.Uses values found
  := by
  obtain ⟨rfl, hcaptured⟩ := Route.of_pathWith hpath
  obtain ⟨pairs, hall, rfl⟩ := map_eq_ok_iff.1 hpairs
  have hall := mapM_eq_ok_iff.1 hall
  have hbound : ∀ p ∈ r.params, ∃ v : String × Value,
      (v.1 = p.name ∧ Route.valueFor? p values = some v.2)
        ∧ bindParam registry (r.pattern.texts (r.textOf registry values))
            ⟨pairs.filterMap id⟩ p = .ok v := by
    intro p hp
    obtain ⟨v, hv, hhas⟩ := Route.hasValue_of_written hr hall hcaptured hp (hrestores p hp)
    use (p.name, v), ⟨rfl, hv⟩
    apply bindParam_of_hasValue (fun text => Pattern.lookup_texts_iff hr.pattern) hhas
  obtain ⟨found, hfound⟩ := exists_forall₂_of_mem hbound
  use found
  constructor
  · rw [attempt, if_neg (not_not.2 rfl), Pattern.match?_pathOf hr.pattern hfilled]
    apply congrArg some
    apply mapM_eq_ok_iff.2
    apply hfound.imp
    intro p v h
    apply h.2
  · apply hfound.imp
    intro p v h
    apply h.1

/-- A path with a gap leads nowhere. -/
theorem attempt_written_eq_none (hr : r.WellFormed) {path : String} {query : Query}
    (hpath : r.pathWith registry values = .ok path)
    (hgap : ¬ r.pattern.Filled (r.textOf registry values)) :
  attempt registry r.method (Pattern.pathSegments path) query r = none
  := by
  obtain ⟨rfl, -⟩ := Route.of_pathWith hpath
  rw [attempt, if_neg (not_not.2 rfl), Pattern.match?_pathOf_eq_none hr.pattern hgap]

/-- A target that a route gives in reverse leads to the route, with the values that were used,
exactly if no captured text leaves a gap in the path.  Otherwise it leads nowhere. -/
theorem findRequest_reverse {validator : Registry} {d : Declaration} {url : String}
    {request : Request} (built : d.build validator = .ok r)
    (literals : ∀ text, .literal text ∈ r.pattern → '?' ∉ text.toList)
    (law : ∀ type name v, registry.Produces type name v ∨ validator.Produces type name v →
      registry.Restores type name v)
    (given : ∀ p ∈ r.params, ∀ v, values.lookup p.name = some v →
      registry.Produces p.type p.name v)
    (reversed : r.reverse registry values = .ok url) (method : request.method = r.method)
    (target : (request.path, request.queryText) = Request.splitTarget url) :
  ((∃ found, findRequest ⟨[r], registry⟩ request = .ok found ∧ found.route = r
        ∧ r.Uses values found.values)
      ↔ r.LeavesNoGap registry values)
    ∧ (¬ r.LeavesNoGap registry values →
        findRequest ⟨[r], registry⟩ request = .error ⟨r.method, request.path, []⟩)
  := by
  have hr : r.WellFormed := Route.Validated.wellFormed ⟨validator, d, built⟩
  obtain ⟨path, pairs, hpath, hpairs, hsplit⟩ := Route.splitTarget_reverse literals reversed
  obtain ⟨rfl, hqueryText⟩ := Prod.mk.inj (target.trans hsplit)
  have hnone : ¬ r.LeavesNoGap registry values →
      findRequest ⟨[r], registry⟩ request = .error ⟨r.method, request.path, []⟩ := by
    intro hgap
    rw [findRequest, method]
    apply find_singleton_of_none
    apply attempt_written_eq_none hr hpath (mt (Route.leavesNoGap_iff hpath).2 hgap)
  refine ⟨⟨?_, ?_⟩, hnone⟩
  · rintro ⟨found, hfound, -⟩
    by_contra hgap
    exact nomatch hfound.symm.trans (hnone hgap)
  · intro hfilled
    obtain ⟨found, hattempt, huses⟩ := attempt_written hr hpath hpairs
      (fun p hp v => Route.restores_of_build built law given hp)
      ((Route.leavesNoGap_iff hpath).1 hfilled)
    rw [findRequest, method, Route.query_of_splitTarget hqueryText]
    exact ⟨_, find_singleton_of_ok hattempt, rfl, huses⟩

/-! ### Texts -/

/-- The registry whose only type is that of texts. -/
def textRegistry : Registry := Registry.empty.register "String" (Binder.standard .text)

theorem bind_textRegistry {type name text : String} {v : Value}
    (h : textRegistry.bind type name text = .ok v) :
  type = "String" ∧ v = .text text
  := by
  rw [Registry.bind, Registry.get?, textRegistry, Registry.register, List.lookup_cons] at h
  split at h
  · rename_i heq
    split at heq
    · rename_i htype
      obtain rfl := Option.some.inj heq
      exact ⟨eq_of_beq htype, (Except.ok.inj h).symm⟩
    · exact nomatch heq
  · exact nomatch h

/-- Texts are read as they are written. -/
theorem textRegistry_restores {type name : String} {v : Value}
    (h : textRegistry.Produces type name v) :
  textRegistry.Restores type name v
  := by
  obtain ⟨text, htext⟩ := h
  obtain ⟨rfl, rfl⟩ := bind_textRegistry htext
  intro written hwritten
  obtain rfl := Except.ok.inj hwritten
  exact htext

/-- A route with a capture, a wildcard, a value in the query and a fixed one. -/
def filesDeclaration : Declaration :=
  ((((Declaration.new ⟨"GET"⟩ "/files/:owner/*rest" "Files.show").param "String" "owner").param
    "String" "rest").defaulted "String" "view" "list").forced "String" "lang" "en"

/-- The route that `filesDeclaration` denotes. -/
def filesRoute : Route where
  method := ⟨"GET"⟩
  path := "/files/:owner/*rest"
  pattern := [.literal "files", .capture "owner", .wildcard "rest"]
  handler := "Files.show"
  params := [⟨"owner", "String", .path, none⟩, ⟨"rest", "String", .path, none⟩,
    ⟨"view", "String", .query, some ⟨"list", .text "list"⟩⟩,
    ⟨"lang", "String", .forced, some ⟨"en", .text "en"⟩⟩]
  modifiers := []
  line := 0

/-- Values for the parameters of `filesRoute`, with characters that separate the parts of a
target. -/
def filesValues : NamedValues :=
  [("owner", .text "a b/c"), ("rest", .text "docs//read+me"), ("view", .text "x&y=%"),
    ("lang", .text "fr")]

theorem findRequest_reverse_files :
  ∃ found, findRequest ⟨[filesRoute], textRegistry⟩
      ⟨⟨"GET"⟩, "/files/a%20b%2Fc/docs//read%2Bme", 1, ⟨[]⟩, some "view=x%26y%3D%25", []⟩
        = .ok found
    ∧ found.route = filesRoute
    ∧ filesRoute.Uses filesValues found.values
  := by
  have built : filesDeclaration.build textRegistry = .ok filesRoute := by decide +kernel
  have literals : ∀ text, .literal text ∈ filesRoute.pattern → '?' ∉ text.toList := by
    intro text htext
    simp only [filesRoute, List.mem_cons, PathToken.literal.injEq, reduceCtorEq, List.not_mem_nil,
      or_false] at htext
    subst htext
    decide
  have given : ∀ p ∈ filesRoute.params, ∀ v, filesValues.lookup p.name = some v →
      textRegistry.Produces p.type p.name v := by
    intro p hp v hv
    simp only [filesRoute, List.mem_cons, List.not_mem_nil, or_false] at hp
    rcases hp with rfl | rfl | rfl | rfl <;> obtain rfl := Option.some.inj hv <;>
      exact ⟨_, rfl⟩
  have filled : filesRoute.LeavesNoGap textRegistry filesValues := by
    constructor
    · intro name hname
      simp only [filesRoute, List.mem_cons, PathToken.capture.injEq, reduceCtorEq,
        List.not_mem_nil, or_false, false_or] at hname
      subst hname
      decide +kernel
    · intro name hname
      simp [filesRoute] at hname
  apply ((findRequest_reverse built literals
    (fun type name v h => textRegistry_restores (h.elim id id)) given
    (show filesRoute.reverse textRegistry filesValues
      = .ok "/files/a%20b%2Fc/docs//read%2Bme?view=x%26y%3D%25" by decide +kernel)
    rfl (by decide +kernel)).1).2 filled

/-- The empty text of a capture is written and not taken back. -/
theorem findRequest_reverse_empty :
  ∃ r, ((Declaration.new ⟨"GET"⟩ "/users/:id" "H.show").param "String" "id").build textRegistry
      = .ok r
    ∧ textRegistry.Produces "String" "id" (.text "")
    ∧ r.reverse textRegistry [("id", .text "")] = .ok "/users/"
    ∧ Request.splitTarget "/users/" = ("/users/", none)
    ∧ findRequest ⟨[r], textRegistry⟩ ⟨⟨"GET"⟩, "/users/", 1, ⟨[]⟩, none, []⟩
      = .error ⟨⟨"GET"⟩, "/users/", []⟩
  := by
  use ⟨⟨"GET"⟩, "/users/:id", [.literal "users", .capture "id"], "H.show",
    [⟨"id", "String", .path, none⟩], [], 0⟩
  refine ⟨by decide +kernel, ⟨"", rfl⟩, by decide +kernel, by decide +kernel, by decide +kernel⟩

end Router

end HttpDispatch
