import HttpDispatch.Proofs.Route.Reading
import HttpDispatch.Proofs.Route.Reversal

/-!
# Canonical targets

What a router finds for a target can be written as a target again.  The route takes the written
target with the same values, if the binders read back what they write and write no value of a text
as nothing: `Router.exists_reverse_of_find`.
-/

namespace HttpDispatch

open Fallible Text

/-! ### Lawful binders -/

/-- What the binder reads is of its type and can be written and read again, and only the empty text
is written as nothing. -/
structure Binder.Lawful (b : Binder) : Prop where
  typed : ∀ name text v, b.bind name text = .ok v → v.type = b.type
  restores : ∀ name text v, b.bind name text = .ok v → b.bind name (b.unbind name v) = .ok v
  ne_empty : ∀ name text v, b.bind name text = .ok v → text ≠ "" → b.unbind name v ≠ ""

namespace Registry

/-- The binders of the registry are lawful. -/
def Lawful (registry : Registry) : Prop :=
  ∀ type b, registry.get? type = some b → b.Lawful

variable {registry : Registry} {type name : String} {v : Value}

/-- A value that is read can be written, and is read back. -/
theorem Lawful.exists_unbind (h : registry.Lawful) {text : String}
    (bound : registry.bind type name text = .ok v) :
  ∃ written, registry.unbind type name v = .ok written
    ∧ registry.bind type name written = .ok v ∧ (text ≠ "" → written ≠ "")
  := by
  cases hb : registry.get? type with
  | none =>
    rw [Registry.bind, hb] at bound
    cases bound
  | some b =>
    obtain ⟨htyped, hrestores, hne⟩ := h type b hb
    simp only [Registry.bind, hb] at bound
    simp only [Registry.bind, unbind, hb, if_pos (htyped name text v bound)]
    exact ⟨_, rfl, hrestores name text v bound, hne name text v bound⟩

theorem Lawful.restores (h : registry.Lawful) (hv : registry.Produces type name v) :
  registry.Restores type name v
  := by
  obtain ⟨text, htext⟩ := hv
  obtain ⟨written, hwritten, hbind, -⟩ := h.exists_unbind htext
  intro text' htext'
  obtain rfl := Except.ok.inj (hwritten.symm.trans htext')
  exact hbind

theorem lawful_empty :
  empty.Lawful
  := by
  intro type b hb
  cases hb

theorem get?_register (registry : Registry) (type : String) (b : Binder) (type' : String) :
  (registry.register type b).get? type' = if type' = type then some b else registry.get? type'
  := by
  rw [get?, get?, Registry.register, List.lookup_cons]
  by_cases htype : type' = type
  · rw [htype, beq_self_eq_true, if_pos rfl]
  · rw [beq_false_of_ne htype, if_neg htype]
    simp only
    induction registry.entries with
    | nil => rfl
    | cons entry entries ih =>
      -- An entry that is filtered out has the replaced name.
      rw [List.filter_cons, List.lookup_cons]
      by_cases hentry : entry.1 = type
      · rw [if_neg (by simp [hentry]), ih, hentry, beq_false_of_ne htype]
      · rw [if_pos (by simp [hentry]), List.lookup_cons, ih]

theorem Lawful.register (h : registry.Lawful) (type : String) {b : Binder} (hb : b.Lawful) :
  (registry.register type b).Lawful
  := by
  intro type' b' hb'
  rw [get?_register] at hb'
  split at hb'
  · obtain rfl := Option.some.inj hb'
    exact hb
  · exact h type' b' hb'

end Registry

theorem Binder.lawful_text :
  (standard .text).Lawful
  := by
  constructor
  · intro name text v h
    obtain rfl := Except.ok.inj h
    rfl
  · intro name text v h
    obtain rfl := Except.ok.inj h
    rfl
  · intro name text v h hne
    obtain rfl := Except.ok.inj h
    exact hne

theorem Binder.lawful_bool :
  (standard .bool).Lawful
  := by
  have hbool : ∀ name text v, (standard .bool).bind name text = .ok v →
      v = .bool true ∨ v = .bool false := by
    intro name text v h
    simp only [standard, ofType, Value.read] at h
    by_cases htrue : text = "true"
    · left
      simpa [htrue, isFinite, eq_comm] using h
    · by_cases hfalse : text = "false"
      · right
        simpa [hfalse, isFinite, eq_comm] using h
      · simp [htrue, hfalse] at h
  constructor
  · intro name text v h
    rcases hbool name text v h with rfl | rfl <;> rfl
  · intro name text v h
    rcases hbool name text v h with rfl | rfl <;> rfl
  · intro name text v h _
    rcases hbool name text v h with rfl | rfl <;> simp [standard, ofType, Value.toText]

/-! ### Segments and texts -/

namespace Pattern

variable {p : Pattern} {path : String}

/-- The segments of a path are the pieces of a text at its end. -/
theorem exists_pathSegments (path : String) :
  ∃ rest, rest <:+ path.toList
    ∧ pathSegments path = if rest.isEmpty then [] else (rest.splitOn '/').map String.ofList
  := by
  rw [pathSegments]
  split
  · rename_i cs hcs
    use cs, hcs ▸ List.suffix_cons _ _
  · use path.toList, List.suffix_rfl

/-- A path has no single empty segment. -/
theorem pathSegments_ne_blank (path : String) :
  pathSegments path ≠ [""]
  := by
  obtain ⟨rest, -, hsegs⟩ := exists_pathSegments path
  rw [hsegs]
  intro h
  split at h
  · cases h
  · rename_i hne
    obtain ⟨seg, hsplit, hseg⟩ := List.map_eq_singleton_iff.1 h
    obtain rfl : seg = [] := by simpa using hseg
    rw [splitOn_eq_singleton_nil_iff.1 hsplit] at hne
    exact hne rfl

/-- What is in a segment is in the path. -/
theorem mem_of_mem_pathSegments {s : String} (hs : s ∈ pathSegments path) {c : Char}
    (hc : c ∈ s.toList) :
  c ∈ path.toList
  := by
  obtain ⟨rest, hrest, hsegs⟩ := exists_pathSegments path
  rw [hsegs] at hs
  split at hs
  · cases hs
  · obtain ⟨piece, hpiece, rfl⟩ := List.mem_map.1 hs
    rw [String.toList_ofList] at hc
    apply hrest.mem
    have hjoined : ['/'].intercalate (rest.splitOn '/') = rest := List.intercalate_splitOn '/'
    rw [← hjoined]
    apply mem_intercalate_of_mem hpiece hc

theorem Captures.mem_captures {segs : List String} {name text : String}
    (h : p.Captures segs name text) :
  name ∈ p.captures
  := by
  cases h with
  | segment token => exact List.mem_filterMap.2 ⟨_, List.mem_of_getElem? token, rfl⟩
  | rest token => exact List.mem_filterMap.2 ⟨_, List.mem_of_getElem? token, rfl⟩

/-- A pattern captures one text under a name. -/
theorem Captures.unique (hp : p.WellFormed) {segs : List String} (hfits : p.Fits segs)
    {name text text' : String} (h : p.Captures segs name text) (h' : p.Captures segs name text') :
  text = text'
  := by
  obtain ⟨cs, hcs⟩ := Option.isSome_iff_exists.1 ((isSome_match?_iff hp.wildcard_last).2 hfits)
  apply Option.some.inj
  rw [← (lookup_match?_iff hp hcs).2 h, ← (lookup_match?_iff hp hcs).2 h']

/-- Texts that are empty only where an empty text is captured leave no capture without a segment. -/
theorem filled_of_fits (hfits : p.Fits (pathSegments path)) {text : String → String}
    (h : ∀ name captured, p.Captures (pathSegments path) name captured → captured ≠ "" →
      text name ≠ "") :
  p.Filled text
  := by
  constructor
  · intro name hname
    obtain ⟨i, hi⟩ := List.mem_iff_getElem?.1 hname
    obtain ⟨s, hs, hne, hdecodes⟩ := hfits.single i _ hi (by simp)
    obtain ⟨captured, hcaptured⟩ := Option.isSome_iff_exists.1 hdecodes
    apply h name captured (.segment hi hs hcaptured)
    rintro rfl
    exact hne (Percent.decode_eq_empty_iff.1 hcaptured)
  · rintro name rfl
    obtain ⟨hne, hdecode⟩ := fits_wildcard_iff.1 hfits
    obtain ⟨texts, htexts⟩ := Option.isSome_iff_exists.1 (isSome_mapM_iff.2 hdecode)
    apply h name _ (@Captures.rest _ _ _ 0 texts rfl htexts)
    intro hempty
    rw [mapM_eq_some_iff] at htexts
    rcases eq_of_intercalate_eq_empty (by decide) hempty with rfl | rfl
    · exact hne (List.forall₂_nil_right_iff.1 htexts)
    · obtain ⟨s, ss, hs, hss, hsegs⟩ := List.forall₂_cons_right_iff.1 htexts
      apply pathSegments_ne_blank path
      rw [hsegs, List.forall₂_nil_right_iff.1 hss, Percent.decode_eq_empty_iff.1 hs]

end Pattern

/-! ### Accepted requests -/

namespace Route

variable {r : Route} {registry : Registry} {method : Method} {path : String} {query : Query}
  {values : NamedValues}

theorem Uses.unique {found found' : NamedValues} (h : r.Uses values found)
    (h' : r.Uses values found') :
  found = found'
  := by
  refine List.right_unique_forall₂' ?_ h h'
  rintro p ⟨name, v⟩ ⟨name', v'⟩ ⟨rfl, hv⟩ ⟨rfl, hv'⟩
  exact congrArg (Prod.mk p.name) (Option.some.inj (hv.symm.trans hv'))

/-- A value that a parameter has is one that the registry reads. -/
theorem produces_of_hasValue {d : Declaration} (built : d.build registry = .ok r) {p : Param}
    (hp : p ∈ r.params) {captured : String → String → Prop} {v : Value}
    (h : p.HasValue registry captured query v) :
  registry.Produces p.type p.name v
  := by
  cases h with
  | forced _ declared => exact ⟨_, Declaration.bind_of_build built hp declared⟩
  | path _ _ bound => exact ⟨_, bound⟩
  | query _ _ bound => exact ⟨_, bound⟩
  | default _ _ declared => exact ⟨_, Declaration.bind_of_build built hp declared⟩

/-- A path can be written if the captured values can. -/
theorem exists_pathWith (h : ∀ name ∈ r.pattern.captures, ∃ text,
    r.capturedText registry values name = .ok text) :
  ∃ path, r.pathWith registry values = .ok path
  := by
  have htokens : ∀ t ∈ r.pattern, ∃ text, r.tokenText registry values t = .ok text := by
    intro t ht
    have hcaptured : ∀ name ∈ t.captured?, ∃ text,
        r.capturedText registry values name = .ok text :=
      fun name hname => h name (List.mem_filterMap.2 ⟨t, ht, hname⟩)
    cases t with
    | literal text => exact ⟨text, rfl⟩
    | capture name =>
      obtain ⟨text, htext⟩ := hcaptured name rfl
      exact ⟨_, map_eq_ok_iff.2 ⟨text, htext, rfl⟩⟩
    | wildcard name =>
      obtain ⟨text, htext⟩ := hcaptured name rfl
      exact ⟨_, map_eq_ok_iff.2 ⟨text, htext, rfl⟩⟩
  obtain ⟨texts, htexts⟩ := exists_mapM_eq_ok htokens
  exact ⟨_, map_eq_ok_iff.2 ⟨texts, htexts, rfl⟩⟩

/-- A query can be written if the value of every parameter is given and can be written. -/
theorem exists_queryPairs (h : ∀ p ∈ r.params, ∃ v text, values.lookup p.name = some v
    ∧ registry.unbind p.type p.name v = .ok text) :
  ∃ pairs, r.queryPairs registry values = .ok pairs
  := by
  have hpairs : ∀ p ∈ r.params, ∃ pair, queryPair? registry values p = .ok pair := by
    intro p hp
    obtain ⟨v, text, hgiven, htext⟩ := h p hp
    rw [queryPair?]
    split
    · exact ⟨none, rfl⟩
    · rw [hgiven]
      exact ⟨_, map_eq_ok_iff.2 ⟨text, htext, rfl⟩⟩
  obtain ⟨pairs, hpairs⟩ := exists_mapM_eq_ok hpairs
  exact ⟨_, map_eq_ok_iff.2 ⟨pairs, hpairs, rfl⟩⟩

/-- The value that a parameter has is used for it if it is given. -/
theorem valueFor?_of_hasValue {p : Param} {captured : String → String → Prop} {v : Value}
    (h : p.HasValue registry captured query v) (given : values.lookup p.name = some v) :
  valueFor? p values = some v
  := by
  by_cases hforced : p.source = .forced
  · cases h with
    | forced _ declared => rw [valueFor?, if_pos hforced, declared, Option.map_some]
    | path source => cases hforced.symm.trans source
    | query source => cases hforced.symm.trans source
    | default source => cases hforced.symm.trans source
  · rw [valueFor?, if_neg hforced, given]
    rfl

namespace Accepts

/-- Every value is found under its name. -/
theorem lookup_of_mem (h : r.Accepts registry method path query values) (hr : r.WellFormed)
    {v : String × Value} (hv : v ∈ values) :
  values.lookup v.1 = some v.2
  := by
  have hnames : values.map Prod.fst = r.params.map Param.name := by
    apply map_eq_map_of_forall₂ h.bound
    intro p v hv
    exact hv.1
  rw [lookup_eq_some_iff_mem (hnames ▸ hr.names_nodup)]
  exact hv

/-- Every parameter has a value, which is found under its name. -/
theorem exists_value (h : r.Accepts registry method path query values) (hr : r.WellFormed)
    {p : Param} (hp : p ∈ r.params) :
  ∃ v, values.lookup p.name = some v
    ∧ p.HasValue registry (r.pattern.Captures (Pattern.pathSegments path)) query v
  := by
  obtain ⟨⟨name, v⟩, hv, rfl, hhas⟩ := exists_mem_of_forall₂ h.bound.flip hp
  exact ⟨v, h.lookup_of_mem hr hv, hhas⟩

/-- The values with which a route accepts are those that are used for its parameters. -/
theorem uses (h : r.Accepts registry method path query values) (hr : r.WellFormed) :
  r.Uses values values
  := by
  have hbound := (List.forall₂_and_left (p := (· ∈ values)) _ _).2 ⟨fun _ hv => hv, h.bound.flip⟩
  apply hbound.flip.imp
  rintro p ⟨name, v⟩ ⟨hv, rfl, hhas⟩
  exact ⟨rfl, valueFor?_of_hasValue hhas (h.lookup_of_mem hr hv)⟩

/-- A captured value can be written, and not as the empty text, for none was captured. -/
theorem exists_capturedText (h : r.Accepts registry method path query values) (hr : r.WellFormed)
    (lawful : registry.Lawful)
    (free : ∀ p ∈ r.params, p.source = .forced → p.name ∉ r.pattern.captures) {name : String}
    (hname : name ∈ r.pattern.captures) :
  ∃ text written, r.pattern.Captures (Pattern.pathSegments path) name text
    ∧ r.capturedText registry values name = .ok written ∧ (text ≠ "" → written ≠ "")
  := by
  obtain ⟨p, hp, rfl⟩ := List.mem_map.1 (hr.captures_declared name hname)
  obtain ⟨v, hgiven, hhas⟩ := h.exists_value hr hp
  have hvalue := valueFor?_of_hasValue hhas hgiven
  cases hhas with
  | forced source => exact absurd hname (free p hp source)
  | @path text _ _ here bound =>
    obtain ⟨written, hwritten, -, hne⟩ := lawful.exists_unbind bound
    use text, written, here, ?_, hne
    rw [capturedText, param?_of_mem hr hp]
    simp only [hvalue]
    exact hwritten
  | query source => exact absurd hname (hr.query_not_captured p hp source)
  | default source => exact absurd hname (hr.query_not_captured p hp source)

/-- The values with which a route accepts can be written as a target. -/
theorem exists_reverse (h : r.Accepts registry method path query values) {d : Declaration}
    (built : d.build registry = .ok r) (lawful : registry.Lawful)
    (free : ∀ p ∈ r.params, p.source = .forced → p.name ∉ r.pattern.captures) :
  ∃ url, r.reverse registry values = .ok url
  := by
  have hr : r.WellFormed := Validated.wellFormed ⟨registry, d, built⟩
  have hpath : ∃ written, r.pathWith registry values = .ok written := by
    apply exists_pathWith
    intro name hname
    obtain ⟨-, written, -, hwritten, -⟩ := h.exists_capturedText hr lawful free hname
    exact ⟨written, hwritten⟩
  have hpairs : ∃ pairs, r.queryPairs registry values = .ok pairs := by
    apply exists_queryPairs
    intro p hp
    obtain ⟨v, hgiven, hhas⟩ := h.exists_value hr hp
    obtain ⟨text, htext⟩ := produces_of_hasValue built hp hhas
    obtain ⟨written, hwritten, -⟩ := lawful.exists_unbind htext
    exact ⟨v, written, hgiven, hwritten⟩
  obtain ⟨written, hwritten⟩ := hpath
  obtain ⟨pairs, hpairs⟩ := hpairs
  simp only [reverse, hwritten, hpairs, bind, Except.bind]
  split <;> exact ⟨_, rfl⟩

/-- The texts in which the captured values are written leave no capture without a segment. -/
theorem filled (h : r.Accepts registry method path query values) (hr : r.WellFormed)
    (lawful : registry.Lawful)
    (free : ∀ p ∈ r.params, p.source = .forced → p.name ∉ r.pattern.captures) :
  r.pattern.Filled (r.textOf registry values)
  := by
  apply Pattern.filled_of_fits h.fits
  intro name captured hcaptured hne
  obtain ⟨text, written, htext, hwritten, hwritten_ne⟩ :=
    h.exists_capturedText hr lawful free hcaptured.mem_captures
  rw [textOf_of_ok hwritten]
  apply hwritten_ne
  rwa [htext.unique hr.pattern h.fits hcaptured]

/-- The literals of a route that accepts a path are in the path. -/
theorem mem_of_literal (h : r.Accepts registry method path query values) {text : String}
    (htext : .literal text ∈ r.pattern) {c : Char} (hc : c ∈ text.toList) :
  c ∈ path.toList
  := by
  obtain ⟨i, hi⟩ := List.mem_iff_getElem?.1 htext
  obtain ⟨s, hs, rfl⟩ := h.fits.single i _ hi (by simp)
  apply Pattern.mem_of_mem_pathSegments (List.mem_of_getElem? hs) hc

/-- A target can be written with the values with which a route accepts, and the route takes it with
the same values. -/
theorem canonical (h : r.Accepts registry method path query values) {d : Declaration}
    (built : d.build registry = .ok r) (lawful : registry.Lawful)
    (free : ∀ p ∈ r.params, p.source = .forced → p.name ∉ r.pattern.captures)
    (question : '?' ∉ path.toList) :
  ∃ url, r.reverse registry values = .ok url
    ∧ ∀ request : Request, request.method = r.method →
      (request.path, request.queryText) = Request.splitTarget url →
      Router.findRequest ⟨[r], registry⟩ request = .ok ⟨0, r, values⟩
  := by
  have hr : r.WellFormed := Validated.wellFormed ⟨registry, d, built⟩
  obtain ⟨url, hurl⟩ := h.exists_reverse built lawful free
  use url, hurl
  intro request hmethod htarget
  have hliterals : ∀ text, .literal text ∈ r.pattern → '?' ∉ text.toList :=
    fun text htext hmem => question (h.mem_of_literal htext hmem)
  obtain ⟨path', pairs, hpath, hpairs, hsplit⟩ := splitTarget_reverse hliterals hurl
  obtain ⟨rfl, hqueryText⟩ := Prod.mk.inj (htarget.trans hsplit)
  have hrestores : ∀ p ∈ r.params, ∀ v, valueFor? p values = some v →
      registry.Restores p.type p.name v := by
    intro p hp v hv
    obtain ⟨v', hgiven, hhas⟩ := h.exists_value hr hp
    obtain rfl := Option.some.inj (hv.symm.trans (valueFor?_of_hasValue hhas hgiven))
    exact lawful.restores (produces_of_hasValue built hp hhas)
  obtain ⟨found, hfound, huses⟩ := Router.attempt_written hr hpath hpairs hrestores
    (h.filled hr lawful free)
  rw [Router.findRequest, hmethod, query_of_splitTarget hqueryText,
    Router.find_singleton_of_ok hfound, huses.unique (h.uses hr)]

end Accepts

end Route

namespace Router

/-- What a router finds can be written as a target, and a router with only the found route finds
the route for that target, with the same values. -/
theorem exists_reverse_of_find {registry : Registry} {base table : String} {router : Router}
    {method : Method} {path : String} {query : Query} {found : RouteMatch}
    (loaded : ofTable registry base table = .ok router) (lawful : registry.Lawful)
    (question : '?' ∉ path.toList) (hfound : router.find method path query = .ok found)
    (free : ∀ p ∈ found.route.params, p.source = .forced →
      p.name ∉ found.route.pattern.captures) :
  ∃ url, found.route.reverse registry found.values = .ok url
    ∧ ∀ request : Request, request.method = method →
      (request.path, request.queryText) = Request.splitTarget url →
      findRequest ⟨[found.route], registry⟩ request = .ok ⟨0, found.route, found.values⟩
  := by
  obtain ⟨routes, hread, rfl⟩ := map_eq_ok_iff.1 loaded
  have hbuilt : ∀ r ∈ routes, ∃ d : Declaration, d.build registry = .ok r := by
    intro r hr
    obtain ⟨m, line, -, hline⟩ := RouteTable.exists_line_of_readLines hread hr
    obtain ⟨d, -, hbuild⟩ := RouteTable.readLine_eq_ok_iff.1 hline
    exact ⟨_, hbuild⟩
  have hwellFormed : ∀ r ∈ routes, r.WellFormed := by
    intro r hr
    obtain ⟨d, hd⟩ := hbuilt r hr
    exact Route.Validated.wellFormed ⟨registry, d, hd⟩
  have hfirst := (candidates_eq_some_iff hwellFormed).1 (find_eq_ok_iff.1 hfound)
  obtain ⟨d, hd⟩ := hbuilt _ (List.mem_of_getElem? hfirst.route)
  rw [← hfirst.accepts.method]
  exact hfirst.accepts.canonical hd lawful free question

/-- Binders for texts and truth values. -/
def listingRegistry : Registry := textRegistry.register "Boolean" (Binder.standard .bool)

/-- A route with a capture, a wildcard, a default and a fixed value. -/
def listingTable : String :=
  "GET /:owner/*rest Files.list(String owner, String rest, Boolean all ?= false, String lang = en)"

/-- The route of `listingTable` under the base path `/files/`. -/
def listingRoute : Route where
  method := ⟨"GET"⟩
  path := "/files/:owner/*rest"
  pattern := [.literal "files", .capture "owner", .wildcard "rest"]
  handler := "Files.list"
  params := [⟨"owner", "String", .path, none⟩, ⟨"rest", "String", .path, none⟩,
    ⟨"all", "Boolean", .query, some ⟨"false", .bool false⟩⟩,
    ⟨"lang", "String", .forced, some ⟨"en", .text "en"⟩⟩]
  modifiers := []
  line := 1

/-- The values that the route gets from `/files/a%2fb//x+y/%20?all=true`. -/
def listingValues : NamedValues :=
  [("owner", .text "a/b"), ("rest", .text "/x+y/ "), ("all", .bool true), ("lang", .text "en")]

theorem exists_reverse_of_find_listing :
  find ⟨[listingRoute], listingRegistry⟩ ⟨"GET"⟩ "/files/a%2fb//x+y/%20" ⟨[("all", "true")]⟩
      = .ok ⟨0, listingRoute, listingValues⟩
    ∧ listingRoute.reverse listingRegistry listingValues
      = .ok "/files/a%2Fb//x%2By/%20?all=true"
    ∧ findRequest ⟨[listingRoute], listingRegistry⟩
        ⟨⟨"GET"⟩, "/files/a%2Fb//x%2By/%20", 1, ⟨[]⟩, some "all=true", []⟩
      = .ok ⟨0, listingRoute, listingValues⟩
  := by
  have lawful : listingRegistry.Lawful :=
    (Registry.lawful_empty.register "String" Binder.lawful_text).register "Boolean"
      Binder.lawful_bool
  have loaded : ofTable listingRegistry "/files/" listingTable
      = .ok ⟨[listingRoute], listingRegistry⟩ := by
    have hread : RouteTable.read listingRegistry "/files/" listingTable = .ok [listingRoute] := by
      decide +kernel
    exact map_eq_ok_iff.2 ⟨_, hread, rfl⟩
  have hfound : find ⟨[listingRoute], listingRegistry⟩ ⟨"GET"⟩ "/files/a%2fb//x+y/%20"
      ⟨[("all", "true")]⟩ = .ok ⟨0, listingRoute, listingValues⟩ := by decide +kernel
  have free : ∀ p ∈ listingRoute.params, p.source = .forced →
      p.name ∉ listingRoute.pattern.captures := by decide
  obtain ⟨url, hurl, hrequest⟩ := exists_reverse_of_find loaded lawful (by decide) hfound free
  have hwritten : listingRoute.reverse listingRegistry listingValues
      = .ok "/files/a%2Fb//x%2By/%20?all=true" := by decide +kernel
  obtain rfl := Except.ok.inj (hurl.symm.trans hwritten)
  use hfound, hurl
  apply hrequest _ rfl
  decide +kernel

end Router

end HttpDispatch
