import HttpDispatch.Proofs.Route.Validation

/-!
# Declarations that denote a route

A declaration is acceptable if its path, its captures and its parameters are as they should be,
said of the text of the path and of the declared parameters: `Declaration.Acceptable`.  Exactly the
acceptable declarations denote a route, and the route says what the declaration says: its pattern
is written as the declared path, and each parameter has the source and the value that its
declaration and the path give it.
-/

namespace HttpDispatch

open Fallible Text

/-! ### Paths -/

namespace Pattern

/-- The name that a segment captures, which stands after its mark. -/
def captureName? : List Char → Option String
  | ':' :: name => some (String.ofList name)
  | '*' :: name => some (String.ofList name)
  | _ => none

/-- The segments of a path that denotes a pattern: only the last one may be empty or begin with a
star, and the names that are captured are identifiers and different from each other. -/
structure Segmented (segs : List (List Char)) : Prop where
  ne_nil : ∀ seg ∈ segs.dropLast, seg ≠ []
  star_last : ∀ seg ∈ segs.dropLast, seg.head? ≠ some '*'
  identifiers : ∀ name ∈ segs.filterMap captureName?, isIdentifier name = true
  names_nodup : (segs.filterMap captureName?).Nodup

theorem captured?_ofSegment (seg : List Char) :
  (PathToken.ofSegment seg).captured? = captureName? seg
  := by
  rw [PathToken.ofSegment.eq_def]
  split
  · rfl
  · rfl
  · rename_i hcolon hstar
    rw [captureName?]
    · rfl
    · exact hcolon
    · exact hstar

theorem ofSegment_eq_wildcard_iff {seg : List Char} :
  (∃ name, PathToken.ofSegment seg = .wildcard name) ↔ seg.head? = some '*'
  := by
  rw [PathToken.ofSegment.eq_def]
  split <;> simp_all [List.head?_eq_some_iff]

theorem captures_map_ofSegment (segs : List (List Char)) :
  captures (segs.map PathToken.ofSegment) = segs.filterMap captureName?
  := by
  rw [captures, List.filterMap_map]
  apply List.filterMap_congr
  intro seg _
  apply captured?_ofSegment

theorem captureNames_cons (seg : List Char) (segs : List (List Char)) :
  (seg :: segs).filterMap captureName?
    = (captureName? seg).toList ++ segs.filterMap captureName?
  := by
  rw [List.filterMap_cons]
  cases captureName? seg <;> rfl

theorem mem_captureNames_cons_iff {seg : List Char} {segs : List (List Char)} {name : String} :
  name ∈ (seg :: segs).filterMap captureName?
    ↔ captureName? seg = some name ∨ name ∈ segs.filterMap captureName?
  := by
  rw [captureNames_cons, List.mem_append, Option.mem_toList]

theorem segmented_nil :
  Segmented []
  := by constructor <;> simp

/-- What one more segment at the front of others has to be. -/
theorem segmented_cons_iff {seg : List Char} {segs : List (List Char)} :
  Segmented (seg :: segs) ↔ (seg = [] → segs = []) ∧ (seg.head? = some '*' → segs = [])
    ∧ (∀ name, captureName? seg = some name →
        isIdentifier name = true ∧ name ∉ segs.filterMap captureName?)
    ∧ Segmented segs
  := by
  have hlast : ∀ P : List Char → Prop, (∀ s ∈ (seg :: segs).dropLast, P s)
      ↔ (segs ≠ [] → P seg) ∧ ∀ s ∈ segs.dropLast, P s := by
    intro P
    cases segs with
    | nil => simp
    | cons seg' segs => rw [List.dropLast_cons_cons, List.forall_mem_cons]; simp
  constructor
  · rintro ⟨hne, hstar, hidentifiers, hnodup⟩
    rw [hlast] at hne hstar
    rw [captureNames_cons] at hidentifiers hnodup
    refine ⟨fun hseg => by_contra fun h => hne.1 h hseg,
      fun hseg => by_contra fun h => hstar.1 h hseg, ?_, hne.2, hstar.2, ?_, ?_⟩
    · intro name hname
      rw [hname] at hidentifiers hnodup
      use hidentifiers name List.mem_cons_self
      apply (List.nodup_cons.1 hnodup).1
    · intro name hname
      apply hidentifiers name (List.mem_append_right _ hname)
    · apply (List.nodup_append.1 hnodup).2.1
  · rintro ⟨hempty, hlone, hname, hsegs⟩
    constructor
    · rw [hlast]
      use fun h hseg => h (hempty hseg), hsegs.ne_nil
    · rw [hlast]
      use fun h hseg => h (hlone hseg), hsegs.star_last
    · rw [captureNames_cons]
      cases hcaptured : captureName? seg with
      | none => exact hsegs.identifiers
      | some name =>
        rw [Option.toList_some, List.singleton_append, List.forall_mem_cons]
        use (hname name hcaptured).1, hsegs.identifiers
    · rw [captureNames_cons]
      cases hcaptured : captureName? seg with
      | none => exact hsegs.names_nodup
      | some name => apply List.nodup_cons.2 ⟨(hname name hcaptured).2, hsegs.names_nodup⟩

/-- Segments are read if they are those of a path, bring no name that is there already, and do not
follow a wildcard. -/
theorem readSegments_eq_ok_iff {path : String} {names : List String}
    {previous : Option PathToken} {segs : List (List Char)} {p : Pattern} :
  readSegments path names previous segs = .ok p
    ↔ p = segs.map PathToken.ofSegment
      ∧ Segmented segs
      ∧ (∀ name ∈ segs.filterMap captureName?, name ∉ names)
      ∧ ((∃ name, previous = some (.wildcard name)) → segs = [])
  := by
  induction segs generalizing names previous p with
  | nil => simp [readSegments, segmented_nil, eq_comm]
  | cons seg segs ih =>
    rw [readSegments_cons_iff, segmented_cons_iff]
    simp only [ih, captured?_ofSegment, Option.some.injEq, ofSegment_eq_wildcard_iff,
      List.mem_append, Option.mem_toList]
    constructor
    · rintro ⟨_, rfl, hempty, hprevious, hname, rfl, hsegs, hnew, hlone⟩
      refine ⟨rfl, ⟨hempty, hlone, fun name hcaptured => ⟨(hname name hcaptured).1, fun hmem =>
        hnew name hmem (.inl hcaptured)⟩, hsegs⟩, ?_, ?_⟩
      · intro name hmem
        rcases mem_captureNames_cons_iff.1 hmem with hcaptured | hmem
        · apply (hname name hcaptured).2
        · intro hold
          apply hnew name hmem (.inr hold)
      · rintro ⟨name, hwildcard⟩
        exact absurd hwildcard (hprevious name)
    · rintro ⟨rfl, ⟨hempty, hlone, hname, hsegs⟩, hnew, hprevious⟩
      refine ⟨_, rfl, hempty, fun name hwildcard => ?_, fun name hcaptured =>
        ⟨(hname name hcaptured).1, ?_⟩, rfl, hsegs, ?_, hlone⟩
      · cases hprevious ⟨name, hwildcard⟩
      · apply hnew name (mem_captureNames_cons_iff.2 (.inl hcaptured))
      · rintro name hmem (hcaptured | hold)
        · apply (hname name hcaptured).2 hmem
        · apply hnew name (mem_captureNames_cons_iff.2 (.inr hmem)) hold

/-- A path denotes a pattern if it begins with a slash and the pieces between the slashes after it
are the segments of a path. -/
theorem read_eq_ok_iff {path : String} {p : Pattern} :
  read path = .ok p ↔ path.toList.head? = some '/'
    ∧ Segmented (path.toList.tail.splitOn '/')
    ∧ p = (segments path.toList.tail).map PathToken.ofSegment
  := by
  rw [read]
  split
  · rename_i cs hpath
    rw [hpath, readSegments_eq_ok_iff, List.head?_cons, List.tail_cons]
    cases cs with
    | nil => simp [segments, segmented_cons_iff, segmented_nil, captureName?]
    | cons c cs => simp [segments, and_comm]
  · rename_i hpath
    simp only [reduceCtorEq, false_iff, not_and]
    intro hhead
    obtain ⟨cs, hcs⟩ := List.head?_eq_some_iff.1 hhead
    exact absurd hcs (hpath cs)

/-- The tokens of the pieces between slashes are written as the pieces. -/
theorem intercalate_segment (cs : List Char) :
  "/".intercalate (((segments cs).map PathToken.ofSegment).map PathToken.segment) = String.ofList cs
  := by
  have hsegment : PathToken.segment ∘ PathToken.ofSegment = String.ofList := by
    funext seg
    apply PathToken.segment_ofSegment
  rw [List.map_map, hsegment]
  cases cs with
  | nil => rfl
  | cons c cs =>
    have hjoined := intercalate_splitOn_toList '/' "/" rfl (String.ofList (c :: cs))
    rw [String.toList_ofList] at hjoined
    exact hjoined

end Pattern

/-! ### Parameters -/

namespace ValueRule

variable {rule : ValueRule} {captured : Bool}

theorem source_eq_forced_iff :
  rule.source captured = .forced ↔ ∃ text, rule = .forced text
  := by cases rule <;> cases captured <;> simp [source]

theorem source_eq_path_iff :
  rule.source captured = .path ↔ (¬ ∃ text, rule = .forced text) ∧ captured = true
  := by cases rule <;> cases captured <;> simp [source]

theorem source_eq_query_iff :
  rule.source captured = .query ↔ (¬ ∃ text, rule = .forced text) ∧ captured = false
  := by cases rule <;> cases captured <;> simp [source]

end ValueRule

namespace ParamDeclaration

/-- The text that is declared for the parameter, if there is one, binds to a value. -/
def Binds (registry : Registry) (d : ParamDeclaration) : Prop :=
  ∀ text, d.rule.text? = some text → ∃ v, registry.bind d.type d.name text = .ok v

/-- The parameter says what the declaration says, in a path that captures the given names. -/
structure Yields (registry : Registry) (captured : List String) (d : ParamDeclaration)
    (p : Param) : Prop where
  name : p.name = d.name
  type : p.type = d.type
  forced_iff : p.source = .forced ↔ ∃ text, d.rule = .forced text
  path_iff : p.source = .path ↔ (¬ ∃ text, d.rule = .forced text) ∧ d.name ∈ captured
  query_iff : p.source = .query ↔ (¬ ∃ text, d.rule = .forced text) ∧ d.name ∉ captured
  text : p.declared.map DeclaredValue.raw = d.rule.text?
  value : ∀ v, p.declared = some v → registry.bind d.type d.name v.raw = .ok v.value

variable {registry : Registry} {captured : List String} {d : ParamDeclaration}

theorem exists_declared_iff :
  (∃ v, d.declared registry = .ok v) ↔ d.Binds registry
  := by
  rw [declared, Binds]
  cases d.rule.text? with
  | none => simp
  | some text =>
    simp only [Option.some.injEq, forall_eq']
    cases registry.bind d.type d.name text <;> simp

/-- A declaration of a parameter denotes one if its type is registered and its text binds. -/
theorem exists_build_iff :
  (∃ p, d.build registry captured = .ok p) ↔ registry.accepts d.type = true ∧ d.Binds registry
  := by
  rw [build, ← exists_declared_iff]
  split
  · rename_i haccepts
    simp [haccepts, map_eq_ok_iff]
  · rename_i haccepts
    simp [haccepts]

theorem yields_of_build {p : Param} (h : d.build registry captured = .ok p) :
  d.Yields registry captured p
  := by
  obtain ⟨hname, htype, hsource, hdeclared⟩ := of_build h
  refine ⟨hname, htype, ?_, ?_, ?_, raw_of_declared hdeclared, ?_⟩
  · rw [hsource, ValueRule.source_eq_forced_iff]
  · rw [hsource, ValueRule.source_eq_path_iff, List.contains_iff_mem]
  · rw [hsource, ValueRule.source_eq_query_iff, ← Bool.not_eq_true, List.contains_iff_mem]
  · intro v hv
    apply bind_of_declared (hdeclared.trans (congrArg _ hv))

end ParamDeclaration

/-! ### Routes -/

namespace Declaration

/-- The pieces of the path between the slashes after its first character. -/
def segments (d : Declaration) : List (List Char) := d.path.toList.tail.splitOn '/'

/-- The names that the path captures. -/
def captureNames (d : Declaration) : List String := d.segments.filterMap Pattern.captureName?

/-- What a declaration has to be to denote a route. -/
structure Acceptable (registry : Registry) (d : Declaration) : Prop where
  rooted : d.path.toList.head? = some '/'
  segmented : Pattern.Segmented d.segments
  names_nodup : (d.params.map ParamDeclaration.name).Nodup
  types_registered : ∀ p ∈ d.params, registry.accepts p.type = true
  texts_bind : ∀ p ∈ d.params, p.Binds registry
  captures_declared : ∀ name ∈ d.captureNames, name ∈ d.params.map ParamDeclaration.name

/-- The route says what the declaration says. -/
structure Yields (registry : Registry) (d : Declaration) (r : Route) : Prop where
  method : r.method = d.method
  path : r.path = d.path
  written : "/" ++ "/".intercalate (r.pattern.map PathToken.segment) = d.path
  captures : r.pattern.captures = d.captureNames
  handler : r.handler = d.handler
  params : List.Forall₂ (ParamDeclaration.Yields registry d.captureNames) d.params r.params
  modifiers : r.modifiers = d.modifiers
  line : r.line = d.line

theorem captures_of_read {d : Declaration} {p : Pattern} (h : Pattern.read d.path = .ok p) :
  p.captures = d.captureNames
  := by
  obtain ⟨-, -, rfl⟩ := Pattern.read_eq_ok_iff.1 h
  rw [Pattern.captures_map_ofSegment, captureNames, segments]
  cases d.path.toList.tail with
  | nil => rfl
  | cons c cs => rfl

theorem unbound?_eq_none_iff {d : Declaration} {captures : List String} :
  d.unbound? captures = none ↔ ∀ name ∈ captures, name ∈ d.params.map ParamDeclaration.name
  := by
  rw [unbound?, List.find?_eq_none]
  simp

theorem yields_of_build {registry : Registry} {d : Declaration} {r : Route}
    (h : d.build registry = .ok r) :
  d.Yields registry r
  := by
  obtain ⟨pattern, params, hpattern, hparams, -, rfl⟩ := build_eq_ok_iff.1 h
  have hcaptures := captures_of_read hpattern
  obtain ⟨hrooted, -, hp⟩ := Pattern.read_eq_ok_iff.1 hpattern
  refine ⟨rfl, rfl, ?_, hcaptures, rfl, ?_, rfl, rfl⟩
  · obtain ⟨cs, hcs⟩ := List.head?_eq_some_iff.1 hrooted
    rw [hcs, List.tail_cons] at hp
    rw [hp, Pattern.intercalate_segment, ← String.toList_inj, hcs, String.toList_append]
    simp only [String.toList_ofList]
    rfl
  · rw [← hcaptures]
    apply (buildParams_eq_ok_iff.1 hparams).1.imp
    intro p q hq
    apply ParamDeclaration.yields_of_build hq

theorem exists_buildParams_iff {registry : Registry} {captures : List String}
    {ds : List ParamDeclaration} :
  (∃ ps, buildParams registry captures [] ds = .ok ps)
    ↔ (ds.map ParamDeclaration.name).Nodup ∧ (∀ p ∈ ds, registry.accepts p.type = true)
      ∧ ∀ p ∈ ds, p.Binds registry
  := by
  simp only [buildParams_eq_ok_iff]
  constructor
  · rintro ⟨ps, hbuilt, hnodup, -⟩
    have hall : ∀ p ∈ ds, registry.accepts p.type = true ∧ p.Binds registry := by
      intro p hp
      obtain ⟨q, -, hq⟩ := exists_mem_of_forall₂ hbuilt.flip hp
      exact ParamDeclaration.exists_build_iff.1 ⟨q, hq⟩
    exact ⟨hnodup, fun p hp => (hall p hp).1, fun p hp => (hall p hp).2⟩
  · rintro ⟨hnodup, haccepts, hbinds⟩
    obtain ⟨ps, hps⟩ := exists_forall₂_of_mem fun p hp =>
      ParamDeclaration.exists_build_iff.2 ⟨haccepts p hp, hbinds p hp⟩
    use ps, hps, hnodup
    simp

/-- Exactly the acceptable declarations denote a route, and the route says what the declaration
says. -/
theorem build_iff_acceptable (registry : Registry) (d : Declaration) :
  ((∃ r, d.build registry = .ok r) ↔ d.Acceptable registry)
    ∧ ∀ r, d.build registry = .ok r → d.Yields registry r
  := by
  refine ⟨?_, fun r => yields_of_build⟩
  constructor
  · rintro ⟨r, h⟩
    obtain ⟨pattern, params, hpattern, hparams, hunbound, rfl⟩ := build_eq_ok_iff.1 h
    obtain ⟨hrooted, hsegmented, -⟩ := Pattern.read_eq_ok_iff.1 hpattern
    obtain ⟨hnodup, haccepts, hbinds⟩ := exists_buildParams_iff.1 ⟨params, hparams⟩
    refine ⟨hrooted, hsegmented, hnodup, haccepts, hbinds, ?_⟩
    rw [← captures_of_read hpattern]
    exact unbound?_eq_none_iff.1 hunbound
  · rintro ⟨hrooted, hsegmented, hnodup, haccepts, hbinds, hdeclared⟩
    have hpattern := Pattern.read_eq_ok_iff.2 ⟨hrooted, hsegmented, rfl⟩
    rw [← captures_of_read hpattern] at hdeclared
    obtain ⟨params, hparams⟩ := exists_buildParams_iff.2 ⟨hnodup, haccepts, hbinds⟩
    exact ⟨_, build_eq_ok_iff.2 ⟨_, params, hpattern, hparams,
      unbound?_eq_none_iff.2 hdeclared, rfl⟩⟩

/-- A declaration with a capture, a wildcard, a default and a fixed value. -/
def files : Declaration :=
  ((((Declaration.new ⟨"GET"⟩ "/files/:owner/*path" "Files.get").param "String" "path").param
    "Long" "owner").defaulted "Integer" "depth" "20").forced "String" "mode" "it's"

theorem build_iff_acceptable_files :
  files.Acceptable .standard ∧ ∃ r, files.build .standard = .ok r ∧ files.Yields .standard r
  := by
  have hbuild : ∃ r, files.build .standard = .ok r := ⟨_, rfl⟩
  use (build_iff_acceptable .standard files).1.1 hbuild
  obtain ⟨r, hr⟩ := hbuild
  use r, hr
  apply (build_iff_acceptable .standard files).2 r hr

end Declaration

end HttpDispatch
