import HttpDispatch.Proofs.Fallible
import HttpDispatch.Proofs.Text.Pieces
import HttpDispatch.Route.Declaration

/-!
# Validated routes

What building a route checks, as a property of the route: `Pattern.WellFormed` of its pattern
and `Route.WellFormed` of its parameters.  Every route that a declaration denotes has it, with
whatever binders it was built.
-/

namespace HttpDispatch

open Fallible

/-! ### Patterns -/

/-- A token is written as the segment that denotes it. -/
theorem PathToken.segment_ofSegment (seg : List Char) :
  (ofSegment seg).segment = String.ofList seg
  := by
  rw [← String.toList_inj, ofSegment.eq_def]
  split <;> simp [segment]

namespace Pattern

/-- Nothing follows a wildcard. -/
def WildcardLast (p : Pattern) : Prop :=
  ∀ front name back, p = front ++ .wildcard name :: back → back = []

theorem WildcardLast.tail {t : PathToken} {p : Pattern} (h : WildcardLast (t :: p)) :
  WildcardLast p
  := by
  rintro front name back rfl
  apply h (t :: front) name back rfl

/-- What holds of every pattern that a path denotes. -/
structure WellFormed (p : Pattern) : Prop where
  wildcard_last : p.WildcardLast
  captures_nodup : p.captures.Nodup
  slash_notMem : ∀ text, .literal text ∈ p → '/' ∉ text.toList
  /-- An empty segment follows another one. -/
  ne_blank : p ≠ [.literal ""]

/-- What reading one more segment checks. -/
theorem readSegments_cons_iff {path : String} {names : List String} {previous : Option PathToken}
    {seg : List Char} {segs : List (List Char)} {p : Pattern} :
  readSegments path names previous (seg :: segs) = .ok p
    ↔ ∃ q, p = PathToken.ofSegment seg :: q
      ∧ (seg = [] → segs = [])
      ∧ (∀ name, previous ≠ some (.wildcard name))
      ∧ (∀ name, (PathToken.ofSegment seg).captured? = some name →
          isIdentifier name ∧ name ∉ names)
      ∧ readSegments path ((PathToken.ofSegment seg).captured?.toList ++ names)
          (some (PathToken.ofSegment seg)) segs = .ok q
  := by
  simp only [readSegments]
  constructor
  · intro h
    split at h
    · exact nomatch h
    · rename_i hseg
      have hempty : seg = [] → segs = [] := by
        rintro rfl
        simpa using hseg
      split at h
      · exact nomatch h
      · rename_i hprevious
        split at h
        · rename_i hcaptured
          obtain ⟨q, hq, rfl⟩ := map_eq_ok_iff.1 h
          use q, rfl, hempty, hprevious
          simp [hcaptured, hq]
        · rename_i name hcaptured
          split at h
          · exact nomatch h
          · rename_i hname
            split at h
            · exact nomatch h
            · rename_i hnew
              obtain ⟨q, hq, rfl⟩ := map_eq_ok_iff.1 h
              use q, rfl, hempty, hprevious
              simp_all
  · rintro ⟨q, rfl, hempty, hprevious, hnew, hq⟩
    have hseg : ¬ (seg.isEmpty = true ∧ (! segs.isEmpty) = true) := by simpa using hempty
    rw [if_neg hseg]
    split
    · exact absurd rfl (hprevious _)
    · split
      · rename_i hcaptured
        rw [hcaptured] at hq
        exact map_eq_ok_iff.2 ⟨q, hq, rfl⟩
      · rename_i name hcaptured
        obtain ⟨hname, hnames⟩ := hnew name hcaptured
        rw [hcaptured] at hq
        rw [if_neg (by simpa using hname), if_neg (by simpa using hnames)]
        exact map_eq_ok_iff.2 ⟨q, hq, rfl⟩

/-- The tokens are those that the segments denote. -/
theorem eq_map_of_readSegments {path : String} {names : List String}
    {previous : Option PathToken} {segs : List (List Char)} {p : Pattern}
    (h : readSegments path names previous segs = .ok p) :
  p = segs.map PathToken.ofSegment
  := by
  induction segs generalizing names previous p with
  | nil =>
    obtain rfl := Except.ok.inj h
    rfl
  | cons seg segs ih =>
    obtain ⟨q, rfl, -, -, -, hq⟩ := readSegments_cons_iff.1 h
    rw [ih hq]
    rfl

theorem wildcardLast_of_readSegments {path : String} {names : List String}
    {previous : Option PathToken} {segs : List (List Char)} {p : Pattern}
    (h : readSegments path names previous segs = .ok p) :
  p.WildcardLast
  := by
  intro front name back hp
  induction segs generalizing names previous p front with
  | nil =>
    obtain rfl := Except.ok.inj h
    simp at hp
  | cons seg segs ih =>
    obtain ⟨q, rfl, -, -, -, hq⟩ := readSegments_cons_iff.1 h
    cases front with
    | nil =>
      obtain ⟨hseg, rfl⟩ := List.cons.inj hp
      -- The wildcard is the token before the segments that remain, so none does.
      cases segs with
      | nil => exact (Except.ok.inj hq).symm
      | cons seg' segs =>
        obtain ⟨_, -, -, hprevious, -⟩ := readSegments_cons_iff.1 hq
        exact absurd (congrArg some hseg) (hprevious name)
    | cons t front =>
      obtain ⟨-, hq'⟩ := List.cons.inj hp
      apply ih hq _ hq'

theorem captures_cons (t : PathToken) (p : Pattern) :
  captures (t :: p) = t.captured?.toList ++ captures p
  := by
  cases t <;> rfl

/-- The names that are captured are new and different from each other. -/
theorem captures_of_readSegments {path : String} {names : List String}
    {previous : Option PathToken} {segs : List (List Char)} {p : Pattern}
    (h : readSegments path names previous segs = .ok p) :
  p.captures.Nodup ∧ ∀ name ∈ p.captures, name ∉ names
  := by
  induction segs generalizing names previous p with
  | nil =>
    obtain rfl := Except.ok.inj h
    simp [captures]
  | cons seg segs ih =>
    obtain ⟨q, rfl, -, -, hnew, hq⟩ := readSegments_cons_iff.1 h
    obtain ⟨hnodup, hq⟩ := ih hq
    rw [captures_cons]
    cases hcaptured : (PathToken.ofSegment seg).captured? with
    | none => simp_all
    | some name =>
      rw [hcaptured] at hq
      simp only [Option.toList_some, List.singleton_append, List.nodup_cons, List.mem_cons,
        forall_eq_or_imp]
      have hnames := (hnew name hcaptured).2
      refine ⟨⟨fun hmem => hq name hmem (by simp), hnodup⟩, hnames, ?_⟩
      intro other hother hold
      apply hq other hother
      simp [hold]

theorem wellFormed_of_read {path : String} {p : Pattern} (h : read path = .ok p) :
  p.WellFormed
  := by
  rw [read] at h
  split at h
  · rename_i cs _
    have hmap := eq_map_of_readSegments h
    constructor
    · apply wildcardLast_of_readSegments h
    · apply (captures_of_readSegments h).1
    · intro text htext
      obtain ⟨seg, hseg, hliteral⟩ := List.mem_map.1 (hmap ▸ htext)
      have hwritten := PathToken.segment_ofSegment seg
      rw [hliteral, PathToken.segment] at hwritten
      rw [hwritten, String.toList_ofList]
      cases cs with
      | nil => exact nomatch hseg
      | cons c cs => apply Text.notMem_of_mem_splitOn hseg
    · intro hblank
      obtain ⟨seg, hsegs, hliteral⟩ := List.map_eq_singleton_iff.1 (hmap.symm.trans hblank)
      have hwritten := PathToken.segment_ofSegment seg
      rw [hliteral, PathToken.segment] at hwritten
      obtain rfl : seg = [] := by simpa using hwritten.symm
      cases cs with
      | nil => exact nomatch hsegs
      | cons c cs => exact nomatch Text.splitOn_eq_singleton_nil_iff.1 hsegs
  · exact nomatch h

end Pattern

/-! ### Declarations -/

namespace ParamDeclaration

/-- What a declaration of a parameter says, and that its text binds. -/
theorem of_build {registry : Registry} {captures : List String} {d : ParamDeclaration}
    {p : Param} (h : d.build registry captures = .ok p) :
  p.name = d.name ∧ p.type = d.type ∧ p.source = d.rule.source (captures.contains d.name)
    ∧ d.declared registry = .ok p.declared
  := by
  rw [build] at h
  split at h
  · obtain ⟨declared, hdeclared, rfl⟩ := map_eq_ok_iff.1 h
    exact ⟨rfl, rfl, rfl, hdeclared⟩
  · exact nomatch h

/-- A declared value is kept with its text. -/
theorem raw_of_declared {registry : Registry} {d : ParamDeclaration} {v : Option DeclaredValue}
    (h : d.declared registry = .ok v) :
  v.map (·.raw) = d.rule.text?
  := by
  rw [declared] at h
  split at h
  · rename_i htext
    obtain rfl := Except.ok.inj h
    rw [htext]
    rfl
  · rename_i text htext
    split at h
    · obtain rfl := Except.ok.inj h
      rw [htext]
      rfl
    · cases h

/-- A declared value is what its text binds to. -/
theorem bind_of_declared {registry : Registry} {d : ParamDeclaration} {v : DeclaredValue}
    (h : d.declared registry = .ok (some v)) :
  registry.bind d.type d.name v.raw = .ok v.value
  := by
  rw [declared] at h
  split at h
  · exact nomatch h
  · split at h
    · rename_i hbind
      obtain rfl := Option.some.inj (Except.ok.inj h)
      exact hbind
    · exact nomatch h

/-- A parameter that is always the same has a value. -/
theorem isSome_of_forced {registry : Registry} {captured : Bool} {d : ParamDeclaration}
    {v : Option DeclaredValue} (h : d.declared registry = .ok v)
    (hforced : d.rule.source captured = .forced) :
  v.isSome
  := by
  rw [declared] at h
  cases hrule : d.rule with
  | plain => cases captured <;> simp [hrule, ValueRule.source] at hforced
  | defaulted text => cases captured <;> simp [hrule, ValueRule.source] at hforced
  | forced text =>
    rw [hrule, ValueRule.text?] at h
    split at h
    · contradiction
    · split at h
      · obtain rfl := Except.ok.inj h
        rfl
      · exact nomatch h

end ParamDeclaration

/-- What holds of every route that a declaration denotes. -/
structure Route.WellFormed (r : Route) : Prop where
  pattern : r.pattern.WellFormed
  names_nodup : (r.params.map Param.name).Nodup
  captures_declared : ∀ name ∈ r.pattern.captures, name ∈ r.params.map Param.name
  forced_declared : ∀ p ∈ r.params, p.source = .forced → p.declared.isSome
  path_captured : ∀ p ∈ r.params, p.source = .path → p.name ∈ r.pattern.captures
  query_not_captured : ∀ p ∈ r.params, p.source = .query → p.name ∉ r.pattern.captures

/-- A route that some declaration denotes, with the binders of some registry. -/
def Route.Validated (r : Route) : Prop :=
  ∃ (registry : Registry) (d : Declaration), d.build registry = .ok r

namespace Declaration

/-- A list of declarations denotes parameters if each of them denotes one and no name is declared
twice. -/
theorem buildParams_eq_ok_iff {registry : Registry} {captures seen : List String}
    {ds : List ParamDeclaration} {ps : List Param} :
  buildParams registry captures seen ds = .ok ps
    ↔ List.Forall₂ (fun d p => d.build registry captures = .ok p) ds ps
      ∧ (ds.map ParamDeclaration.name).Nodup
      ∧ ∀ d ∈ ds, d.name ∉ seen
  := by
  induction ds generalizing seen ps with
  | nil => simp [buildParams, eq_comm]
  | cons d ds ih =>
    rw [buildParams, List.forall₂_cons_left_iff, List.map_cons, List.nodup_cons,
      List.forall_mem_cons]
    constructor
    · intro h
      split at h
      · cases h
      · rename_i hnew
        split at h
        · cases h
        · rename_i p hp
          obtain ⟨rest, hrest, rfl⟩ := map_eq_ok_iff.1 h
          obtain ⟨hbuilt, hnodup, hseen⟩ := ih.1 hrest
          refine ⟨⟨p, rest, hp, hbuilt, rfl⟩, ⟨?_, hnodup⟩, by simpa using hnew, ?_⟩
          · rw [List.mem_map]
            rintro ⟨e, he, hname⟩
            apply hseen e he
            rw [hname]
            apply List.mem_cons_self
          · intro e he hold
            apply hseen e he (List.mem_cons_of_mem _ hold)
    · rintro ⟨⟨p, rest, hp, hbuilt, rfl⟩, ⟨hother, hnodup⟩, hnew, hseen⟩
      have hrest : buildParams registry captures (d.name :: seen) ds = .ok rest := by
        apply ih.2 ⟨hbuilt, hnodup, ?_⟩
        intro e he hold
        rcases List.mem_cons.1 hold with hname | hold
        · apply hother
          rw [← hname]
          apply List.mem_map_of_mem he
        · apply hseen e he hold
      rw [if_neg (by simpa using hnew), hp]
      exact map_eq_ok_iff.2 ⟨rest, hrest, rfl⟩

/-- The parameters are the declared ones, and no two have the same name. -/
theorem of_buildParams {registry : Registry} {captures seen : List String}
    {ds : List ParamDeclaration} {ps : List Param}
    (h : buildParams registry captures seen ds = .ok ps) :
  List.Forall₂ (fun d p => d.build registry captures = .ok p) ds ps ∧ (ps.map Param.name).Nodup
  := by
  obtain ⟨hbuilt, hnodup, -⟩ := buildParams_eq_ok_iff.1 h
  use hbuilt
  rw [map_eq_map_of_forall₂ hbuilt fun d p hp => (ParamDeclaration.of_build hp).1]
  exact hnodup

/-- A declaration denotes the route of its parts, if each of them is read. -/
theorem build_eq_ok_iff {registry : Registry} {d : Declaration} {r : Route} :
  d.build registry = .ok r ↔ ∃ pattern params, Pattern.read d.path = .ok pattern
    ∧ buildParams registry pattern.captures [] d.params = .ok params
    ∧ d.unbound? pattern.captures = none
    ∧ r = ⟨d.method, d.path, pattern, d.handler, params, d.modifiers, d.line⟩
  := by
  have hbuild : d.build registry = .ok r ↔ d.check registry = .ok r := by
    rw [build]
    cases d.check registry with
    | error fault => simp
    | ok route => simp
  rw [hbuild, check, bind_eq_ok_iff]
  simp only [bind_eq_ok_iff]
  constructor
  · rintro ⟨pattern, hpattern, params, hparams, h⟩
    split at h
    · cases h
    · rename_i hunbound
      exact ⟨pattern, params, hpattern, hparams, hunbound, (Except.ok.inj h).symm⟩
  · rintro ⟨pattern, params, hpattern, hparams, hunbound, rfl⟩
    refine ⟨pattern, hpattern, params, hparams, ?_⟩
    rw [hunbound]
    rfl

/-- The line of a declaration is only passed on. -/
theorem build_atLine {registry : Registry} {d : Declaration} {r : Route} {m : ℕ}
    (h : (d.atLine m).build registry = .ok r) (n : ℕ) :
  (d.atLine n).build registry = .ok { r with line := n }
  := by
  obtain ⟨pattern, params, hpattern, hparams, hunbound, rfl⟩ := build_eq_ok_iff.1 h
  exact build_eq_ok_iff.2 ⟨pattern, params, hpattern, hparams, hunbound, rfl⟩

/-- The parts of the route that a declaration denotes. -/
theorem of_build {registry : Registry} {d : Declaration} {r : Route}
    (h : d.build registry = .ok r) :
  Pattern.read d.path = .ok r.pattern
    ∧ buildParams registry r.pattern.captures [] d.params = .ok r.params
    ∧ d.unbound? r.pattern.captures = none
  := by
  obtain ⟨pattern, params, hpattern, hparams, hunbound, rfl⟩ := build_eq_ok_iff.1 h
  exact ⟨hpattern, hparams, hunbound⟩

/-- The names of the parameters are the declared ones. -/
theorem names_of_build {registry : Registry} {d : Declaration} {r : Route}
    (h : d.build registry = .ok r) :
  r.params.map Param.name = d.params.map ParamDeclaration.name
  := by
  obtain ⟨-, hparams, -⟩ := of_build h
  apply map_eq_map_of_forall₂ (of_buildParams hparams).1
  intro q p hq
  apply (ParamDeclaration.of_build hq).1

/-- The declared value of a parameter is what its text binds to. -/
theorem bind_of_build {registry : Registry} {d : Declaration} {r : Route}
    (h : d.build registry = .ok r) {p : Param} (hp : p ∈ r.params) {v : DeclaredValue}
    (hv : p.declared = some v) :
  registry.bind p.type p.name v.raw = .ok v.value
  := by
  obtain ⟨-, hparams, -⟩ := of_build h
  obtain ⟨q, -, hq⟩ := exists_mem_of_forall₂ (of_buildParams hparams).1 hp
  obtain ⟨hname, htype, -, hdeclared⟩ := ParamDeclaration.of_build hq
  rw [hname, htype]
  apply ParamDeclaration.bind_of_declared (hdeclared.trans (congrArg _ hv))

end Declaration

/-- The route that a declaration denotes is well formed. -/
theorem Route.Validated.wellFormed {r : Route} (h : r.Validated) :
  r.WellFormed
  := by
  obtain ⟨registry, d, h⟩ := h
  obtain ⟨hpattern, hparams, hunbound⟩ := Declaration.of_build h
  obtain ⟨hbuilt, hnodup⟩ := Declaration.of_buildParams hparams
  constructor
  · apply Pattern.wellFormed_of_read hpattern
  · exact hnodup
  · intro name hname
    rw [Declaration.names_of_build h]
    have hdeclared := List.find?_eq_none.1 hunbound name hname
    simpa using hdeclared
  · intro p hp hforced
    obtain ⟨q, -, hq⟩ := exists_mem_of_forall₂ hbuilt hp
    obtain ⟨-, -, hsource, hdeclared⟩ := ParamDeclaration.of_build hq
    apply ParamDeclaration.isSome_of_forced hdeclared (hsource.symm.trans hforced)
  · intro p hp hpath
    obtain ⟨q, -, hq⟩ := exists_mem_of_forall₂ hbuilt hp
    obtain ⟨hname, -, hsource, -⟩ := ParamDeclaration.of_build hq
    rw [hname]
    cases hrule : q.rule <;> simp_all [ValueRule.source]
  · intro p hp hquery
    obtain ⟨q, -, hq⟩ := exists_mem_of_forall₂ hbuilt hp
    obtain ⟨hname, -, hsource, -⟩ := ParamDeclaration.of_build hq
    rw [hname]
    cases hrule : q.rule <;> simp_all [ValueRule.source]

end HttpDispatch
