import HttpDispatch.Proofs.Route.Validation
import HttpDispatch.Route.Router

/-!
# Acceptance

When a route takes a request, said of the places of tokens and segments and of each parameter
alone: `Route.Accepts`, and `Route.Rejects` for a route that fits and does not bind.  For
well-formed routes these are what `Router.attempt` computes.
-/

namespace HttpDispatch

open Fallible Text

/-- Under different names every value is found. -/
theorem lookup_eq_some_iff_mem {α β : Type} [DecidableEq α] {vs : List (α × β)}
    (h : (vs.map Prod.fst).Nodup) {name : α} {v : β} :
  vs.lookup name = some v ↔ (name, v) ∈ vs
  := by
  induction vs with
  | nil => simp
  | cons w vs ih =>
    obtain ⟨other, w⟩ := w
    rw [List.map_cons, List.nodup_cons] at h
    rw [List.lookup_cons, List.mem_cons]
    split
    · rename_i heq
      obtain rfl := eq_of_beq heq
      constructor
      · intro hw
        obtain rfl := Option.some.inj hw
        exact .inl rfl
      · rintro (heq | hmem)
        · exact congrArg some (Prod.mk.inj heq).2.symm
        · exact absurd (List.mem_map_of_mem hmem) h.1
    · rename_i hne
      apply (ih h.2).trans
      constructor
      · exact .inr
      · rintro (heq | hmem)
        · exact absurd (Prod.mk.inj heq).1 (by simpa using hne)
        · exact hmem

/-! ### Patterns and segments -/

/-- The segment is one that the token, which is no wildcard, stands for. -/
def PathToken.Takes : PathToken → String → Prop
  | .literal text, s => s = text
  | .capture _, s => s ≠ "" ∧ (Percent.decode s).isSome
  | .wildcard _, _ => False

namespace Pattern

/-- The segments fit the tokens at their places. -/
structure Fits (p : Pattern) (segs : List String) : Prop where
  /-- A literal or a capture takes the segment at its place. -/
  single : ∀ (i : ℕ) (t : PathToken), p[i]? = some t → (∀ name, t ≠ .wildcard name) →
    ∃ s, segs[i]? = some s ∧ t.Takes s
  /-- A wildcard takes at least one segment. -/
  wildcard : ∀ (i : ℕ) (name : String), p[i]? = some (PathToken.wildcard name) →
    segs.drop i ≠ [] ∧ ∀ s ∈ segs.drop i, (Percent.decode s).isSome
  /-- Without a wildcard no segment is left over. -/
  no_more : (∀ name, .wildcard name ∉ p) → segs.length ≤ p.length

/-- The pattern captures a text under a name. -/
inductive Captures (p : Pattern) (segs : List String) (name : String) : String → Prop where
  /-- A capture takes the segment at its place. -/
  | segment {i : ℕ} {s text : String} (token : p[i]? = some (PathToken.capture name))
      (segment : segs[i]? = some s) (decoded : Percent.decode s = some text) :
      Captures p segs name text
  /-- A wildcard takes all segments from its place on. -/
  | rest {i : ℕ} {texts : List String} (token : p[i]? = some (PathToken.wildcard name))
      (decoded : (segs.drop i).mapM Percent.decode = some texts) :
      Captures p segs name ("/".intercalate texts)

theorem fits_nil_iff {segs : List String} :
  Fits [] segs ↔ segs = []
  := by
  constructor
  · intro h
    simpa using h.no_more (by simp)
  · rintro rfl
    constructor <;> simp

theorem fits_cons_iff {t : PathToken} {p : Pattern} {segs : List String}
    (ht : ∀ name, t ≠ .wildcard name) :
  Fits (t :: p) segs ↔ ∃ s ss, segs = s :: ss ∧ t.Takes s ∧ Fits p ss
  := by
  have hmem : (∀ name, .wildcard name ∉ t :: p) ↔ ∀ name, .wildcard name ∉ p := by
    simp only [List.mem_cons, not_or, ne_comm.1 (ht _), not_false_eq_true, true_and]
  constructor
  · intro h
    obtain ⟨s, hs, htakes⟩ := h.single 0 t rfl ht
    cases segs with
    | nil => exact nomatch hs
    | cons s' ss =>
      obtain rfl : s' = s := by simpa using hs
      use s', ss, rfl, htakes
      constructor
      · intro i
        apply h.single (i + 1)
      · intro i
        apply h.wildcard (i + 1)
      · intro hp
        simpa using h.no_more (hmem.2 hp)
  · rintro ⟨s, ss, rfl, htakes, h⟩
    constructor
    · rintro (_ | i) t' ht'
      · obtain rfl : t = t' := by simpa using ht'
        intro _
        use s, rfl
      · apply h.single i t' ht'
    · rintro (_ | i) name hname
      · exact absurd (by simpa using hname) (ht name)
      · apply h.wildcard i name hname
    · intro hp
      simpa using h.no_more (hmem.1 hp)

theorem fits_wildcard_iff {name : String} {segs : List String} :
  Fits [.wildcard name] segs ↔ segs ≠ [] ∧ ∀ s ∈ segs, (Percent.decode s).isSome
  := by
  constructor
  · intro h
    simpa using h.wildcard 0 name rfl
  · intro h
    constructor
    · rintro (_ | i) t ht hne
      · obtain rfl : PathToken.wildcard name = t := by simpa using ht
        exact absurd rfl (hne name)
      · exact nomatch ht
    · rintro (_ | i) other hother
      · simpa using h
      · exact nomatch hother
    · intro hp
      exact absurd List.mem_cons_self (hp name)

/-- Exactly the segments that fit are matched. -/
theorem isSome_match?_iff {p : Pattern} {segs : List String} (hp : p.WildcardLast) :
  (p.match? segs).isSome ↔ p.Fits segs
  := by
  induction p generalizing segs with
  | nil =>
    rw [fits_nil_iff]
    cases segs <;> simp [match?]
  | cons t p ih =>
    have ih := fun ss => @ih ss hp.tail
    cases t with
    | literal text =>
      rw [fits_cons_iff (by simp)]
      cases segs with
      | nil => simp [match?]
      | cons s ss =>
        rw [match?]
        split <;> simp_all [PathToken.Takes]
    | capture name =>
      rw [fits_cons_iff (by simp)]
      cases segs with
      | nil => simp [match?]
      | cons s ss =>
        rw [match?]
        cases hdecode : Percent.decode s with
        | none => simp_all [PathToken.Takes]
        | some text => split <;> simp_all [PathToken.Takes]
    | wildcard name =>
      obtain rfl := hp [] name p rfl
      rw [fits_wildcard_iff]
      cases segs with
      | nil => simp [match?]
      | cons s ss =>
        rw [match?, Option.isSome_map, isSome_mapM_iff]
        simp

theorem captures_cons_iff {t : PathToken} {p : Pattern} {s : String} {ss : List String}
    {name text : String} :
  Captures (t :: p) (s :: ss) name text
    ↔ (t = .capture name ∧ Percent.decode s = some text)
      ∨ (t = .wildcard name
          ∧ ∃ texts, (s :: ss).mapM Percent.decode = some texts ∧ text = "/".intercalate texts)
      ∨ Captures p ss name text
  := by
  constructor
  · rintro (@⟨_ | i, s', _, token, segment, decoded⟩ | @⟨_ | i, texts, token, decoded⟩)
    · obtain rfl : s = s' := by simpa using segment
      exact .inl ⟨by simpa using token, decoded⟩
    · exact .inr (.inr (.segment (by simpa using token) (by simpa using segment) decoded))
    · exact .inr (.inl ⟨by simpa using token, texts, decoded, rfl⟩)
    · exact .inr (.inr (.rest (by simpa using token) (by simpa using decoded)))
  · rintro (⟨rfl, decoded⟩ | ⟨rfl, texts, decoded, rfl⟩ | h)
    · exact .segment (i := 0) rfl rfl decoded
    · exact .rest (i := 0) rfl decoded
    · cases h with
      | segment token segment decoded => exact .segment (i := _ + 1) token segment decoded
      | rest token decoded => exact .rest (i := _ + 1) token decoded

/-- The matched texts are those that the pattern captures. -/
theorem mem_match?_iff {p : Pattern} {segs : List String} {cs : List (String × String)}
    (hp : p.WildcardLast) (h : p.match? segs = some cs) {name text : String} :
  (name, text) ∈ cs ↔ p.Captures segs name text
  := by
  induction p generalizing segs cs with
  | nil =>
    cases segs with
    | nil =>
      obtain rfl := Option.some.inj h
      constructor
      · exact nofun
      · rintro (⟨token, -, -⟩ | ⟨token, -⟩) <;> simp at token
    | cons s ss => exact nomatch h
  | cons t p ih =>
    cases segs with
    | nil => cases t <;> exact nomatch h
    | cons s ss =>
      rw [captures_cons_iff]
      cases t with
      | literal literal =>
        rw [match?] at h
        split at h
        · simp [ih hp.tail h]
        · exact nomatch h
      | capture capture =>
        rw [match?] at h
        split at h
        · exact nomatch h
        · split at h
          · rename_i text' hdecode
            obtain ⟨rest, hrest, rfl⟩ := Option.map_eq_some_iff.1 h
            simp [ih hp.tail hrest, hdecode, eq_comm]
          · exact nomatch h
      | wildcard wildcard =>
        obtain rfl := hp [] wildcard p rfl
        obtain ⟨texts, htexts, rfl⟩ := Option.map_eq_some_iff.1 h
        have hnone : ¬ Captures [] ss name text := by
          rintro (⟨token, -, -⟩ | ⟨token, -⟩) <;> simp at token
        simp [htexts, hnone, eq_comm]

/-- The texts are matched in the order of the tokens that capture them. -/
theorem map_fst_match? {p : Pattern} {segs : List String} {cs : List (String × String)}
    (hp : p.WildcardLast) (h : p.match? segs = some cs) :
  cs.map Prod.fst = p.captures
  := by
  induction p generalizing segs cs with
  | nil =>
    cases segs with
    | nil =>
      obtain rfl := Option.some.inj h
      rfl
    | cons s ss => exact nomatch h
  | cons t p ih =>
    rw [captures_cons]
    cases segs with
    | nil => cases t <;> exact nomatch h
    | cons s ss =>
      cases t with
      | literal literal =>
        rw [match?] at h
        split at h
        · apply ih hp.tail h
        · exact nomatch h
      | capture capture =>
        rw [match?] at h
        split at h
        · exact nomatch h
        · split at h
          · obtain ⟨rest, hrest, rfl⟩ := Option.map_eq_some_iff.1 h
            rw [List.map_cons, ih hp.tail hrest]
            rfl
          · exact nomatch h
      | wildcard wildcard =>
        obtain rfl := hp [] wildcard p rfl
        obtain ⟨texts, htexts, rfl⟩ := Option.map_eq_some_iff.1 h
        rfl

/-- A matched text is found under its name. -/
theorem lookup_match?_iff {p : Pattern} {segs : List String} {cs : List (String × String)}
    (hp : p.WellFormed) (h : p.match? segs = some cs) {name text : String} :
  cs.lookup name = some text ↔ p.Captures segs name text
  := by
  rw [← mem_match?_iff hp.wildcard_last h]
  apply lookup_eq_some_iff_mem
  rw [map_fst_match? hp.wildcard_last h]
  apply hp.captures_nodup

/-- Every name of the pattern captures a text of the segments that fit. -/
theorem exists_captures_of_mem {p : Pattern} {segs : List String} {cs : List (String × String)}
    (hp : p.WellFormed) (h : p.match? segs = some cs) {name : String} (hname : name ∈ p.captures) :
  ∃ text, p.Captures segs name text
  := by
  rw [← map_fst_match? hp.wildcard_last h] at hname
  obtain ⟨⟨_, text⟩, hmem, rfl⟩ := List.mem_map.1 hname
  use text, (mem_match?_iff hp.wildcard_last h).1 hmem

end Pattern

/-! ### Values of parameters -/

/-- The value of a parameter in a request with a query, where the path captures texts. -/
inductive Param.HasValue (registry : Registry) (captured : String → String → Prop)
    (query : Query) (p : Param) : Value → Prop where
  | forced {d : DeclaredValue} (source : p.source = .forced) (declared : p.declared = some d) :
      HasValue registry captured query p d.value
  | path {text : String} {v : Value} (source : p.source = .path) (here : captured p.name text)
      (bound : registry.bind p.type p.name text = .ok v) : HasValue registry captured query p v
  | query {text : String} {v : Value} (source : p.source = .query)
      (only : query.getAll p.name = [text]) (bound : registry.bind p.type p.name text = .ok v) :
      HasValue registry captured query p v
  | default {d : DeclaredValue} (source : p.source = .query) (absent : query.getAll p.name = [])
      (declared : p.declared = some d) : HasValue registry captured query p d.value

/-- Why a parameter has no value. -/
inductive Param.LacksValue (registry : Registry) (captured : String → String → Prop)
    (query : Query) (p : Param) : BindError → Prop where
  | path {text : String} {e : BindError} (source : p.source = .path)
      (here : captured p.name text) (unbound : registry.bind p.type p.name text = .error e) :
      LacksValue registry captured query p e
  | query {text : String} {e : BindError} (source : p.source = .query)
      (only : query.getAll p.name = [text])
      (unbound : registry.bind p.type p.name text = .error e) :
      LacksValue registry captured query p e
  | missing (source : p.source = .query) (absent : query.getAll p.name = [])
      (declared : p.declared = none) : LacksValue registry captured query p (.missing p.name)
  | ambiguous (source : p.source = .query) (several : 1 < (query.getAll p.name).length) :
      LacksValue registry captured query p (.ambiguous p.name (query.getAll p.name).length)

section

variable {registry : Registry} {captured : String → String → Prop} {query : Query} {p : Param}

/-- A parameter has a value or lacks one for some reason, unless it is captured nowhere. -/
theorem Param.hasValue_or_lacksValue (hforced : p.source = .forced → p.declared.isSome)
    (hpath : p.source = .path → ∃ text, captured p.name text) :
  (∃ v, p.HasValue registry captured query v) ∨ ∃ e, p.LacksValue registry captured query e
  := by
  cases hsource : p.source with
  | forced =>
    obtain ⟨d, hd⟩ := Option.isSome_iff_exists.1 (hforced hsource)
    exact .inl ⟨_, .forced hsource hd⟩
  | path =>
    obtain ⟨text, htext⟩ := hpath hsource
    cases hbind : registry.bind p.type p.name text with
    | ok v => exact .inl ⟨v, .path hsource htext hbind⟩
    | error e => exact .inr ⟨e, .path hsource htext hbind⟩
  | query =>
    rcases htexts : query.getAll p.name with _ | ⟨text, _ | ⟨text', texts⟩⟩
    · cases hdeclared : p.declared with
      | some d => exact .inl ⟨_, .default hsource htexts hdeclared⟩
      | none => exact .inr ⟨_, .missing hsource htexts hdeclared⟩
    · cases hbind : registry.bind p.type p.name text with
      | ok v => exact .inl ⟨v, .query hsource htexts hbind⟩
      | error e => exact .inr ⟨e, .query hsource htexts hbind⟩
    · exact .inr ⟨_, .ambiguous hsource (by simp [htexts])⟩

namespace Router

variable {cs : List (String × String)}

theorem bindParam_of_hasValue
    (hcs : ∀ text, cs.lookup p.name = some text ↔ captured p.name text) {v : Value}
    (h : p.HasValue registry captured query v) :
  bindParam registry cs query p = .ok (p.name, v)
  := by
  cases h with
  | forced source declared =>
    simp [bindParam, textFor, source, declared, bind, Except.bind, pure, Except.pure]
  | path source here bound =>
    simp [bindParam, textFor, source, (hcs _).2 here, bound, bind, Except.bind, pure, Except.pure]
  | query source only bound =>
    simp [bindParam, textFor, source, Query.single, only, bound, bind, Except.bind, pure,
      Except.pure]
  | default source absent declared =>
    simp [bindParam, textFor, source, Query.single, absent, declared, bind, Except.bind, pure,
      Except.pure]

theorem bindParam_of_lacksValue
    (hcs : ∀ text, cs.lookup p.name = some text ↔ captured p.name text) {e : BindError}
    (h : p.LacksValue registry captured query e) :
  bindParam registry cs query p = .error e
  := by
  cases h with
  | path source here unbound =>
    simp [bindParam, textFor, source, (hcs _).2 here, unbound, bind, Except.bind]
  | query source only unbound =>
    simp [bindParam, textFor, source, Query.single, only, unbound, bind, Except.bind]
  | missing source absent declared =>
    simp [bindParam, textFor, source, Query.single, absent, declared, bind, Except.bind, throw,
      throwThe, MonadExceptOf.throw]
  | ambiguous source several =>
    rcases htexts : query.getAll p.name with _ | ⟨text, _ | ⟨text', texts⟩⟩
    · simp [htexts] at several
    · simp [htexts] at several
    · simp [bindParam, textFor, source, Query.single, htexts, bind, Except.bind]

/-- A parameter gets the value that it has. -/
theorem bindParam_eq_ok_iff
    (hcs : ∀ text, cs.lookup p.name = some text ↔ captured p.name text)
    (hforced : p.source = .forced → p.declared.isSome)
    (hpath : p.source = .path → ∃ text, captured p.name text) {v : String × Value} :
  bindParam registry cs query p = .ok v
    ↔ v.1 = p.name ∧ p.HasValue registry captured query v.2
  := by
  constructor
  · intro h
    rcases Param.hasValue_or_lacksValue hforced hpath with ⟨v', hv'⟩ | ⟨e, he⟩
    · rw [bindParam_of_hasValue hcs hv'] at h
      obtain rfl := Except.ok.inj h
      use rfl, hv'
    · rw [bindParam_of_lacksValue hcs he] at h
      exact nomatch h
  · obtain ⟨name, v⟩ := v
    rintro ⟨rfl, h⟩
    apply bindParam_of_hasValue hcs h

/-- A parameter gets no value for the reason why it lacks one. -/
theorem bindParam_eq_error_iff
    (hcs : ∀ text, cs.lookup p.name = some text ↔ captured p.name text)
    (hforced : p.source = .forced → p.declared.isSome)
    (hpath : p.source = .path → ∃ text, captured p.name text) {e : BindError} :
  bindParam registry cs query p = .error e ↔ p.LacksValue registry captured query e
  := by
  constructor
  · intro h
    rcases Param.hasValue_or_lacksValue hforced hpath with ⟨v, hv⟩ | ⟨e', he'⟩
    · rw [bindParam_of_hasValue hcs hv] at h
      exact nomatch h
    · rw [bindParam_of_lacksValue hcs he'] at h
      obtain rfl := Except.error.inj h
      exact he'
  · apply bindParam_of_lacksValue hcs

end Router

end

/-! ### Routes -/

namespace Route

/-- The parameters have the values in a request with the segments and the query. -/
def Binds (r : Route) (registry : Registry) (segs : List String) (query : Query) :
    List Param → NamedValues → Prop :=
  List.Forall₂ fun p v =>
    v.1 = p.name ∧ p.HasValue registry (r.pattern.Captures segs) query v.2

/-- The route takes a request and gives its parameters the values. -/
structure Accepts (r : Route) (registry : Registry) (method : Method) (path : String)
    (query : Query) (values : NamedValues) : Prop where
  method : r.method = method
  fits : r.pattern.Fits (Pattern.pathSegments path)
  bound : r.Binds registry (Pattern.pathSegments path) query r.params values

/-- The route fits a request, and `e` is why the first of the parameters that have no value has
none. -/
structure Rejects (r : Route) (registry : Registry) (method : Method) (path : String)
    (query : Query) (e : BindError) : Prop where
  method : r.method = method
  fits : r.pattern.Fits (Pattern.pathSegments path)
  unbound : ∃ front p back values, r.params = front ++ p :: back
    ∧ r.Binds registry (Pattern.pathSegments path) query front values
    ∧ p.LacksValue registry (r.pattern.Captures (Pattern.pathSegments path)) query e

end Route

namespace Router

variable {registry : Registry} {method : Method} {path : String} {query : Query} {r : Route}

/-- A route is attempted as far as it fits. -/
theorem attempt_eq_some_iff (hr : r.WellFormed) {result : Except BindError NamedValues} :
  attempt registry method (Pattern.pathSegments path) query r = some result
    ↔ r.method = method ∧ r.pattern.Fits (Pattern.pathSegments path)
      ∧ ∃ cs, r.pattern.match? (Pattern.pathSegments path) = some cs
        ∧ r.params.mapM (bindParam registry cs query) = result
  := by
  rw [attempt]
  split
  · simp_all
  · rename_i hmethod
    rw [← Pattern.isSome_match?_iff hr.pattern.wildcard_last]
    split
    · simp_all
    · simp_all

/-- The well-formedness of a route, for one of its parameters in a request that fits. -/
theorem param_of_match? (hr : r.WellFormed) {segs : List String} {cs : List (String × String)}
    (hcs : r.pattern.match? segs = some cs) {p : Param} (hp : p ∈ r.params) :
  (∀ text, cs.lookup p.name = some text ↔ r.pattern.Captures segs p.name text)
    ∧ (p.source = .forced → p.declared.isSome)
    ∧ (p.source = .path → ∃ text, r.pattern.Captures segs p.name text)
  := by
  refine ⟨fun text => Pattern.lookup_match?_iff hr.pattern hcs, hr.forced_declared p hp, ?_⟩
  intro hpath
  apply Pattern.exists_captures_of_mem hr.pattern hcs (hr.path_captured p hp hpath)

theorem binds_iff (hr : r.WellFormed) {segs : List String} {cs : List (String × String)}
    (hcs : r.pattern.match? segs = some cs) {ps : List Param} (hps : ∀ p ∈ ps, p ∈ r.params)
    {values : NamedValues} :
  List.Forall₂ (fun p v => bindParam registry cs query p = .ok v) ps values
    ↔ r.Binds registry segs query ps values
  := by
  apply forall₂_iff_of_mem
  intro p hp v
  obtain ⟨hlookup, hforced, hpath⟩ := param_of_match? hr hcs (hps p hp)
  apply bindParam_eq_ok_iff hlookup hforced hpath

/-- The attempt of a route gives the values with which the route accepts. -/
theorem attempt_eq_ok_iff (hr : r.WellFormed) {values : NamedValues} :
  attempt registry method (Pattern.pathSegments path) query r = some (.ok values)
    ↔ r.Accepts registry method path query values
  := by
  rw [attempt_eq_some_iff hr]
  constructor
  · rintro ⟨hmethod, hfits, cs, hcs, hvalues⟩
    use hmethod, hfits
    apply (binds_iff hr hcs fun _ hp => hp).1
    apply mapM_eq_ok_iff.1 hvalues
  · rintro ⟨hmethod, hfits, hbound⟩
    use hmethod, hfits
    obtain ⟨cs, hcs⟩ := Option.isSome_iff_exists.1
      ((Pattern.isSome_match?_iff hr.pattern.wildcard_last).2 hfits)
    use cs, hcs
    apply mapM_eq_ok_iff.2
    apply (binds_iff hr hcs fun _ hp => hp).2 hbound

/-- The attempt of a route fails for the reason for which the route rejects. -/
theorem attempt_eq_error_iff (hr : r.WellFormed) {e : BindError} :
  attempt registry method (Pattern.pathSegments path) query r = some (.error e)
    ↔ r.Rejects registry method path query e
  := by
  rw [attempt_eq_some_iff hr]
  constructor
  · rintro ⟨hmethod, hfits, cs, hcs, he⟩
    use hmethod, hfits
    obtain ⟨front, p, back, values, hparams, hfront, hp⟩ := mapM_eq_error_iff.1 he
    obtain ⟨hlookup, hforced, hpath⟩ :=
      param_of_match? hr hcs (p := p) (by simp [hparams])
    use front, p, back, values, hparams
    constructor
    · apply (binds_iff hr hcs ?_).1 hfront
      intro q hq
      simp [hparams, hq]
    · apply (bindParam_eq_error_iff hlookup hforced hpath).1 hp
  · rintro ⟨hmethod, hfits, front, p, back, values, hparams, hfront, hp⟩
    use hmethod, hfits
    obtain ⟨cs, hcs⟩ := Option.isSome_iff_exists.1
      ((Pattern.isSome_match?_iff hr.pattern.wildcard_last).2 hfits)
    obtain ⟨hlookup, hforced, hpath⟩ :=
      param_of_match? hr hcs (p := p) (by simp [hparams])
    use cs, hcs
    apply mapM_eq_error_iff.2
    use front, p, back, values, hparams
    constructor
    · apply (binds_iff hr hcs ?_).2 hfront
      intro q hq
      simp [hparams, hq]
    · apply (bindParam_eq_error_iff hlookup hforced hpath).2 hp

end Router

end HttpDispatch
