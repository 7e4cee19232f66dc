import HttpDispatch.Proofs.Route.Finding
import HttpDispatch.Proofs.Route.Reading
import Mathlib.Data.List.DropRight

/-!
# Routes under a base path

A base path is a sequence of literal segments that stands before the path of every route of a
table.  A table is read under it as without it, and a router finds under it what it finds without
it: `Router.find_under`.
-/

namespace HttpDispatch

open Fallible Text

/-! ### Segments after slashes -/

namespace Pattern

/-- The text of a path with the given segments. -/
def slashed (segs : List (List Char)) : List Char := segs.flatMap fun seg => '/' :: seg

theorem intercalate_eq_slashed (seg : List Char) (segs : List (List Char)) :
  ['/'].intercalate (seg :: segs) = seg ++ slashed segs
  := by
  induction segs generalizing seg with
  | nil => simp [slashed]
  | cons seg' segs ih =>
    rw [List.intercalate_cons_of_ne_nil (List.cons_ne_nil _ _), ih, List.append_assoc]
    rfl

/-- Every text after a slash is that of a path. -/
theorem slashed_splitOn (cs : List Char) :
  slashed (cs.splitOn '/') = '/' :: cs
  := by
  obtain ⟨seg, segs, hsegs⟩ := List.exists_cons_of_ne_nil (List.splitOn_ne_nil '/' cs)
  have hjoined : ['/'].intercalate (cs.splitOn '/') = cs := List.intercalate_splitOn '/'
  rw [hsegs, intercalate_eq_slashed] at hjoined
  rw [hsegs, slashed, List.flatMap_cons, List.cons_append, ← slashed, hjoined]

/-- The segments of a path are those that it was made of; a single empty one is lost. -/
theorem exists_slashed {segs : List (List Char)} (hne : segs ≠ []) (hblank : segs ≠ [[]])
    (h : ∀ seg ∈ segs, '/' ∉ seg) :
  ∃ cs, slashed segs = '/' :: cs ∧ segments cs = segs
  := by
  obtain ⟨seg, rest, rfl⟩ := List.exists_cons_of_ne_nil hne
  have hsplit : (seg ++ slashed rest).splitOn '/' = seg :: rest := by
    rw [← intercalate_eq_slashed]
    apply List.splitOn_intercalate _ h (List.cons_ne_nil _ _)
  use seg ++ slashed rest, rfl
  rw [segments.eq_def]
  split
  · rename_i hempty
    rw [hempty, List.splitOn_nil] at hsplit
    exact absurd hsplit.symm hblank
  · exact hsplit

theorem pathSegments_eq {path : String} {cs : List Char} (h : path.toList = '/' :: cs) :
  pathSegments path = (segments cs).map String.ofList
  := by
  rw [pathSegments, h]
  cases cs with
  | nil => rfl
  | cons c cs => rfl

/-- A path that denotes a pattern begins with a slash. -/
theorem head?_of_read {path : String} {p : Pattern} (h : read path = .ok p) :
  path.toList.head? = some '/'
  := by
  rw [read] at h
  split at h
  · rename_i heq
    rw [heq]
    rfl
  · cases h

end Pattern

/-! ### Base paths -/

/-- The segments of a base path. -/
abbrev Base := List String

namespace Base

/-- The segments are literals, and there is one; none is empty and none begins with a mark. -/
structure Literal (base : Base) : Prop where
  ne_nil : base ≠ []
  ne_empty : ∀ s ∈ base, s ≠ ""
  slash_notMem : ∀ s ∈ base, '/' ∉ s.toList
  unmarked : ∀ s ∈ base, s.toList.head? ≠ some ':' ∧ s.toList.head? ≠ some '*'

/-- The base path. -/
def path (base : Base) : String := String.join (base.map ("/" ++ ·))

/-- The base path with slashes after it. -/
def pathWith (base : Base) (slashes : ℕ) : String :=
  base.path ++ String.ofList (List.replicate slashes '/')

/-- A path under the base path; the path of no segments is the base path itself. -/
def place (base : Base) (path : String) : String :=
  if path = "/" then base.path else base.path ++ path

theorem toList_path (base : Base) :
  base.path.toList = Pattern.slashed (base.map String.toList)
  := by
  simp [path, Pattern.slashed, String.toList_join, List.flatMap_map]

variable {base : Base}

/-- A path under the base has the segments of the base and those of the path. -/
theorem toList_place (base : Base) {path : String} {cs : List Char} (h : path.toList = '/' :: cs) :
  (base.place path).toList = Pattern.slashed (base.map String.toList ++ Pattern.segments cs)
  := by
  rw [place, Pattern.slashed, List.flatMap_append, ← Pattern.slashed, ← Pattern.slashed]
  cases cs with
  | nil =>
    rw [if_pos (String.toList_inj.1 h), toList_path]
    exact (List.append_nil _).symm
  | cons c cs =>
    have hne : path ≠ "/" := by
      rintro rfl
      cases h
    rw [if_neg hne, String.toList_append, toList_path, Pattern.segments, Pattern.slashed_splitOn, h]
    exact List.cons_ne_nil c cs

theorem Literal.exists_place (hbase : base.Literal) {path : String} {cs : List Char}
    (h : path.toList = '/' :: cs) :
  ∃ cs', (base.place path).toList = '/' :: cs'
    ∧ Pattern.segments cs' = base.map String.toList ++ Pattern.segments cs
  := by
  rw [toList_place base h]
  obtain ⟨s, rest, rfl⟩ := List.exists_cons_of_ne_nil hbase.ne_nil
  have hs : s.toList ≠ [] := by
    simpa [String.toList_eq_nil_iff] using hbase.ne_empty s List.mem_cons_self
  apply Pattern.exists_slashed
  · exact List.cons_ne_nil _ _
  · intro hblank
    exact hs (List.cons.inj hblank).1
  · intro seg hseg
    rcases List.mem_append.1 hseg with hseg | hseg
    · obtain ⟨t, ht, rfl⟩ := List.mem_map.1 hseg
      exact hbase.slash_notMem t ht
    · cases cs with
      | nil => cases hseg
      | cons c cs => exact notMem_of_mem_splitOn hseg

/-- The segments of a path under the base. -/
theorem Literal.pathSegments_place (hbase : base.Literal) {path : String}
    (h : path.toList.head? = some '/') :
  Pattern.pathSegments (base.place path) = base ++ Pattern.pathSegments path
  := by
  obtain ⟨cs, hcs⟩ := List.head?_eq_some_iff.1 h
  obtain ⟨cs', hplace, hsegments⟩ := hbase.exists_place hcs
  rw [Pattern.pathSegments_eq hplace, Pattern.pathSegments_eq hcs, hsegments, List.map_append,
    List.map_map]
  simp [Function.comp_def]

/-- The tokens of the base path. -/
def tokens (base : Base) : Pattern := base.map .literal

theorem captures_tokens_append (base : Base) (p : Pattern) :
  Pattern.captures (base.tokens ++ p) = p.captures
  := by
  induction base with
  | nil => rfl
  | cons s base ih => exact ih

end Base

namespace Pattern

/-- Reading segments gives the same whatever path they are of, and whatever token stands before
them, if it is no wildcard. -/
theorem readSegments_congr {path path' : String} {names : List String}
    {previous previous' : Option PathToken} {segs : List (List Char)} {p : Pattern}
    (h : (∀ name, previous ≠ some (.wildcard name)) ↔ ∀ name, previous' ≠ some (.wildcard name)) :
  readSegments path names previous segs = .ok p ↔ readSegments path' names previous' segs = .ok p
  := by
  induction segs generalizing names previous previous' p with
  | nil => exact Iff.rfl
  | cons seg segs ih =>
    rw [readSegments_cons_iff, readSegments_cons_iff, h]
    simp only [@ih _ _ _ _ Iff.rfl]

/-- Literal segments are read as they are. -/
theorem readSegments_append_iff {base : Base} (hbase : ∀ s ∈ base, s ≠ "")
    (hmarks : ∀ s ∈ base, PathToken.ofSegment s.toList = .literal s) {path : String}
    {names : List String} {previous : Option PathToken}
    (hprevious : ∀ name, previous ≠ some (.wildcard name)) {segs : List (List Char)} {q : Pattern} :
  readSegments path names previous (base.map String.toList ++ segs) = .ok q
    ↔ ∃ p, readSegments path names none segs = .ok p ∧ q = base.tokens ++ p
  := by
  induction base generalizing previous q with
  | nil =>
    have hnone : readSegments path names previous segs = .ok q
        ↔ readSegments path names none segs = .ok q :=
      readSegments_congr (iff_of_true hprevious (by simp))
    simp [Base.tokens, hnone]
  | cons s base ih =>
    rw [List.forall_mem_cons] at hbase hmarks
    have hs : s.toList ≠ [] := by simpa [String.toList_eq_nil_iff] using hbase.1
    have hrest : ∀ q, readSegments path names (some (.literal s)) (base.map String.toList ++ segs)
          = .ok q
        ↔ ∃ p, readSegments path names none segs = .ok p ∧ q = Base.tokens base ++ p := by
      intro q
      apply ih hbase.2 hmarks.2
      simp
    rw [List.map_cons, List.cons_append, readSegments_cons_iff, hmarks.1]
    simp only [PathToken.captured?, Option.toList_none, List.nil_append, reduceCtorEq,
      IsEmpty.forall_iff, implies_true, true_and, hs, hprevious, not_false_eq_true, ne_eq, hrest]
    constructor
    · rintro ⟨_, rfl, p, hp, rfl⟩
      exact ⟨p, hp, rfl⟩
    · rintro ⟨p, hp, rfl⟩
      exact ⟨_, rfl, p, hp, rfl⟩

end Pattern

namespace Base

variable {base : Base}

theorem Literal.ofSegment (hbase : base.Literal) {s : String} (hs : s ∈ base) :
  PathToken.ofSegment s.toList = .literal s
  := by
  obtain ⟨hcolon, hstar⟩ := hbase.unmarked s hs
  rw [PathToken.ofSegment.eq_def]
  split
  · rename_i heq
    rw [heq] at hcolon
    exact absurd rfl hcolon
  · rename_i heq
    rw [heq] at hstar
    exact absurd rfl hstar
  · rw [String.ofList_toList]

/-- A path that begins with a slash denotes a pattern under the base exactly if it denotes one. -/
theorem Literal.read_place_iff (hbase : base.Literal) {path : String}
    (h : path.toList.head? = some '/') {q : Pattern} :
  Pattern.read (base.place path) = .ok q
    ↔ ∃ p, Pattern.read path = .ok p ∧ q = base.tokens ++ p
  := by
  obtain ⟨cs, hcs⟩ := List.head?_eq_some_iff.1 h
  obtain ⟨cs', hplace, hsegments⟩ := hbase.exists_place hcs
  have hread : ∀ p, Pattern.read path = .ok p
      ↔ Pattern.readSegments (base.place path) [] none (Pattern.segments cs) = .ok p := by
    intro p
    rw [Pattern.read, hcs]
    exact Pattern.readSegments_congr Iff.rfl
  simp only [hread]
  rw [Pattern.read, hplace]
  simp only [hsegments]
  exact Pattern.readSegments_append_iff hbase.ne_empty (fun s hs => hbase.ofSegment hs) (by simp)

end Base

/-! ### Declarations -/

/-- The route under a base path. -/
def Route.under (base : Base) (r : Route) : Route :=
  { r with path := base.place r.path, pattern := base.tokens ++ r.pattern }

namespace Base

variable {base : Base}

/-- No slash ends a base path. -/
theorem Literal.exists_concat (hbase : base.Literal) :
  ∃ front c, base.path.toList = front ++ [c] ∧ c ≠ '/'
  := by
  obtain ⟨init, s, rfl⟩ := (List.eq_nil_or_concat base).resolve_left hbase.ne_nil
  have hmem : s ∈ init.concat s := by simp
  have hs : s.toList ≠ [] := by simpa using hbase.ne_empty s hmem
  obtain ⟨front, c, hc⟩ := (List.eq_nil_or_concat s.toList).resolve_left hs
  rw [List.concat_eq_append] at hc
  use Pattern.slashed (init.map String.toList) ++ '/' :: front, c
  constructor
  · simp [toList_path, Pattern.slashed, hc]
  · rintro rfl
    apply hbase.slash_notMem s hmem
    simp [hc]

/-- The slashes after a base path are left out, and no more. -/
theorem Literal.rdropWhile_pathWith (hbase : base.Literal) (slashes : ℕ) :
  (base.pathWith slashes).toList.rdropWhile (· = '/') = base.path.toList
  := by
  rw [pathWith, String.toList_append, String.toList_ofList]
  induction slashes with
  | zero =>
    obtain ⟨front, c, hc, hne⟩ := hbase.exists_concat
    rw [List.replicate_zero, List.append_nil, hc]
    apply List.rdropWhile_concat_neg
    simpa using hne
  | succ slashes ih =>
    rw [List.replicate_succ', ← List.append_assoc, List.rdropWhile_concat_pos _ _ _ (by simp)]
    exact ih

/-- A declaration is put under a base path, whatever slashes stand after it. -/
theorem Literal.under_pathWith (hbase : base.Literal) (slashes : ℕ) (d : Declaration) :
  d.under (base.pathWith slashes) = { d with path := base.place d.path }
  := by
  have htrimmed : ((base.pathWith slashes).toList.reverse.dropWhile (· = '/')).reverse
      = base.path.toList := hbase.rdropWhile_pathWith slashes
  have hne : base.path.toList.isEmpty = false := by
    obtain ⟨front, c, hc, -⟩ := hbase.exists_concat
    simp [hc]
  simp only [Declaration.under, htrimmed, hne, String.ofList_toList, Bool.false_eq_true, if_false,
    place]
  split <;> rfl

/-- A declaration whose path begins with a slash denotes under the base path the route that it
denotes. -/
theorem Literal.build_place_iff (hbase : base.Literal) {registry : Registry} {d : Declaration}
    (h : d.path.toList.head? = some '/') {r' : Route} :
  ({ d with path := base.place d.path } : Declaration).build registry = .ok r'
    ↔ ∃ r, d.build registry = .ok r ∧ r' = r.under base
  := by
  simp only [Declaration.build_eq_ok_iff, hbase.read_place_iff h]
  constructor
  · rintro ⟨_, params, ⟨pattern, hpattern, rfl⟩, hparams, hunbound, rfl⟩
    rw [captures_tokens_append] at hparams hunbound
    exact ⟨_, ⟨pattern, params, hpattern, hparams, hunbound, rfl⟩, rfl⟩
  · rintro ⟨_, ⟨pattern, params, hpattern, hparams, hunbound, rfl⟩, rfl⟩
    refine ⟨_, params, ⟨pattern, hpattern, rfl⟩, ?_, ?_, rfl⟩
    · rw [captures_tokens_append]
      exact hparams
    · rw [captures_tokens_append]
      exact hunbound

end Base

/-! ### Tables -/

namespace RouteTable

variable {registry : Registry} {base : Base}

/-- A line that declares a route declares it under a base path too. -/
theorem readLine_pathWith (hbase : base.Literal) (slashes : ℕ) {n : ℕ} {cs : List Char} {r : Route}
    (h : readLine registry "" n cs = .ok r) :
  readLine registry (base.pathWith slashes) n cs = .ok (r.under base)
  := by
  obtain ⟨d, hread, hbuild⟩ := readLine_eq_ok_iff.1 h
  apply readLine_eq_ok_iff.2
  use d, hread
  rw [hbase.under_pathWith slashes]
  have hhead : (d.atLine n).path.toList.head? = some '/' :=
    Pattern.head?_of_read (Declaration.of_build hbuild).1
  exact (hbase.build_place_iff hhead).2 ⟨r, hbuild, rfl⟩

/-- Lines that declare routes declare them under a base path too. -/
theorem readLines_pathWith (hbase : base.Literal) (slashes : ℕ) {n : ℕ} {lines : List (List Char)}
    {routes : List Route} (h : readLines registry "" n lines = .ok routes) :
  readLines registry (base.pathWith slashes) n lines = .ok (routes.map (Route.under base))
  := by
  induction lines generalizing n routes with
  | nil =>
    obtain rfl := Except.ok.inj h
    rfl
  | cons line lines ih =>
    rw [readLines] at h ⊢
    split at h
    · rename_i hskipped
      rw [if_pos hskipped, ih h]
    · rename_i hskipped
      rw [if_neg hskipped]
      split at h
      · cases h
      · rename_i r hline
        obtain ⟨routes, hroutes, rfl⟩ := map_eq_ok_iff.1 h
        rw [readLine_pathWith hbase slashes hline, ih hroutes]
        rfl

end RouteTable

/-! ### Finding -/

namespace Pattern

/-- Segments match under the base what they match without it. -/
theorem match?_tokens_append (base : Base) (p : Pattern) (segs : List String) :
  match? (base.tokens ++ p) (base ++ segs) = p.match? segs
  := by
  induction base with
  | nil => rfl
  | cons s base ih =>
    rw [Base.tokens, List.map_cons, List.cons_append, List.cons_append, match?, if_pos rfl]
    exact ih

/-- Segments that do not begin with those of the base match nothing under it. -/
theorem match?_tokens_append_eq_none {base : Base} {segs : List String} (h : ¬ base <+: segs)
    (p : Pattern) :
  match? (base.tokens ++ p) segs = none
  := by
  induction base generalizing segs with
  | nil => exact absurd List.nil_prefix h
  | cons s base ih =>
    rw [Base.tokens, List.map_cons, List.cons_append]
    cases segs with
    | nil => rfl
    | cons s' segs =>
      rw [match?]
      split
      · rename_i heq
        subst heq
        apply ih
        intro hprefix
        exact h (List.cons_prefix_cons.2 ⟨rfl, hprefix⟩)
      · rfl

end Pattern

/-- The failure of the route under a base path. -/
def BindingFailure.under (base : Base) (f : BindingFailure) : BindingFailure :=
  { f with route := f.route.under base }

/-- The match of the route under a base path. -/
def RouteMatch.under (base : Base) (m : RouteMatch) : RouteMatch :=
  { m with route := m.route.under base }

/-- The error for the path under a base path. -/
def RouteNotFound.under (base : Base) (e : RouteNotFound) : RouteNotFound :=
  { e with path := base.place e.path, failures := e.failures.map (BindingFailure.under base) }

namespace Router

/-- The router whose routes are under a base path. -/
def under (base : Base) (router : Router) : Router :=
  { router with routes := router.routes.map (Route.under base) }

variable {registry : Registry} {base : Base} {method : Method} {segs : List String} {query : Query}

theorem attempt_under (r : Route) :
  attempt registry method (base ++ segs) query (r.under base)
    = attempt registry method segs query r
  := by
  rw [attempt, attempt, Route.under, Pattern.match?_tokens_append]

theorem attempt_under_eq_none (h : ¬ base <+: segs) (r : Route) :
  attempt registry method segs query (r.under base) = none
  := by
  rw [attempt, Route.under, Pattern.match?_tokens_append_eq_none h]
  split <;> rfl

/-- The search under the base goes as the search without it. -/
theorem search_under (index : ℕ) (routes : List Route) :
  search registry method (base ++ segs) query index (routes.map (Route.under base))
    = ((search registry method segs query index routes).1.map (BindingFailure.under base),
      (search registry method segs query index routes).2.map (RouteMatch.under base))
  := by
  induction routes generalizing index with
  | nil => rfl
  | cons r routes ih =>
    rw [List.map_cons, search, search, attempt_under]
    split
    · rfl
    · rw [ih]
      rfl
    · rw [ih]

theorem search_under_eq_nil (h : ¬ base <+: segs) (index : ℕ) (routes : List Route) :
  search registry method segs query index (routes.map (Route.under base)) = ([], none)
  := by
  induction routes generalizing index with
  | nil => rfl
  | cons r routes ih =>
    rw [List.map_cons, search, attempt_under_eq_none h]
    exact ih (index + 1)

/-- A table that is read is read under a base path, and what is found there at a path under the
base is what is found without it at the path, or nothing is found for the same reasons.  Nothing is
found at a path that does not begin with the segments of the base. -/
theorem find_under (hbase : base.Literal) (slashes : ℕ) {table : String} {router : Router}
    (loaded : ofTable registry "" table = .ok router) :
  ofTable registry (base.pathWith slashes) table = .ok (router.under base)
    ∧ (∀ method path query, path.toList.head? = some '/' →
        (router.under base).find method (base.place path) query
          = ((router.find method path query).mapError (RouteNotFound.under base)).map
              (RouteMatch.under base))
    ∧ ∀ method path query, ¬ base <+: Pattern.pathSegments path →
        (router.under base).find method path query = .error ⟨method, path, []⟩
  := by
  obtain ⟨routes, hroutes, rfl⟩ := map_eq_ok_iff.1 loaded
  refine ⟨?_, ?_, ?_⟩
  · apply map_eq_ok_iff.2
    exact ⟨_, RouteTable.readLines_pathWith hbase slashes hroutes, rfl⟩
  · intro method path query hpath
    have hcandidates : (under base ⟨routes, registry⟩).candidates method (base.place path) query
        = ((candidates ⟨routes, registry⟩ method path query).1.map (BindingFailure.under base),
          (candidates ⟨routes, registry⟩ method path query).2.map (RouteMatch.under base)) := by
      rw [candidates, hbase.pathSegments_place hpath]
      exact search_under 0 routes
    rw [find, find, hcandidates]
    generalize candidates ⟨routes, registry⟩ method path query = found
    obtain ⟨failures, found⟩ := found
    cases found with
    | none => rfl
    | some found => rfl
  · intro method path query hbegin
    have hcandidates : (under base ⟨routes, registry⟩).candidates method path query = ([], none) :=
      search_under_eq_nil hbegin 0 routes
    rw [find, hcandidates]

/-- A table of users and of all other paths. -/
def usersTable : String := "GET /users/:id Users.show(Long id)\nGET /*rest Pages.show(String rest)"

/-- Its routes. -/
def usersRoutes : List Route := [
  ⟨⟨"GET"⟩, "/users/:id", [.literal "users", .capture "id"], "Users.show",
    [⟨"id", "Long", .path, none⟩], [], 1⟩,
  ⟨⟨"GET"⟩, "/*rest", [.wildcard "rest"], "Pages.show", [⟨"rest", "String", .path, none⟩], [], 2⟩]

theorem find_under_users :
  ofTable .standard "" usersTable = .ok ⟨usersRoutes, .standard⟩
    ∧ Base.Literal ["api", "v1"]
    ∧ ofTable .standard "/api/v1//" usersTable
      = .ok (under ["api", "v1"] ⟨usersRoutes, .standard⟩)
    ∧ ∃ found, find (under ["api", "v1"] ⟨usersRoutes, .standard⟩) ⟨"GET"⟩ "/api/v1/users/me" .empty
        = .ok found
      ∧ found.index = 1 ∧ found.values = [("rest", .text "users/me")]
  := by
  have hread : RouteTable.read .standard "" usersTable = .ok usersRoutes := by decide +kernel
  have loaded : ofTable .standard "" usersTable = .ok ⟨usersRoutes, .standard⟩ :=
    map_eq_ok_iff.2 ⟨_, hread, rfl⟩
  have hbase : Base.Literal ["api", "v1"] := by
    constructor <;> decide
  obtain ⟨hunder, hfind, -⟩ := find_under hbase 2 loaded
  have hfound : find ⟨usersRoutes, .standard⟩ ⟨"GET"⟩ "/users/me" .empty
      = .ok ⟨1, usersRoutes[1], [("rest", .text "users/me")]⟩ := by decide +kernel
  have hplaced := hfind ⟨"GET"⟩ "/users/me" .empty rfl
  rw [hfound] at hplaced
  exact ⟨loaded, hbase, hunder, _, hplaced, rfl, rfl⟩

end Router

end HttpDispatch
