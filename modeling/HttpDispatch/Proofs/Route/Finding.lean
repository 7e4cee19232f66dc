import HttpDispatch.Proofs.Route.Acceptance

/-!
# The first route that accepts

A router finds the first of its routes that accepts a request, and if none does, it reports the
routes that reject it, in order.
-/

namespace HttpDispatch.Router

section

variable {registry : Registry} {method : Method} {segs : List String} {query : Query}

/-- A route whose attempt does not succeed is passed over. -/
theorem search_cons_snd {r : Route} {routes : List Route} {index : ℕ}
    (h : ∀ values, attempt registry method segs query r ≠ some (.ok values)) :
  (search registry method segs query index (r :: routes)).2
    = (search registry method segs query (index + 1) routes).2
  := by
  rw [search]
  split
  · rename_i values hvalues
    exact absurd hvalues (h values)
  · rfl
  · rfl

/-- The search ends at the first route whose attempt succeeds. -/
theorem search_eq_some_iff {routes : List Route} {index : ℕ} {found : RouteMatch} :
  (search registry method segs query index routes).2 = some found
    ↔ ∃ k, found.index = index + k ∧ routes[k]? = some found.route
      ∧ attempt registry method segs query found.route = some (.ok found.values)
      ∧ ∀ j < k, ∀ r, routes[j]? = some r → ∀ values,
          attempt registry method segs query r ≠ some (.ok values)
  := by
  induction routes generalizing index with
  | nil => simp [search]
  | cons r routes ih =>
    by_cases hr : ∃ values, attempt registry method segs query r = some (.ok values)
    · obtain ⟨values, hvalues⟩ := hr
      obtain ⟨i, route, vs⟩ := found
      simp only [search, hvalues, Option.some.injEq, RouteMatch.mk.injEq]
      constructor
      · rintro ⟨rfl, rfl, rfl⟩
        use 0, rfl, rfl, hvalues
        exact nofun
      · rintro ⟨_ | k, rfl, hroute, hattempt, hleast⟩
        · obtain rfl : r = route := by simpa using hroute
          obtain rfl : values = vs := by simpa [hvalues] using hattempt
          exact ⟨rfl, rfl, rfl⟩
        · exact absurd hvalues (hleast 0 (Nat.succ_pos k) r rfl values)
    · have hr : ∀ values, attempt registry method segs query r ≠ some (.ok values) :=
        fun values hvalues => hr ⟨values, hvalues⟩
      rw [search_cons_snd hr, ih]
      constructor
      · rintro ⟨k, hindex, hroute, hattempt, hleast⟩
        use k + 1, by omega, hroute, hattempt
        rintro (_ | j) hj r' hr'
        · obtain rfl : r = r' := by simpa using hr'
          exact hr
        · apply hleast j (Nat.lt_of_succ_lt_succ hj) r' hr'
      · rintro ⟨_ | k, hindex, hroute, hattempt, hleast⟩
        · obtain rfl : r = found.route := by simpa using hroute
          exact absurd hattempt (hr _)
        · use k, by omega, hroute, hattempt
          intro j hj
          apply hleast (j + 1) (Nat.succ_lt_succ hj)

/-- The search ends nowhere if every attempt fails. -/
theorem search_eq_none_iff {routes : List Route} {index : ℕ} :
  (search registry method segs query index routes).2 = none
    ↔ ∀ r ∈ routes, ∀ values, attempt registry method segs query r ≠ some (.ok values)
  := by
  induction routes generalizing index with
  | nil => simp [search]
  | cons r routes ih =>
    rw [search, List.forall_mem_cons]
    split
    · simp_all
    · simp_all
    · simp_all

/-- A search that ends nowhere collects the routes whose attempts fail. -/
theorem mem_search_iff {routes : List Route} {index : ℕ} {f : BindingFailure}
    (h : (search registry method segs query index routes).2 = none) :
  f ∈ (search registry method segs query index routes).1
    ↔ ∃ k, f.index = index + k ∧ routes[k]? = some f.route
      ∧ attempt registry method segs query f.route = some (.error f.source)
  := by
  induction routes generalizing index with
  | nil => simp [search]
  | cons r routes ih =>
    obtain ⟨hr, hroutes⟩ := List.forall_mem_cons.1 (search_eq_none_iff.1 h)
    have ih := @ih (index + 1) (search_eq_none_iff.2 hroutes)
    have shift : (∃ k, f.index = index + k ∧ (r :: routes)[k]? = some f.route
          ∧ attempt registry method segs query f.route = some (.error f.source))
        ↔ (f.index = index ∧ r = f.route
            ∧ attempt registry method segs query f.route = some (.error f.source))
          ∨ f ∈ (search registry method segs query (index + 1) routes).1 := by
      rw [ih]
      constructor
      · rintro ⟨_ | k, hindex, hroute, hattempt⟩
        · exact .inl ⟨hindex, by simpa using hroute, hattempt⟩
        · exact .inr ⟨k, by omega, hroute, hattempt⟩
      · rintro (⟨hindex, rfl, hattempt⟩ | ⟨k, hindex, hroute, hattempt⟩)
        · exact ⟨0, hindex, rfl, hattempt⟩
        · exact ⟨k + 1, by omega, hroute, hattempt⟩
    rw [shift, search]
    obtain ⟨i, route, source⟩ := f
    split
    · rename_i values hvalues
      exact absurd hvalues (hr values)
    · rename_i e he
      rw [List.mem_cons, BindingFailure.mk.injEq]
      apply or_congr_left
      constructor
      · rintro ⟨rfl, rfl, rfl⟩
        exact ⟨rfl, rfl, he⟩
      · rintro ⟨rfl, rfl, hattempt⟩
        exact ⟨rfl, rfl, by simpa [he] using hattempt.symm⟩
    · rename_i hnone
      constructor
      · exact .inr
      · rintro (⟨-, rfl, hattempt⟩ | hmem)
        · simp [hnone] at hattempt
        · exact hmem

/-- The failures are collected in the order of the routes. -/
theorem pairwise_search {routes : List Route} {index : ℕ} :
  (search registry method segs query index routes).1.Pairwise (·.index < ·.index)
    ∧ ∀ f ∈ (search registry method segs query index routes).1, index ≤ f.index
  := by
  induction routes generalizing index with
  | nil => simp [search]
  | cons r routes ih =>
    obtain ⟨hpairwise, hindex⟩ := @ih (index + 1)
    rw [search]
    split
    · simp
    · constructor
      · apply List.pairwise_cons.2 ⟨?_, hpairwise⟩
        intro f hf
        apply hindex f hf
      · intro f hf
        rcases List.mem_cons.1 hf with rfl | hf
        · apply Nat.le_refl index
        · apply Nat.le_trans (Nat.le_succ index) (hindex f hf)
    · use hpairwise
      intro f hf
      apply Nat.le_trans (Nat.le_succ index) (hindex f hf)

end

/-! ### Finding -/

/-- The match is the first route of the router that takes the request, with its values. -/
structure IsFirst (router : Router) (method : Method) (path : String) (query : Query)
    (found : RouteMatch) : Prop where
  route : router.routes[found.index]? = some found.route
  accepts : found.route.Accepts router.registry method path query found.values
  least : ∀ j < found.index, ∀ r, router.routes[j]? = some r → ∀ values,
    ¬ r.Accepts router.registry method path query values

variable {router : Router} {method : Method} {path : String} {query : Query}

/-- The candidates of a request end at the first route that accepts it. -/
theorem candidates_eq_some_iff (h : ∀ r ∈ router.routes, r.WellFormed) {found : RouteMatch} :
  (router.candidates method path query).2 = some found
    ↔ router.IsFirst method path query found
  := by
  apply search_eq_some_iff.trans
  constructor
  · rintro ⟨k, hindex, hroute, hattempt, hleast⟩
    obtain rfl : found.index = k := by omega
    constructor
    · exact hroute
    · apply (attempt_eq_ok_iff (h _ (List.mem_of_getElem? hroute))).1 hattempt
    · intro j hj r hr values haccepts
      apply hleast j hj r hr values
      apply (attempt_eq_ok_iff (h r (List.mem_of_getElem? hr))).2 haccepts
  · rintro ⟨hroute, haccepts, hleast⟩
    use found.index, by omega, hroute
    constructor
    · apply (attempt_eq_ok_iff (h _ (List.mem_of_getElem? hroute))).2 haccepts
    · intro j hj r hr values hattempt
      apply hleast j hj r hr values
      apply (attempt_eq_ok_iff (h r (List.mem_of_getElem? hr))).1 hattempt

theorem find_eq_ok_iff {found : RouteMatch} :
  router.find method path query = .ok found
    ↔ (router.candidates method path query).2 = some found
  := by
  rw [find]
  split
  · rename_i heq
    simp [heq]
  · rename_i heq
    simp [heq]

/-- The route that is found stands at its place. -/
theorem getElem?_of_find {found : RouteMatch} (h : router.find method path query = .ok found) :
  router.routes[found.index]? = some found.route
  := by
  obtain ⟨k, hindex, hroute, -⟩ := search_eq_some_iff.1 (find_eq_ok_iff.1 h)
  rw [hindex, Nat.zero_add]
  exact hroute

theorem find_of_candidates (h : (router.candidates method path query).2 = none) :
  router.find method path query
    = .error ⟨method, path, (router.candidates method path query).1⟩
  := by
  rw [find]
  split
  · rename_i heq
    exact nomatch heq ▸ h
  · rename_i heq
    rw [heq]

/-- A router over validated routes finds the first route that accepts, with one value for each
parameter.  If no route accepts, it reports those that reject, in order. -/
theorem find_first (h : ∀ r ∈ router.routes, r.Validated) :
  (∀ found, router.find method path query = .ok found
      ↔ router.IsFirst method path query found)
    ∧ (∀ found, router.find method path query = .ok found →
        found.values.map Prod.fst = found.route.params.map Param.name)
    ∧ ((∀ r ∈ router.routes, ∀ values,
          ¬ r.Accepts router.registry method path query values) →
        ∃ failures, router.find method path query = .error ⟨method, path, failures⟩
          ∧ failures.Pairwise (·.index < ·.index)
          ∧ ∀ f, f ∈ failures ↔ router.routes[f.index]? = some f.route
              ∧ f.route.Rejects router.registry method path query f.source)
  := by
  have h : ∀ r ∈ router.routes, r.WellFormed := fun r hr => (h r hr).wellFormed
  have hfound : ∀ found, router.find method path query = .ok found
      ↔ router.IsFirst method path query found := by
    intro found
    rw [find_eq_ok_iff, candidates_eq_some_iff h]
  refine ⟨hfound, ?_, ?_⟩
  · intro found hfind
    apply Fallible.map_eq_map_of_forall₂ ((hfound found).1 hfind).accepts.bound
    intro p v hv
    apply hv.1
  · intro hnone
    have hcandidates : (router.candidates method path query).2 = none := by
      apply search_eq_none_iff.2
      intro r hr values hattempt
      apply hnone r hr values
      apply (attempt_eq_ok_iff (h r hr)).1 hattempt
    use (router.candidates method path query).1, find_of_candidates hcandidates,
      pairwise_search.1
    intro f
    apply (mem_search_iff hcandidates).trans
    constructor
    · rintro ⟨k, hindex, hroute, hattempt⟩
      obtain rfl : f.index = k := by omega
      use hroute
      apply (attempt_eq_error_iff (h _ (List.mem_of_getElem? hroute))).1 hattempt
    · rintro ⟨hroute, hrejects⟩
      use f.index, by omega, hroute
      apply (attempt_eq_error_iff (h _ (List.mem_of_getElem? hroute))).2 hrejects

/-- A router whose second route takes the segments that do not bind in the first one. -/
def overlapping : Router where
  routes := [
    ⟨⟨"GET"⟩, "/item/:id", [.literal "item", .capture "id"], "Items.byId",
      [⟨"id", "Long", .path, none⟩], [], 1⟩,
    ⟨⟨"GET"⟩, "/item/:name", [.literal "item", .capture "name"], "Items.byName",
      [⟨"name", "String", .path, none⟩, ⟨"page", "Int", .query, some ⟨"1", .int32 1⟩⟩], [], 2⟩]
  registry := .standard

theorem find_first_overlapping :
  (∀ r ∈ overlapping.routes, r.Validated)
    ∧ ∃ found, overlapping.find ⟨"GET"⟩ "/item/a%20pen" .empty = .ok found
      ∧ found.values = [("name", .text "a pen"), ("page", .int32 1)]
      ∧ overlapping.IsFirst ⟨"GET"⟩ "/item/a%20pen" .empty found
  := by
  have hvalidated : ∀ r ∈ overlapping.routes, r.Validated := by
    intro r hr
    use .standard
    simp only [overlapping, List.mem_cons, List.not_mem_nil, or_false] at hr
    rcases hr with rfl | rfl
    · use ⟨⟨"GET"⟩, "/item/:id", "Items.byId", [⟨"Long", "id", .plain⟩], [], 1⟩
      decide +kernel
    · use ⟨⟨"GET"⟩, "/item/:name", "Items.byName",
        [⟨"String", "name", .plain⟩, ⟨"Int", "page", .defaulted "1"⟩], [], 2⟩
      decide +kernel
  have hfind : overlapping.find ⟨"GET"⟩ "/item/a%20pen" .empty
      = .ok ⟨1, overlapping.routes[1], [("name", .text "a pen"), ("page", .int32 1)]⟩ := by
    decide +kernel
  exact ⟨hvalidated, _, hfind, rfl, ((find_first hvalidated).1 _).1 hfind⟩

end HttpDispatch.Router
