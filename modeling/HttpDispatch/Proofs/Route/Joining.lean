import HttpDispatch.Proofs.Route.Gluing

/-!
# Joining tables

A table below another one is read after it, on lines that are numbered on.  What a line declares is
in its text alone, so lines that declare nothing and blanks at the ends of lines only count for the
numbers of lines, and the first line in error decides: `RouteTable.read_join`.
-/

namespace HttpDispatch

open Fallible Text

/-! ### Numbers of lines -/

/-- The route on another line. -/
def Route.onLine (r : Route) (n : ℕ) : Route := { r with line := n }

/-- The line of a declaration is only passed on. -/
theorem Declaration.check_atLine (registry : Registry) (d : Declaration) (n : ℕ) :
  (d.atLine n).check registry = (d.check registry).map (·.onLine n)
  := by
  have hunbound : ∀ captures, (d.atLine n).unbound? captures = d.unbound? captures := fun _ => rfl
  simp only [check, hunbound, bind, Except.bind]
  rw [atLine]
  cases Pattern.read d.path with
  | error fault => rfl
  | ok pattern =>
    simp only []
    cases buildParams registry pattern.captures [] d.params with
    | error fault => rfl
    | ok params => cases d.unbound? pattern.captures <;> rfl

namespace RouteTable

/-- What the text of a line declares, whatever line it is. -/
def declared (registry : Registry) (base : String) (cs : List Char) : Except RouteFault Route :=
  Declaration.read cs >>= fun d => (d.under base).check registry

/-- What is declared, on a line. -/
def numbered (n : ℕ) : Except RouteFault Route → Except RouteError Route
  | .ok r => .ok (r.onLine n)
  | .error fault => .error ⟨n, fault⟩

/-- What is read, so many lines below. -/
def later (d : ℕ) : Except RouteError (List Route) → Except RouteError (List Route)
  | .ok routes => .ok (routes.map fun r => r.onLine (r.line + d))
  | .error e => .error ⟨e.line + d, e.fault⟩

/-- What is read, without the numbers of lines. -/
def unnumbered : Except RouteError (List Route) → Except RouteFault (List Route)
  | .ok routes => .ok (routes.map (·.onLine 0))
  | .error e => .error e.fault

variable (registry : Registry) (base : String)

/-- Only the number of a line is not in its text. -/
theorem readLine_eq_numbered (n : ℕ) (cs : List Char) :
  readLine registry base n cs = numbered n (declared registry base cs)
  := by
  rw [readLine, declared]
  cases Declaration.read cs with
  | error fault => rfl
  | ok d =>
    simp only [Declaration.build, Declaration.check_atLine, bind, Except.bind]
    cases (d.under base).check registry <;> rfl

/-- Lines further below declare the same there. -/
theorem readLines_add (n d : ℕ) (lines : List (List Char)) :
  readLines registry base (n + d) lines = later d (readLines registry base n lines)
  := by
  induction lines generalizing n with
  | nil => rfl
  | cons line lines ih =>
    have hrest := ih (n + 1)
    rw [Nat.add_right_comm] at hrest
    rw [readLines, readLines, hrest]
    split
    · rfl
    · rw [readLine_eq_numbered, readLine_eq_numbered]
      cases declared registry base (trim line) with
      | error fault => rfl
      | ok r => cases readLines registry base (n + 1) lines <;> rfl

/-- Lines are read after those above them. -/
theorem readLines_append (n : ℕ) (above below : List (List Char)) :
  readLines registry base n (above ++ below)
    = (readLines registry base n above).bind fun routes =>
        (readLines registry base (n + above.length) below).map (routes ++ ·)
  := by
  induction above generalizing n with
  | nil =>
    change readLines registry base n below = (readLines registry base n below).map id
    rw [Except.map_id]
    rfl
  | cons line above ih =>
    have hlength : n + (line :: above).length = n + 1 + above.length := by
      rw [List.length_cons]
      omega
    rw [List.cons_append, readLines, readLines, ih, hlength]
    split
    · rfl
    · cases readLine registry base n (trim line) with
      | error e => rfl
      | ok r =>
        cases readLines registry base (n + 1) above with
        | error e => rfl
        | ok routes => cases readLines registry base (n + 1 + above.length) below <;> rfl

/-! ### Declaring lines -/

/-- The lines of a table. -/
def lines (table : String) : List (List Char) := table.toList.splitOn '\n'

/-- The texts of the lines that declare a route. -/
def texts (lines : List (List Char)) : List (List Char) :=
  (lines.map trim).filter (! isSkipped ·)

/-- The lines that declare a route, with their numbers from `n` on. -/
def declaring (n : ℕ) (lines : List (List Char)) : List (List Char × ℕ) :=
  ((lines.map trim).zipIdx n).filter (! isSkipped ·.1)

/-- A line of the table, numbered from one, declares a route with its text. -/
def Declares (table : String) (n : ℕ) (cs : List Char) : Prop :=
  1 ≤ n ∧ isSkipped cs = false ∧ ∃ line, (lines table)[n - 1]? = some line ∧ trim line = cs

theorem mem_declaring_iff {table : String} {n : ℕ} {cs : List Char} :
  (cs, n) ∈ declaring 1 (lines table) ↔ Declares table n cs
  := by
  simp only [declaring, Declares, List.mem_filter, List.mk_mem_zipIdx_iff_le_and_getElem?_sub,
    List.getElem?_map, Option.map_eq_some_iff, Bool.not_eq_true']
  tauto

theorem pairwise_declaring (n : ℕ) (lines : List (List Char)) :
  ((declaring n lines).map Prod.snd).Pairwise (· < ·)
  := by
  have hsub : ((declaring n lines).map Prod.snd).Sublist (List.range' n (lines.map trim).length) := by
    rw [← List.zipIdx_map_snd]
    apply List.Sublist.map
    apply List.filter_sublist
  exact List.Pairwise.sublist hsub (List.pairwise_lt_range' _)

/-- Lines are read one by one, those that declare a route. -/
theorem readLines_eq_mapM (n : ℕ) (lines : List (List Char)) :
  readLines registry base n lines
    = (declaring n lines).mapM fun l => readLine registry base l.2 l.1
  := by
  induction lines generalizing n with
  | nil => rfl
  | cons line lines ih =>
    have hcons : declaring n (line :: lines)
        = if isSkipped (trim line) then declaring (n + 1) lines
          else (trim line, n) :: declaring (n + 1) lines := by
      rw [declaring, List.map_cons, List.zipIdx_cons, List.filter_cons]
      cases isSkipped (trim line) <;> rfl
    rw [readLines, ih, hcons]
    split
    · rfl
    · rw [List.mapM_cons]
      cases readLine registry base n (trim line) <;> rfl

/-- Without the numbers of lines, the texts of the lines that declare a route decide. -/
theorem unnumbered_readLines (n : ℕ) (lines : List (List Char)) :
  unnumbered (readLines registry base n lines)
    = (texts lines).mapM fun cs => (declared registry base cs).map (·.onLine 0)
  := by
  induction lines generalizing n with
  | nil => rfl
  | cons line lines ih =>
    have hcons : texts (line :: lines)
        = if isSkipped (trim line) then texts lines else trim line :: texts lines := by
      rw [texts, List.map_cons, List.filter_cons]
      cases isSkipped (trim line) <;> rfl
    rw [readLines, hcons]
    split
    · apply ih
    · rw [List.mapM_cons, ← ih (n + 1), readLine_eq_numbered]
      cases declared registry base (trim line) with
      | error fault => rfl
      | ok r => cases readLines registry base (n + 1) lines <;> rfl

/-- Blanks at the ends of lines do not count. -/
theorem readLines_of_map_trim {lines lines' : List (List Char)}
    (h : lines.map trim = lines'.map trim) (n : ℕ) :
  readLines registry base n lines = readLines registry base n lines'
  := by
  rw [readLines_eq_mapM, readLines_eq_mapM, declaring, h, declaring]

/-! ### Tables -/

theorem lines_append (above below : String) :
  lines (above ++ "\n" ++ below) = lines above ++ lines below
  := by
  have hlist : (above ++ "\n" ++ below).toList = above.toList ++ '\n' :: below.toList := by simp
  rw [lines, hlist, List.splitOn_append_cons_self]
  rfl

variable {registry base}

theorem line_of_readLine_ok {n : ℕ} {cs : List Char} {r : Route}
    (h : readLine registry base n cs = .ok r) :
  r.line = n
  := by
  rw [readLine_eq_numbered] at h
  cases hr : declared registry base cs with
  | error fault =>
    rw [hr] at h
    cases h
  | ok r' =>
    rw [hr] at h
    obtain rfl := Except.ok.inj h
    rfl

/-- The lines before a declaring line have smaller numbers, and those after it larger ones. -/
theorem declaring_order {n : ℕ} {lines : List (List Char)} {front back : List (List Char × ℕ)}
    {l : List Char × ℕ} (h : declaring n lines = front ++ l :: back) :
  (∀ k ∈ front, k.2 < l.2) ∧ ∀ k ∈ back, l.2 < k.2
  := by
  have hsorted := List.pairwise_map.1 (pairwise_declaring n lines)
  rw [h, List.pairwise_append, List.pairwise_cons] at hsorted
  exact ⟨fun k hk => hsorted.2.2 k hk l List.mem_cons_self, hsorted.2.1.1⟩

/-- The routes of a table stand in the order of their lines, and every declaring line has one. -/
theorem routes_of_read {table : String} {routes : List Route}
    (h : read registry base table = .ok routes) :
  (routes.map Route.line).Pairwise (· < ·)
    ∧ ∀ r, r ∈ routes ↔ ∃ cs, Declares table r.line cs ∧ readLine registry base r.line cs = .ok r
  := by
  have hread : (declaring 1 (lines table)).mapM (fun l => readLine registry base l.2 l.1)
      = .ok routes := by
    rw [← readLines_eq_mapM]
    exact h
  have hlines := mapM_eq_ok_iff.1 hread
  constructor
  · rw [map_eq_map_of_forall₂ hlines fun l r hr => line_of_readLine_ok hr]
    apply pairwise_declaring
  · intro r
    constructor
    · intro hr
      obtain ⟨⟨cs, n⟩, hmem, hline⟩ := exists_mem_of_forall₂ hlines hr
      obtain rfl := line_of_readLine_ok hline
      exact ⟨cs, mem_declaring_iff.1 hmem, hline⟩
    · rintro ⟨cs, hdeclares, hline⟩
      obtain ⟨r', hr', hline'⟩ := exists_mem_of_forall₂ hlines.flip (mem_declaring_iff.2 hdeclares)
      obtain rfl := Except.ok.inj (hline.symm.trans hline')
      exact hr'

/-- The error of a table is that of the first line in error. -/
theorem read_eq_error_iff {table : String} {e : RouteError} :
  read registry base table = .error e
    ↔ ∃ cs, Declares table e.line cs ∧ readLine registry base e.line cs = .error e
        ∧ ∀ n < e.line, ∀ cs', Declares table n cs' → ∃ r, readLine registry base n cs' = .ok r
  := by
  have hread : read registry base table
      = (declaring 1 (lines table)).mapM fun l => readLine registry base l.2 l.1 :=
    readLines_eq_mapM registry base 1 _
  rw [hread, mapM_eq_error_iff]
  constructor
  · rintro ⟨front, ⟨cs, n⟩, back, routes, hsplit, hfront, hline⟩
    obtain ⟨-, hback⟩ := declaring_order hsplit
    obtain rfl := line_of_readLine hline
    refine ⟨cs, mem_declaring_iff.1 ?_, hline, ?_⟩
    · rw [hsplit]
      simp
    · intro n hn cs' hdeclares
      have hmem := mem_declaring_iff.2 hdeclares
      rw [hsplit, List.mem_append, List.mem_cons] at hmem
      rcases hmem with hmem | hmem | hmem
      · obtain ⟨r, -, hr⟩ := exists_mem_of_forall₂ hfront.flip hmem
        exact ⟨r, hr⟩
      · cases hmem
        exact absurd hn (lt_irrefl _)
      · exact absurd hn (hback _ hmem).asymm
  · rintro ⟨cs, hdeclares, hline, hbefore⟩
    obtain ⟨front, back, hsplit⟩ := List.append_of_mem (mem_declaring_iff.2 hdeclares)
    obtain ⟨hfront, -⟩ := declaring_order hsplit
    have hroutes : ∀ l ∈ front, ∃ r, readLine registry base l.2 l.1 = .ok r := by
      intro l hl
      apply hbefore l.2 (hfront l hl)
      apply mem_declaring_iff.1
      rw [hsplit]
      exact List.mem_append_left _ hl
    obtain ⟨routes, hroutes⟩ := exists_forall₂_of_mem hroutes
    exact ⟨front, _, back, routes, hsplit, hroutes, hline⟩

variable (registry base)

/-- A table below another one is read after it, on lines that are numbered on.  Routes stand in the
order of their lines, the first line in error decides, and neither lines that declare nothing nor
carriage returns at the ends of lines count, but for the numbers of lines. -/
theorem read_join :
  (∀ above below,
      read registry base (above ++ "\n" ++ below)
        = match read registry base above, read registry base below with
          | .error e, _ => .error e
          | .ok _, .error e => .error ⟨e.line + (above.toList.count '\n' + 1), e.fault⟩
          | .ok routes, .ok routes' =>
            .ok (routes ++ routes'.map fun r => r.onLine (r.line + (above.toList.count '\n' + 1))))
    ∧ (∀ table routes, read registry base table = .ok routes →
        (routes.map Route.line).Pairwise (· < ·)
          ∧ ∀ r, r ∈ routes
            ↔ ∃ cs, Declares table r.line cs ∧ readLine registry base r.line cs = .ok r)
    ∧ (∀ table e, read registry base table = .error e
        ↔ ∃ cs, Declares table e.line cs ∧ readLine registry base e.line cs = .error e
            ∧ ∀ n < e.line, ∀ cs', Declares table n cs' →
                ∃ r, readLine registry base n cs' = .ok r)
    ∧ (∀ table table', texts (lines table) = texts (lines table') →
        unnumbered (read registry base table) = unnumbered (read registry base table'))
    ∧ ∀ table table',
        List.Forall₂ (fun line line' => line' = line ∨ line' = line ++ ['\r'])
          (lines table) (lines table') →
        read registry base table' = read registry base table
  := by
  refine ⟨?_, fun _ _ h => routes_of_read h, fun _ _ => read_eq_error_iff, ?_, ?_⟩
  · intro above below
    have hread : read registry base (above ++ "\n" ++ below)
        = readLines registry base 1 (lines above ++ lines below) := by
      rw [← lines_append]
      rfl
    have hlength : (lines above).length = above.toList.count '\n' + 1 :=
      length_splitOn _ _
    rw [hread, readLines_append, readLines_add, hlength]
    change (read registry base above).bind (fun routes =>
      (later _ (read registry base below)).map (routes ++ ·)) = _
    cases read registry base above with
    | error e => rfl
    | ok routes => cases read registry base below <;> rfl
  · intro table table' htexts
    have hread := unnumbered_readLines registry base 1
    exact (hread _).trans ((congrArg _ htexts).trans (hread _).symm)
  · intro table table' hends
    apply readLines_of_map_trim
    apply map_eq_map_of_forall₂ hends
    rintro line line' (rfl | rfl)
    · rfl
    · have hreturn : Blank ['\r'] := by decide
      exact trim_append blank_nil hreturn line

/-- Two tables, the second with a comment before its route. -/
def visitTables : String × String :=
  ("GET /visits V.list()", "# changes\r\nPOST /visits V.add()")

/-- Their routes, those of the second table on its own lines. -/
def visitRoutes : List Route × List Route :=
  ([⟨⟨"GET"⟩, "/visits", [.literal "visits"], "V.list", [], [], 1⟩],
    [⟨⟨"POST"⟩, "/visits", [.literal "visits"], "V.add", [], [], 2⟩])

theorem read_join_visits :
  read .standard "" visitTables.1 = .ok visitRoutes.1
    ∧ read .standard "" visitTables.2 = .ok visitRoutes.2
    ∧ read .standard "" "GET /visits V.list()\n# changes\r\nPOST /visits V.add()"
        = .ok (visitRoutes.1 ++ visitRoutes.2.map (·.onLine 3))
    ∧ (visitRoutes.1.map Route.line).Pairwise (· < ·)
    ∧ (∃ cs, Declares "\nget / V.x()" 2 cs
        ∧ readLine .standard "" 2 cs = .error ⟨2, .malformedMethod "get"⟩)
    ∧ unnumbered (read .standard "" "#\nGET /visits V.list()")
        = unnumbered (read .standard "" visitTables.1)
    ∧ read .standard "" "#\r\nGET /visits V.list()\r" = read .standard "" "#\nGET /visits V.list()"
  := by
  obtain ⟨hjoin, hroutes, herror, htexts, hends⟩ := read_join .standard ""
  have habove : read .standard "" visitTables.1 = .ok visitRoutes.1 := by decide +kernel
  have hbelow : read .standard "" visitTables.2 = .ok visitRoutes.2 := by decide +kernel
  have hmethod : read .standard "" "\nget / V.x()" = .error ⟨2, .malformedMethod "get"⟩ := by
    decide +kernel
  have hsame : texts (lines "#\nGET /visits V.list()") = texts (lines visitTables.1) := by
    decide +kernel
  have hreturns : List.Forall₂ (fun line line' => line' = line ∨ line' = line ++ ['\r'])
      (lines "#\nGET /visits V.list()") (lines "#\r\nGET /visits V.list()\r") := by
    have hlines : lines "#\nGET /visits V.list()" = [['#'], "GET /visits V.list()".toList]
        ∧ lines "#\r\nGET /visits V.list()\r"
          = [['#'] ++ ['\r'], "GET /visits V.list()".toList ++ ['\r']] := by decide +kernel
    rw [hlines.1, hlines.2]
    exact .cons (.inr rfl) (.cons (.inr rfl) .nil)
  refine ⟨habove, hbelow, ?_, (hroutes _ _ habove).1, ?_, htexts _ _ hsame, hends _ _ hreturns⟩
  · have hread := hjoin visitTables.1 visitTables.2
    rw [habove, hbelow] at hread
    exact hread
  · obtain ⟨cs, hdeclares, hline, -⟩ := (herror _ _).1 hmethod
    exact ⟨cs, hdeclares, hline⟩

end RouteTable

end HttpDispatch
