import HttpDispatch.Proofs.Route.Placing

/-!
# Rejected tables under a base path

Whether a path begins with a slash is only seen when the base path stands before it.  So a table
is rejected under a base path at the line at which it is rejected without it, unless the path on
that line begins with no slash and the base path makes up for it: `RouteTable.rejectedAt_read_iff`.
-/

namespace HttpDispatch.RouteTable

open Fallible Text

/-- The line at which a table is rejected. -/
def rejectedAt : Except RouteError (List Route) → Option ℕ
  | .ok _ => none
  | .error e => some e.line

/-- The line declares a path that begins with no slash, and one that a route can have when it is
glued to the base path. -/
def Glued (registry : Registry) (base : Base) (line : List Char) : Prop :=
  ∃ d r, Declaration.read (trim line) = .ok d ∧ d.path.toList.head? ≠ some '/'
    ∧ ({ d with path := base.path ++ d.path } : Declaration).build registry = .ok r

variable {registry : Registry} {base : Base}

/-! ### Lines -/

theorem line_of_readLine {path : String} {n : ℕ} {cs : List Char} {e : RouteError}
    (h : readLine registry path n cs = .error e) :
  e.line = n
  := by
  rw [readLine] at h
  split at h
  · obtain rfl := Except.error.inj h
    rfl
  · rw [Declaration.build] at h
    split at h
    · cases h
    · obtain rfl := Except.error.inj h
      rfl

theorem le_line_of_readLines {path : String} {n : ℕ} {lines : List (List Char)} {e : RouteError}
    (h : readLines registry path n lines = .error e) :
  n ≤ e.line
  := by
  induction lines generalizing n with
  | nil => cases h
  | cons line lines ih =>
    rw [readLines] at h
    split at h
    · exact Nat.le_of_succ_le (ih h)
    · split at h
      · rename_i hline
        obtain rfl := Except.error.inj h
        exact (line_of_readLine hline).ge
      · cases hrest : readLines registry path (n + 1) lines with
        | ok routes =>
          rw [hrest] at h
          cases h
        | error e' =>
          rw [hrest] at h
          obtain rfl := Except.error.inj h
          exact Nat.le_of_succ_le (ih hrest)

/-- A line that declares no route declares one under a base path exactly if its path is glued to the
base path. -/
theorem readLine_pathWith_iff (hbase : base.Literal) (slashes : ℕ) {n : ℕ} {line : List Char}
    {e : RouteError} (h : readLine registry "" n (trim line) = .error e) :
  (∃ r, readLine registry (base.pathWith slashes) n (trim line) = .ok r) ↔ Glued registry base line
  := by
  have hplace : ∀ d : Declaration, d.path.toList.head? ≠ some '/' →
      base.place d.path = base.path ++ d.path := by
    intro d hhead
    apply if_neg
    intro heq
    rw [heq] at hhead
    exact hhead rfl
  simp only [readLine_eq_ok_iff, hbase.under_pathWith slashes]
  constructor
  · rintro ⟨r, d, hread, hbuild⟩
    have hhead : d.path.toList.head? ≠ some '/' := by
      intro hhead
      obtain ⟨r, hr, -⟩ := (@Base.Literal.build_place_iff _ hbase _ (d.atLine n) hhead _).1 hbuild
      cases h.symm.trans (readLine_eq_ok_iff.2 ⟨d, hread, hr⟩)
    rw [hplace d hhead] at hbuild
    exact ⟨d, _, hread, hhead, Declaration.build_atLine hbuild d.line⟩
  · rintro ⟨d, r, hread, hhead, hbuild⟩
    use { r with line := n }, d, hread
    rw [hplace d hhead]
    exact @Declaration.build_atLine _ { d with path := base.path ++ d.path } _ d.line hbuild n

/-! ### Tables -/

theorem rejectedAt_map (x : Except RouteError (List Route)) (f : List Route → List Route) :
  rejectedAt (x.map f) = rejectedAt x
  := by
  cases x <;> rfl

theorem le_of_rejectedAt {path : String} {n m : ℕ} {lines : List (List Char)}
    (h : rejectedAt (readLines registry path n lines) = some m) :
  n ≤ m
  := by
  cases hread : readLines registry path n lines with
  | ok routes =>
    rw [hread] at h
    cases h
  | error e =>
    rw [hread] at h
    obtain rfl := Option.some.inj h
    exact le_line_of_readLines hread

/-- Lines are rejected under a base path as without it unless the one that is rejected is glued to
it. -/
theorem rejectedAt_readLines_iff (hbase : base.Literal) (slashes n : ℕ) (lines : List (List Char)) :
  rejectedAt (readLines registry (base.pathWith slashes) n lines)
      = rejectedAt (readLines registry "" n lines)
    ↔ ∀ k line, rejectedAt (readLines registry "" n lines) = some (k + n) → lines[k]? = some line →
        ¬ Glued registry base line
  := by
  induction lines generalizing n with
  | nil => simp [readLines, rejectedAt]
  | cons line lines ih =>
    -- If this line is not rejected, those after it decide.
    have hlater : (rejectedAt (readLines registry (base.pathWith slashes) (n + 1) lines)
          = rejectedAt (readLines registry "" (n + 1) lines)
        ↔ ∀ k line', rejectedAt (readLines registry "" (n + 1) lines) = some (k + n) →
          (line :: lines)[k]? = some line' → ¬ Glued registry base line') := by
      have hshift : ∀ k, k + 1 + n = k + (n + 1) := by omega
      rw [ih (n + 1)]
      constructor
      · rintro h (_ | k) line' hk hline'
        · have hle := le_of_rejectedAt hk
          omega
        · rw [hshift] at hk
          exact h k line' hk hline'
      · intro h k line' hk hline'
        rw [← hshift] at hk
        exact h (k + 1) line' hk hline'
    rw [readLines, readLines]
    split
    · exact hlater
    · cases hline : readLine registry "" n (trim line) with
      | ok r =>
        rw [readLine_pathWith hbase slashes hline]
        simp only [rejectedAt_map]
        exact hlater
      | error e =>
        have hglued := readLine_pathWith_iff hbase slashes hline
        have hn : rejectedAt (.error e) = some n := congrArg some (line_of_readLine hline)
        have hhead : (∀ k line', rejectedAt (.error e) = some (k + n) →
            (line :: lines)[k]? = some line' → ¬ Glued registry base line')
            ↔ ¬ Glued registry base line := by
          rw [hn]
          constructor
          · intro h
            apply h 0 line _ rfl
            rw [Nat.zero_add]
          · intro h k line' hk hline'
            obtain rfl : k = 0 := by simpa using hk
            rwa [← Option.some.inj hline']
        simp only
        rw [hhead, ← hglued, hn]
        cases hline' : readLine registry (base.pathWith slashes) n (trim line) with
        | ok r =>
          simp only [rejectedAt_map, Except.ok.injEq, exists_eq', not_true, iff_false]
          intro hrest
          have hle := le_of_rejectedAt hrest
          omega
        | error e' =>
          simp [rejectedAt, line_of_readLine hline']

/-- A table is rejected under a base path at the same line as without it, if at any, unless the path
on that line is glued to the base path. -/
theorem rejectedAt_read_iff (hbase : base.Literal) (slashes : ℕ) (table : String) :
  rejectedAt (read registry (base.pathWith slashes) table) = rejectedAt (read registry "" table)
    ↔ ∀ k line, rejectedAt (read registry "" table) = some (k + 1) →
        (table.toList.splitOn '\n')[k]? = some line → ¬ Glued registry base line
  := rejectedAt_readLines_iff hbase slashes 1 _

/-- A table whose second line declares a parameter of no type. -/
def untypedTable : String :=
  "GET / H.index()\nGET users H.list(Nope n)\nGET x H.x()"

theorem rejectedAt_read_iff_untyped :
  Base.Literal ["api"]
    ∧ rejectedAt (read .standard "" untypedTable) = some 2
    ∧ rejectedAt (read .standard (Base.pathWith ["api"] 0) untypedTable) = some 2
  := by
  have hbase : Base.Literal ["api"] := by
    constructor <;> decide
  have hrejected : rejectedAt (read .standard "" untypedTable) = some 2 := by decide +kernel
  have hsame := (@rejectedAt_read_iff .standard _ hbase 0 untypedTable).2
  rw [hrejected] at hsame
  use hbase, hrejected
  apply hsame
  -- The path on the second line begins with no slash, but its parameter has a type of no binder.
  rintro k line hk hline ⟨d, r, hread, -, hbuild⟩
  obtain rfl : k = 1 := by simpa using hk.symm
  have hsecond : (untypedTable.toList.splitOn '\n')[1]? = some "GET users H.list(Nope n)".toList := by
    decide +kernel
  obtain rfl := Option.some.inj (hline.symm.trans hsecond)
  have hdeclares : Declaration.read (trim "GET users H.list(Nope n)".toList)
      = .ok ⟨⟨"GET"⟩, "users", "H.list", [⟨"Nope", "n", .plain⟩], [], 0⟩ := by decide +kernel
  obtain rfl := Except.ok.inj (hread.symm.trans hdeclares)
  have hfault : Declaration.build .standard
      ⟨⟨"GET"⟩, Base.path ["api"] ++ "users", "H.list", [⟨"Nope", "n", .plain⟩], [], 0⟩
      = .error ⟨0, .unknownType "Nope" "n"⟩ := by decide +kernel
  cases hbuild.symm.trans hfault

/-- The table is read under the base path, glued to which its path is one segment. -/
theorem rejectedAt_read_users :
  Base.Literal ["api"]
    ∧ rejectedAt (read .standard "" "GET users H.list()") = some 1
    ∧ read .standard (Base.pathWith ["api"] 0) "GET users H.list()"
        = .ok [⟨⟨"GET"⟩, "/apiusers", [.literal "apiusers"], "H.list", [], [], 1⟩]
  := by
  refine ⟨?_, by decide +kernel, by decide +kernel⟩
  constructor <;> decide

end HttpDispatch.RouteTable
