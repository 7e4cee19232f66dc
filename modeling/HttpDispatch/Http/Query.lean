import HttpDispatch.Text.Percent

/-!
# Queries

A query is a list of named values, written `name=value` and separated by `&`.  A `+` stands
for a space.  Pairs whose bytes form no text are left out.
-/

namespace HttpDispatch

/-- The named values of a query, in order. -/
structure Query where
  pairs : List (String × String)
  deriving DecidableEq, Repr

namespace Query

open Text

/-- No values. -/
def empty : Query := ⟨[]⟩

/-- The text that a name or a value in a query denotes. -/
def decodePart (cs : List Char) : Option String :=
  Percent.decode (String.ofList (cs.map fun c => if c = '+' then ' ' else c))

/-- The pair that one piece of a query denotes. -/
def decodePair (piece : List Char) : Option (String × String) :=
  let (name, rest) := piece.span (· ≠ '=')
  match decodePart name, decodePart rest.tail with
  | some name, some value => some (name, value)
  | _, _ => none

/-- The query that a text denotes. -/
def read (raw : String) : Query :=
  ⟨((raw.toList.splitOn '&').filter (! ·.isEmpty)).filterMap decodePair⟩

/-- All values of a name. -/
def getAll (q : Query) (name : String) : List String :=
  (q.pairs.filter fun p => p.1 == name).map (·.2)

/-- The first value of a name. -/
def get? (q : Query) (name : String) : Option String := (q.getAll name).head?

/-- The only value of a name, if it has one; the error is the number of several values. -/
def single (q : Query) (name : String) : Except Nat (Option String) :=
  match q.getAll name with
  | [] => .ok none
  | [value] => .ok (some value)
  | values => .error values.length

end Query

end HttpDispatch
