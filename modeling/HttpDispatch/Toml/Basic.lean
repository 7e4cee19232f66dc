import HttpDispatch.Number.Floating

/-!
# Documents of settings

A document is a table: names with values, which are texts, numbers, truth values, times,
lists and tables again.  Tables are made by headers, by names with points in them, and in
braces, and how a table was made decides what can be added to it.
-/

namespace HttpDispatch

/-- How a table came to be. -/
inductive TableOrigin where
  /-- A header names a table inside it. -/
  | implicit
  /-- A name with a point goes through it. -/
  | dotted
  /-- A header names it. -/
  | explicit
  /-- It stands in braces. -/
  | inline
  deriving DecidableEq, Repr

/-- A value of a document. -/
inductive Toml where
  | text (s : String)
  | integer (n : Int)
  | float (x : Floating .double)
  | boolean (b : Bool)
  /-- A date, a time or both, as it is written. -/
  | time (s : String)
  | list (items : List Toml)
  | table (origin : TableOrigin) (entries : List (String × Toml))
  /-- The tables of a header in double brackets. -/
  | tables (items : List (List (String × Toml)))

namespace Toml

/-- The entries of a table. -/
abbrev Entries := List (String × Toml)

/-- The entries with one more, unless its name is taken. -/
def addEntry (entries : Entries) (name : String) (v : Toml) : Option Entries :=
  if (entries.map (·.1)).contains name then none else some (entries ++ [(name, v)])

/-- The entries with the value of a name replaced. -/
def setEntry (entries : Entries) (name : String) (v : Toml) : Entries :=
  entries.filter (·.1 != name) ++ [(name, v)]

/-- The entries of a table made as `origin` says, with a value added under the names `path`
inside the table.  Every table on the way that is not there is made, and the last one must
have been made by a name with a point. -/
def addDotted (origin : TableOrigin) (entries : Entries) (name : String) (v : Toml) :
    List String → Option Entries
  | [] => if origin = .dotted then addEntry entries name v else none
  | key :: path =>
    match entries.lookup key with
    | none =>
      (addDotted .dotted [] name v path).map fun es => entries ++ [(key, .table .dotted es)]
    | some (.table .implicit es) =>
      (addDotted .implicit es name v path).map fun es => setEntry entries key (.table .implicit es)
    | some (.table .dotted es) =>
      (addDotted .dotted es name v path).map fun es => setEntry entries key (.table .dotted es)
    | some (.tables items) =>
      match items.getLast? with
      | none => none
      | some es =>
        (addDotted .explicit es name v path).map fun es =>
          setEntry entries key (.tables (items.dropLast ++ [es]))
    | some _ => none

/-- The entries with a value added under a name, which may go through tables. -/
def addPair (entries : Entries) (names : List String) (v : Toml) : Option Entries :=
  match names.dropLast, names.getLast? with
  | _, none => none
  | [], some name => addEntry entries name v
  | path, some name => addDotted .explicit entries name v path

/-- The entries with several values added. -/
def addPairs (entries : Entries) (pairs : List (List String × Toml)) : Option Entries :=
  pairs.foldlM (fun es p => addPair es p.1 p.2) entries

/-- What follows a header up to the next one. -/
structure Section where
  /-- The names in the header. -/
  names : List String
  /-- Whether the header stands in double brackets. -/
  repeated : Bool
  pairs : List (List String × Toml)

/-- The entries with the last table that a section names added. -/
def addNamed (entries : Entries) (name : String) (s : Section) : Option Entries :=
  if s.repeated then
    match entries.lookup name with
    | none => (addPairs [] s.pairs).map fun es => entries ++ [(name, .tables [es])]
    | some (.tables items) =>
      (addPairs [] s.pairs).map fun es => setEntry entries name (.tables (items ++ [es]))
    | some _ => none
  else
    match entries.lookup name with
    | none => (addPairs [] s.pairs).map fun es => entries ++ [(name, .table .explicit es)]
    | some (.table .implicit old) =>
      (addPairs old s.pairs).map fun es => setEntry entries name (.table .explicit es)
    | some _ => none

/-- The entries with a section added inside the tables `path`. -/
def addWithin (entries : Entries) (name : String) (s : Section) : List String → Option Entries
  | [] => addNamed entries name s
  | key :: path =>
    match entries.lookup key with
    | none =>
      (addWithin [] name s path).map fun es => entries ++ [(key, .table .implicit es)]
    | some (.table .inline _) => none
    | some (.table origin es) =>
      (addWithin es name s path).map fun es => setEntry entries key (.table origin es)
    | some (.tables items) =>
      match items.getLast? with
      | none => none
      | some es =>
        (addWithin es name s path).map fun es =>
          setEntry entries key (.tables (items.dropLast ++ [es]))
    | some _ => none

/-- The entries of a document with one more section. -/
def addSection (entries : Entries) (s : Section) : Option Entries :=
  match s.names.getLast? with
  | none => addPairs entries s.pairs
  | some name => addWithin entries name s s.names.dropLast

end Toml

end HttpDispatch
