import HttpDispatch.Number.Shortest

/-!
# Values of JSON

A value is written without spaces.  The names of an object are different and in order, so
that two equal values are written alike.
-/

namespace HttpDispatch

/-- A value of JSON. -/
inductive Json where
  | null
  | boolean (b : Bool)
  | integer (n : Int)
  | float (x : Floating .double)
  | text (s : String)
  | list (items : List Json)
  | object (members : List (String × Json))
  deriving Inhabited

namespace Json

/-- The members of an object with one more, which replaces one of the same name. -/
def insertMember (name : String) (v : Json) : List (String × Json) → List (String × Json)
  | [] => [(name, v)]
  | m :: ms =>
    if name < m.1 then (name, v) :: m :: ms
    else if name = m.1 then (name, v) :: ms
    else m :: insertMember name v ms

/-- The object with the given members; of several with one name the last counts. -/
def ofMembers (members : List (String × Json)) : Json :=
  .object (members.foldl (fun ms m => insertMember m.1 m.2 ms) [])

/-- A character between quotes. -/
def escapeChar (c : Char) : List Char :=
  if c = '"' ∨ c = '\\' then ['\\', c]
  else if c = '\x08' then ['\\', 'b']
  else if c = '\t' then ['\\', 't']
  else if c = '\n' then ['\\', 'n']
  else if c = '\x0c' then ['\\', 'f']
  else if c = '\r' then ['\\', 'r']
  else if c < ' ' then
    let digits := Nat.toDigits 16 c.toNat
    ['\\', 'u'] ++ List.replicate (4 - digits.length) '0' ++ digits
  else [c]

/-- A text between quotes. -/
def quote (s : String) : String := String.ofList ('"' :: s.toList.flatMap escapeChar ++ ['"'])

/-- A decimal with a point; numbers below `10 ^ -5` and from `10 ^ 16` on have an exponent with
a sign. -/
def decimalText (d : Decimal) : String :=
  let lead := Floating.leadingExponent d
  if d.digits = 0 ∨ (-5 ≤ lead ∧ lead < 16) then Floating.positional ".0" d
  else
    let ds := Nat.toDigits 10 d.digits
    String.ofList (ds.take 1 ++ (if ds.length = 1 then [] else '.' :: ds.drop 1))
      ++ (if lead < 0 then "e-" else "e+") ++ toString lead.natAbs

/-- A number in the fewest digits; what is not finite has no text of its own. -/
def numberText (x : Floating .double) : String :=
  if x.isFinite then x.write .even decimalText else "null"

mutual

/-- The value as it is written. -/
def toText : Json → String
  | .null => "null"
  | .boolean b => toString b
  | .integer n => toString n
  | .float x => numberText x
  | .text s => quote s
  | .list items => "[" ++ ",".intercalate (itemTexts items) ++ "]"
  | .object members => "\x7b" ++ ",".intercalate (memberTexts members) ++ "\x7d"

/-- The items of a list as they are written. -/
def itemTexts : List Json → List String
  | [] => []
  | v :: vs => v.toText :: itemTexts vs

/-- The members of an object as they are written. -/
def memberTexts : List (String × Json) → List String
  | [] => []
  | (name, v) :: ms => (quote name ++ ":" ++ v.toText) :: memberTexts ms

end

end Json

end HttpDispatch
