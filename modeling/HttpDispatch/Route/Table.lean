import HttpDispatch.Route.Declaration
import HttpDispatch.Text.Alphanumeric

/-!
# Route tables

A route table declares one route on each line: a method, a path, a handler with its
parameters in parentheses, and words of the application's choice.  Blank lines and lines
that begin with `#` declare nothing.  Values stand in single quotes, inside which a backslash
takes away the meaning of the character after it, and `Quoting` follows a text through its
quotes.
-/

namespace HttpDispatch

open Text

/-- Whether a place in a text lies inside quotes, and whether after a backslash there. -/
structure Quoting where
  quoted : Bool
  escaped : Bool
  deriving DecidableEq, Repr

namespace Quoting

/-- A place outside quotes. -/
def outside : Quoting := ⟨false, false⟩

/-- The place after one more character. -/
def step (q : Quoting) (c : Char) : Quoting :=
  if q.escaped then { q with escaped := false }
  else if c = '\\' ∧ q.quoted then { q with escaped := true }
  else if c = '\'' then { q with quoted := ! q.quoted }
  else q

end Quoting

namespace Declaration

/-- The text up to the parenthesis that closes a list of parameters, and what follows it.  No
parenthesis opens inside the list. -/
def closeList (q : Quoting) : List Char → Except RouteFault (List Char × List Char)
  | [] => .error (if q.quoted then .unterminatedQuote else .unbalancedParens)
  | c :: cs =>
    if ! q.quoted ∧ c = '(' then .error .unbalancedParens
    else if ! q.quoted ∧ c = ')' then .ok ([], cs)
    else (closeList (q.step c) cs).map fun r => (c :: r.1, r.2)

/-- The list with `c` before its first element. -/
def consFirst (c : Char) : List (List Char) → List (List Char)
  | [] => [[c]]
  | p :: ps => (c :: p) :: ps

/-- The pieces of a text between the commas outside quotes. -/
def pieces (q : Quoting) : List Char → Except RouteFault (List (List Char))
  | [] => if q.quoted then .error .unterminatedQuote else .ok [[]]
  | c :: cs =>
    if ! q.quoted ∧ c = ',' then (pieces q cs).map ([] :: ·)
    else (pieces (q.step c) cs).map (consFirst c)

/-- The declarations in a list of parameters; a blank list has none. -/
def splitParams (list : List Char) : Except RouteFault (List (List Char)) :=
  if (trim list).isEmpty then .ok []
  else (pieces .outside list).map fun ps => ps.map trim

/-- The text with every backslash before a quote taken away. -/
def unescapeQuotes : List Char → List Char
  | [] => []
  | [c] => [c]
  | c :: d :: cs =>
    if c = '\\' ∧ d = '\'' then '\'' :: unescapeQuotes cs else c :: unescapeQuotes (d :: cs)

/-- The text that a declared value denotes: between quotes any text, otherwise one without
quotes and spaces. -/
def unquote : List Char → Option (List Char)
  | '\'' :: cs =>
    if cs.getLast? = some '\'' then some (unescapeQuotes cs.dropLast) else none
  | cs => if cs.contains '\'' ∨ cs.contains ' ' then none else some cs

/-- The signature of a parameter and what its declaration says about the value: the text
after the first `=`, and whether a `?` stands before it. -/
def splitValue (decl : List Char) : List Char × Option (Bool × List Char) :=
  let (signature, rest) := decl.span (· ≠ '=')
  match rest with
  | [] => (signature, none)
  | _ :: value =>
    if signature.getLast? = some '?' then (signature.dropLast, some (true, trim value))
    else (signature, some (false, trim value))

/-- What is said about the value of a parameter. -/
def valueRule? : Option (Bool × List Char) → Option ValueRule
  | none => some .plain
  | some (_, []) => none
  | some (isDefault, raw) =>
    (unquote raw).map fun text =>
      if isDefault then .defaulted (String.ofList text) else .forced (String.ofList text)

/-- The parameter that a text declares. -/
def readParam (decl : List Char) : Except RouteFault ParamDeclaration :=
  let (signature, value) := splitValue decl
  match words signature, valueRule? value with
  | [type, name], some rule =>
    if isIdentifier (String.ofList name) then
      .ok ⟨String.ofList type, String.ofList name, rule⟩
    else .error (.malformedParam (String.ofList decl))
  | _, _ => .error (.malformedParam (String.ofList decl))

/-- The parameters that a list declares. -/
def readParams (list : List Char) : Except RouteFault (List ParamDeclaration) := do
  (← splitParams list).mapM readParam

/-- The words after the parameters; none holds a parenthesis. -/
def readModifiers (cs : List Char) : Except RouteFault (List String) :=
  (words cs).mapM fun word =>
    if word.contains '(' ∨ word.contains ')' then .error .unbalancedParens
    else .ok (String.ofList word)

/-- Whether a character may stand in the name of a handler. -/
def isHandlerChar (c : Char) : Bool :=
  isAlphanumeric c || ['.', '_', ':', '$', '-'].contains c

/-- The handler, the list of parameters and the words after it. -/
def splitHandler (cs : List Char) :
    Except RouteFault (List Char × List Char × List Char) :=
  let (before, rest) := cs.span (· ≠ '(')
  match rest with
  | [] =>
    let (handler, modifiers) := nextWord cs
    .ok (handler, [], modifiers)
  | _ :: rest => (closeList .outside rest).map fun r => (trim before, r.1, r.2)

/-- The declaration in a text. -/
def read (cs : List Char) : Except RouteFault Declaration := do
  let (token, rest) := nextWord cs
  if token.isEmpty then throw .missingPath
  let some method := Method.ofToken? (String.ofList token)
    | throw (.malformedMethod (String.ofList token))
  let (path, rest) := nextWord rest
  if path.isEmpty then throw .missingPath
  let rest := trimStart rest
  if rest.isEmpty then throw .missingHandler
  let (handler, list, after) ← splitHandler rest
  if handler.isEmpty then throw .missingHandler
  if ! handler.all isHandlerChar then throw (.malformedHandler (String.ofList handler))
  let params ← readParams list
  let modifiers ← readModifiers after
  return ⟨method, String.ofList path, String.ofList handler, params, modifiers, 0⟩

end Declaration

namespace RouteTable

/-- The route that a line of a table declares under the path `base`. -/
def readLine (registry : Registry) (base : String) (line : Nat) (cs : List Char) :
    Except RouteError Route :=
  match Declaration.read cs with
  | .error fault => .error ⟨line, fault⟩
  | .ok d => ((d.under base).atLine line).build registry

/-- Whether a line without the blanks at its ends declares nothing. -/
def isSkipped (line : List Char) : Bool := line.isEmpty || line.head? = some '#'

/-- The routes that the lines from number `n` on declare. -/
def readLines (registry : Registry) (base : String) (n : Nat) :
    List (List Char) → Except RouteError (List Route)
  | [] => .ok []
  | line :: lines =>
    if isSkipped (trim line) then readLines registry base (n + 1) lines
    else
      match readLine registry base n (trim line) with
      | .error e => .error e
      | .ok route => (readLines registry base (n + 1) lines).map (route :: ·)

/-- The routes that a table declares under the path `base`, or the first error in it.  Lines
are numbered from one. -/
def read (registry : Registry) (base : String) (table : String) :
    Except RouteError (List Route) :=
  readLines registry base 1 (table.toList.splitOn '\n')

/-- The table that declares the given routes. -/
def text (routes : List Route) : String :=
  String.join (routes.map fun r => r.text ++ "\n")

end RouteTable

end HttpDispatch
