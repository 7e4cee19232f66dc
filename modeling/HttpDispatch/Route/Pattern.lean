import HttpDispatch.Route.Error

/-!
# Path patterns

A pattern is a list of tokens, one for each segment of a path: a literal, a capture `:name`
of one segment, or as the last token a wildcard `*name` that captures all the rest.
-/

namespace HttpDispatch

/-- One token of a path pattern. -/
inductive PathToken where
  /-- A segment that must be the same. -/
  | literal (text : String)
  /-- Captures one segment. -/
  | capture (name : String)
  /-- Captures the segments that remain. -/
  | wildcard (name : String)
  deriving DecidableEq, Repr

namespace PathToken

/-- The name under which a token captures. -/
def captured? : PathToken → Option String
  | .literal _ => none
  | .capture name => some name
  | .wildcard name => some name

/-- The segment of a pattern that denotes the token. -/
def segment : PathToken → String
  | .literal text => text
  | .capture name => ":" ++ name
  | .wildcard name => "*" ++ name

/-- The token that a segment of a pattern denotes. -/
def ofSegment : List Char → PathToken
  | ':' :: name => .capture (String.ofList name)
  | '*' :: name => .wildcard (String.ofList name)
  | text => .literal (String.ofList text)

end PathToken

/-- Whether a text is a letter or underscore followed by letters, digits and underscores. -/
def isIdentifier (name : String) : Bool :=
  match name.toList with
  | [] => false
  | c :: cs => (c.isAlpha || c = '_') && cs.all fun c => c.isAlphanum || c = '_'

/-- A path pattern. -/
abbrev Pattern := List PathToken

namespace Pattern

/-- The tokens of the segments that follow the token `previous`; `names` are the captures so
far and `path` is the whole path, for messages. -/
def readSegments (path : String) (names : List String) (previous : Option PathToken) :
    List (List Char) → Except RouteFault Pattern
  | [] => .ok []
  | seg :: segs =>
    if seg.isEmpty ∧ ! segs.isEmpty then .error (.emptySegment path)
    else
      match previous with
      | some (.wildcard name) => .error (.wildcardNotLast name)
      | _ =>
        let token := PathToken.ofSegment seg
        match token.captured? with
        | none => (readSegments path names (some token) segs).map (token :: ·)
        | some name =>
          if ! isIdentifier name then .error (.invalidCaptureName (String.ofList seg))
          else if names.contains name then .error (.duplicateCapture name)
          else (readSegments path (name :: names) (some token) segs).map (token :: ·)

/-- The segments of the text of a path after its first slash; a lone slash has none. -/
def segments : List Char → List (List Char)
  | [] => []
  | cs => cs.splitOn '/'

/-- The pattern that a path denotes. -/
def read (path : String) : Except RouteFault Pattern :=
  match path.toList with
  | '/' :: cs => readSegments path [] none (segments cs)
  | _ => .error (.invalidPath path)

/-- The names that a pattern captures. -/
def captures (p : Pattern) : List String := p.filterMap PathToken.captured?

end Pattern

end HttpDispatch
