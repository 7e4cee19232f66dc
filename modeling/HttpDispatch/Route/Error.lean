import HttpDispatch.Binder

/-!
# Errors of route declarations

`RouteFault` says what is wrong with a declaration and `RouteError` also on which line of a
table it stands.
-/

namespace HttpDispatch

/-- What is wrong with a route declaration. -/
inductive RouteFault where
  /-- The first word is not a method token. -/
  | malformedMethod (token : String)
  | missingPath
  /-- The path does not begin with a slash. -/
  | invalidPath (path : String)
  /-- A segment other than the last one is empty. -/
  | emptySegment (path : String)
  /-- The name of a capture is not an identifier. -/
  | invalidCaptureName (segment : String)
  /-- A segment follows a wildcard. -/
  | wildcardNotLast (name : String)
  | duplicateCapture (name : String)
  | missingHandler
  | malformedHandler (handler : String)
  | unbalancedParens
  | unterminatedQuote
  | malformedParam (declaration : String)
  /-- No binder is registered for the type of a parameter. -/
  | unknownType (type name : String)
  | duplicateParam (name : String)
  /-- A capture is not declared as a parameter. -/
  | unboundCapture (name : String)
  /-- The default or fixed value of a parameter does not bind. -/
  | invalidValue (name : String) (source : BindError)
  deriving DecidableEq, Repr

/-- The text of the fault. -/
def RouteFault.message : RouteFault → String
  | .malformedMethod token => s!"malformed method token `{token}`"
  | .missingPath => "missing path"
  | .invalidPath path => s!"path `{path}` must start with `/`"
  | .emptySegment path => s!"path `{path}` contains an empty segment"
  | .invalidCaptureName segment => s!"invalid capture name in segment `{segment}`"
  | .wildcardNotLast name => s!"wildcard `*{name}` must be the last path segment"
  | .duplicateCapture name => s!"`{name}` is captured several times in the path"
  | .missingHandler => "missing handler reference"
  | .malformedHandler handler => s!"malformed handler reference `{handler}`"
  | .unbalancedParens => "unbalanced parenthesis in parameter list"
  | .unterminatedQuote => "unterminated quote in parameter list"
  | .malformedParam decl => s!"unable to parse parameter `{decl}`"
  | .unknownType type name => s!"no parameter binder for type `{type}` of parameter `{name}`"
  | .duplicateParam name => s!"parameter `{name}` is declared several times"
  | .unboundCapture name => s!"`{name}` is captured in the path but not declared as a parameter"
  | .invalidValue name source => s!"invalid value for parameter `{name}`: {source.message}"

/-- A fault with the line of the table on which it stands. -/
structure RouteError where
  line : Nat
  fault : RouteFault
  deriving DecidableEq, Repr

/-- The text of the error. -/
def RouteError.message (e : RouteError) : String :=
  s!"route table line {e.line}: {e.fault.message}"

end HttpDispatch
