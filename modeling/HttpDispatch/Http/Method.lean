/-!
# Request methods

A method is named by its token.  Nine tokens are standard; every other token names a method
of an extension.  A route declaration admits only tokens of upper-case letters.
-/

namespace HttpDispatch

/-- A request method. -/
structure Method where
  token : String
  deriving DecidableEq, Repr

namespace Method

/-- The tokens of the standard methods. -/
def standardTokens : List String :=
  ["GET", "POST", "PUT", "DELETE", "HEAD", "OPTIONS", "PATCH", "CONNECT", "TRACE"]

/-- Whether the method is one of an extension. -/
def isCustom (m : Method) : Bool := ! standardTokens.contains m.token

/-- The method that a route declaration names by a token. -/
def ofToken? (token : String) : Option Method :=
  if token ≠ "" ∧ token.toList.all Char.isUpper then some ⟨token⟩ else none

end Method

end HttpDispatch
