import HttpDispatch.Http.Request

/-!
# Identities of requests

What is known of a request wherever it is spoken of: its identifier, method, path, query and
version.
-/

namespace HttpDispatch

/-- The identity of a request. -/
structure RequestInfo where
  id : String
  method : Method
  path : String
  query : Option String
  version : Nat
  deriving DecidableEq, Repr

namespace RequestInfo

/-- The identity of a request with the given identifier. -/
def ofRequest (r : Request) (id : String) : RequestInfo :=
  ⟨id, r.method, r.path, r.queryText, r.version⟩

/-- The method, the target and the identifier. -/
def text (i : RequestInfo) : String :=
  let query :=
    match i.query with
    | some q => "?" ++ q
    | none => ""
  i.method.token ++ " " ++ i.path ++ query ++ " [" ++ i.id ++ "]"

end RequestInfo

end HttpDispatch
