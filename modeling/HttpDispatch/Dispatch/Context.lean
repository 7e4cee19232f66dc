import HttpDispatch.Body.Basic
import HttpDispatch.Http.RequestInfo
import HttpDispatch.Json.Reader
import HttpDispatch.Route.Router

/-!
# Contexts

A context is what the filters and the handler of a request are given: the request, the route
that was found for it with the values of its parameters, and metadata that the filters leave
for those after them.
-/

namespace HttpDispatch

/-- What a filter or a handler is given. -/
structure Context (μ : Type) where
  request : Request
  info : RequestInfo
  found : RouteMatch
  metadata : μ
  /-- How many bytes are read from a reader at once. -/
  chunkSize : Nat

namespace Context

variable {μ : Type}

/-- The stream of what a reader gives, in pieces of the context's size. -/
def bodyOfReader (c : Context μ) (reader : Source) : Body := .ofReader c.chunkSize reader

/-- The value of JSON in the body of the request. -/
def json (c : Context μ) : Except JsonError Json := Json.read c.request.body

end Context

end HttpDispatch
