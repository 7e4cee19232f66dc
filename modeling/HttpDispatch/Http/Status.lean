/-!
# Status codes

The status codes of responses, with their numbers, the phrases that stand beside them, and
their names inside messages.
-/

namespace HttpDispatch

/-- A status code. -/
inductive Status where
  | ok
  | created
  | accepted
  | noContent
  | movedPermanently
  | found
  | seeOther
  | notModified
  | temporaryRedirect
  | badRequest
  | unauthorized
  | forbidden
  | notFound
  | methodNotAllowed
  | conflict
  | payloadTooLarge
  | uriTooLong
  | unprocessableEntity
  | tooManyRequests
  | internalServerError
  | notImplemented
  | badGateway
  | serviceUnavailable
  | gatewayTimeout
  deriving DecidableEq, Repr

namespace Status

/-- All status codes. -/
def all : List Status := [
  .ok, .created, .accepted, .noContent,
  .movedPermanently, .found, .seeOther, .notModified, .temporaryRedirect,
  .badRequest, .unauthorized, .forbidden, .notFound, .methodNotAllowed, .conflict,
  .payloadTooLarge, .uriTooLong, .unprocessableEntity, .tooManyRequests,
  .internalServerError, .notImplemented, .badGateway, .serviceUnavailable, .gatewayTimeout]

/-- The number of a status code. -/
def code : Status → Nat
  | .ok => 200
  | .created => 201
  | .accepted => 202
  | .noContent => 204
  | .movedPermanently => 301
  | .found => 302
  | .seeOther => 303
  | .notModified => 304
  | .temporaryRedirect => 307
  | .badRequest => 400
  | .unauthorized => 401
  | .forbidden => 403
  | .notFound => 404
  | .methodNotAllowed => 405
  | .conflict => 409
  | .payloadTooLarge => 413
  | .uriTooLong => 414
  | .unprocessableEntity => 422
  | .tooManyRequests => 429
  | .internalServerError => 500
  | .notImplemented => 501
  | .badGateway => 502
  | .serviceUnavailable => 503
  | .gatewayTimeout => 504

/-- The phrase that stands beside the number. -/
def reason : Status → String
  | .ok => "OK"
  | .created => "Created"
  | .accepted => "Accepted"
  | .noContent => "No Content"
  | .movedPermanently => "Moved Permanently"
  | .found => "Found"
  | .seeOther => "See Other"
  | .notModified => "Not Modified"
  | .temporaryRedirect => "Temporary Redirect"
  | .badRequest => "Bad Request"
  | .unauthorized => "Unauthorized"
  | .forbidden => "Forbidden"
  | .notFound => "Not Found"
  | .methodNotAllowed => "Method Not Allowed"
  | .conflict => "Conflict"
  | .payloadTooLarge => "Payload Too Large"
  | .uriTooLong => "URI Too Long"
  | .unprocessableEntity => "Unprocessable Entity"
  | .tooManyRequests => "Too Many Requests"
  | .internalServerError => "Internal Server Error"
  | .notImplemented => "Not Implemented"
  | .badGateway => "Bad Gateway"
  | .serviceUnavailable => "Service Unavailable"
  | .gatewayTimeout => "Gateway Timeout"

/-- The name of a status code inside messages: its words, each with one capital letter. -/
def name (s : Status) : String :=
  match s with
  | .ok => "Ok"
  | .uriTooLong => "UriTooLong"
  | s => String.ofList (s.reason.toList.filter (· ≠ ' '))

/-- The status code with the given number. -/
def ofCode? (n : Nat) : Option Status := all.find? fun s => s.code = n

/-- The number and the phrase. -/
def text (s : Status) : String := toString s.code ++ " " ++ s.reason

/-- Whether the fault is the client's. -/
def isClientError (s : Status) : Bool := 400 ≤ s.code && s.code < 500

/-- Whether the fault is the server's. -/
def isServerError (s : Status) : Bool := 500 ≤ s.code

/-- Whether a response with this status has no body. -/
def forbidsBody (s : Status) : Bool := s = .noContent || s = .notModified

end Status

end HttpDispatch
