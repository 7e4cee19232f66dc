import HttpDispatch.Body.Basic
import HttpDispatch.Http.Headers
import HttpDispatch.Http.Status
import HttpDispatch.Text.Quoted

/-!
# Responses

A response is a status, headers, a body, and whether the connection stays open after it.
`Response.head` gives the bytes before the body: the status line, the headers with those that
say how the body is delimited, and an empty line.
-/

namespace HttpDispatch

/-- How the end of a body is found. -/
inductive Framing where
  /-- By the length of the body. -/
  | length (n : Nat)
  /-- By a last chunk, after which a trailer follows. -/
  | chunked (trailer : String)
  /-- By the end of the connection. -/
  | close
  deriving DecidableEq, Repr

/-- A response. -/
structure Response where
  status : Status
  headers : Headers
  body : Body
  keepAlive : Bool
  deriving DecidableEq, Repr

namespace Response

/-- A response without headers and body, after which the connection stays open. -/
def new (status : Status) : Response := ⟨status, .empty, .empty, true⟩

/-- A response with the bytes of a text as its body. -/
def ofText (status : Status) (text : String) : Response :=
  { new status with body := .ofText text }

/-- The response with one more header. -/
def addHeader (r : Response) (name value : String) : Response :=
  { r with headers := r.headers.insert name value }

/-- The response with a header as the only one of its name. -/
def setHeader (r : Response) (name value : String) : Response :=
  { r with headers := r.headers.set name value }

/-- The response without the headers of a name. -/
def removeHeader (r : Response) (name : String) : Response :=
  { r with headers := r.headers.remove name }

/-- The response with another body. -/
def withBody (r : Response) (body : Body) : Response := { r with body }

/-- The response with another status. -/
def withStatus (r : Response) (status : Status) : Response := { r with status }

/-- The response with a change of whether the connection stays open. -/
def withKeepAlive (r : Response) (keepAlive : Bool) : Response := { r with keepAlive }

/-- The type that a body has if no header says otherwise. -/
def defaultContentType : String := "text/plain; charset=utf-8"

/-- The headers with a type for a body that has none. -/
def typedHeaders (r : Response) (framing : Framing) : Headers :=
  let hasBody := ! r.status.forbidsBody && framing != .length 0
  if hasBody && ! r.headers.contains "content-type" then
    r.headers.insert "Content-Type" defaultContentType
  else r.headers

/-- The headers with those that say how the body is delimited.  A response that has no body
has none of them. -/
def framedHeaders (r : Response) (framing : Framing) (h : Headers) : Headers :=
  if r.status.forbidsBody then
    ((h.remove "content-length").remove "transfer-encoding").remove "trailer"
  else
    match framing with
    | .length n => h.set "Content-Length" (toString n)
    | .chunked trailer =>
      ((h.remove "content-length").set "Transfer-Encoding" "chunked").set "Trailer" trailer
    | .close => h.remove "content-length"

/-- Whether the connection stays open after a body with the given framing. -/
def staysOpen (r : Response) (framing : Framing) : Bool := r.keepAlive && framing != .close

/-- The headers as they are sent. -/
def sentHeaders (r : Response) (framing : Framing) : Headers :=
  r.framedHeaders framing
    ((r.typedHeaders framing).set "Connection"
      (if r.staysOpen framing then "keep-alive" else "close"))

/-- The text before the body. -/
def headText (r : Response) (framing : Framing) : String :=
  "HTTP/1.1 " ++ r.status.text ++ "\r\n" ++ (r.sentHeaders framing).text ++ "\r\n"

/-- The bytes before the body. -/
def head (r : Response) (framing : Framing) : Bytes := Text.utf8 (r.headText framing)

/-- The response inside messages. -/
def debugText (r : Response) : String :=
  let field (f : String × String) := "(" ++ Text.quoted f.1 ++ ", " ++ Text.quoted f.2 ++ ")"
  "Response \x7b status: " ++ r.status.name
    ++ ", headers: Headers \x7b inner: ["
    ++ ", ".intercalate (r.headers.fields.map field) ++ "] \x7d, body: " ++ r.body.debugText
    ++ ", keep_alive: " ++ toString r.keepAlive ++ " \x7d"

end Response

end HttpDispatch
