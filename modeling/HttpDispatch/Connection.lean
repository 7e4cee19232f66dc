import HttpDispatch.Dispatch.Dispatcher

/-!
# Connections

A connection collects the bytes that arrive until they hold a request, has it answered, and
goes on with the bytes after it.  It closes after a request that is too large or malformed,
after a response that could not be written, and after one that does not leave it open.  Every
arrival of bytes has at most one request answered.
-/

namespace HttpDispatch

/-- A request that was handed to the dispatcher, with the bytes that it took up. -/
structure Served where
  request : Request
  bytes : Bytes
  deriving DecidableEq, Repr

/-- A connection. -/
structure Connection where
  /-- The bytes that have arrived and belong to no served request. -/
  buffer : Bytes
  sink : Sink
  isOpen : Bool
  /-- The requests served so far, in order. -/
  served : List Served
  deriving DecidableEq, Repr

/-- What the bytes of a connection call for. -/
inductive Demand where
  /-- More bytes. -/
  | wait
  /-- The answer to a request, which takes up so many bytes. -/
  | serve (request : Request) (length : Nat)
  /-- A response that refuses the bytes. -/
  | refuse (response : Response)
  /-- Nothing any more. -/
  | close
  deriving DecidableEq, Repr

namespace Connection

/-- A new connection that writes to a sink. -/
def new (sink : Sink) : Connection := ⟨[], sink, true, []⟩

/-- The bytes that the served requests took up. -/
def consumed (c : Connection) : Bytes := (c.served.map Served.bytes).flatten

/-- The response to a request that is too large. -/
def tooLarge : Response :=
  (Response.ofText .payloadTooLarge "Request entity too large").withKeepAlive false

/-- The response to bytes that are no request. -/
def badRequest (e : RequestError) : Response :=
  (Response.ofText .badRequest ("Bad Request: " ++ e.message)).withKeepAlive false

/-- What the bytes that have arrived call for. -/
def demand (maxRequestSize : Nat) (buffer : Bytes) : Demand :=
  if maxRequestSize < buffer.length then .refuse tooLarge
  else
    match Request.read buffer with
    | .error .incomplete => .wait
    | .error e => .refuse (badRequest e)
    | .overflow => .close
    | .request r headLength =>
      let length := headLength + r.contentLength?.getD 0
      if buffer.length < length then .wait else .serve r length

variable {σ μ : Type}

/-- The connection after bytes have arrived; no bytes mean that the client has ended.  The
request that is answered has the identifier `fresh` if the client sent none. -/
def receive (d : Dispatcher σ μ) (fresh : String) (c : Connection) (arrived : Bytes) :
    StateM (World σ) Connection :=
  if ! c.isOpen then return c
  else if arrived.isEmpty then return { c with isOpen := false }
  else
    let buffer := c.buffer ++ arrived
    match demand d.service.config.maxRequestSize buffer with
    | .wait => return { c with buffer }
    | .close => return { c with buffer, isOpen := false }
    | .refuse response =>
      let writing := response.write 1 d.service.config.lengthTrailer
      return { c with buffer, sink := (writing.run.run c.sink).2, isOpen := false }
    | .serve request length => do
      let (result, sink) ← d.respond fresh request c.sink
      let isOpen :=
        match result with
        | .ok delivered => delivered.keepAlive
        | .error _ => false
      return ⟨buffer.drop length, sink, isOpen, c.served ++ [⟨request, buffer.take length⟩]⟩

/-- The connection after several arrivals of bytes; `fresh n` is the identifier of the request
that is served after `n` others if the client sent none. -/
def run (d : Dispatcher σ μ) (fresh : Nat → String) (c : Connection) :
    List Bytes → StateM (World σ) Connection
  | [] => return c
  | arrived :: rest => do run d fresh (← c.receive d (fresh c.served.length) arrived) rest

end Connection

end HttpDispatch
