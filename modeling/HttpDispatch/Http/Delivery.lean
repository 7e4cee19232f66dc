import HttpDispatch.Body.Encoder
import HttpDispatch.Http.Response

/-!
# Writing responses

A sink takes bytes until its room is used up.  `Response.write` writes a response to a sink:
a buffer after its length, a stream in chunks or, to a client of version 1.0, as it is up to
the end of the connection.  The first chunk of a stream is pulled before anything is written,
so that a stream that fails at once leaves room for another response.
-/

namespace HttpDispatch

/-- Where responses are written. -/
structure Sink where
  /-- How many more bytes are taken; without a number all are. -/
  room : Option Nat
  /-- Whether flushing fails. -/
  flushFails : Bool
  /-- What was taken so far, write by write, the last one first. -/
  taken : List Bytes
  /-- How often the sink was flushed. -/
  flushes : Nat
  deriving DecidableEq, Repr

namespace Sink

/-- A sink that takes everything. -/
def unlimited : Sink := ⟨none, false, [], 0⟩

/-- The reason why a sink without room takes nothing. -/
def closed : String := "pipe closed"

/-- The reason why a sink is not flushed. -/
def flushFailed : String := "flush failed"

/-- The bytes taken so far. -/
def written (w : Sink) : Bytes := w.taken.reverse.flatten

/-- The sink after bytes are written to it; what has no room is lost, and then the write
fails. -/
def write (w : Sink) (data : Bytes) : Except String Unit × Sink :=
  match w.room with
  | none => (.ok (), { w with taken := data :: w.taken })
  | some n =>
    if data.length ≤ n then
      (.ok (), { w with room := some (n - data.length), taken := data :: w.taken })
    else (.error closed, { w with room := some 0, taken := data.take n :: w.taken })

/-- The sink after it is flushed. -/
def flush (w : Sink) : Except String Unit × Sink :=
  (if w.flushFails then .error flushFailed else .ok (), { w with flushes := w.flushes + 1 })

end Sink

/-- Why a response was not written in full. -/
inductive DeliveryError where
  /-- Nothing was written, so another response can be. -/
  | unsent (reason : String)
  /-- A part was written, with so many bytes of the body. -/
  | aborted (sent : Nat) (reason : String)
  /-- The body asks for more room at once than there is.  No other response takes its place:
  this is a panic. -/
  | oversized
  deriving DecidableEq, Repr

/-- The text of the error. -/
def DeliveryError.message : DeliveryError → String
  | .unsent reason => "response body failed before any byte was sent: " ++ reason
  | .aborted sent reason => s!"response aborted after {sent} body bytes: {reason}"
  | .oversized => "response body asks for too much room"

/-- A response that was written in full. -/
structure Delivered where
  status : Status
  /-- The number of bytes of the body. -/
  bodyBytes : Nat
  /-- Whether the connection can take another request. -/
  keepAlive : Bool
  deriving DecidableEq, Repr

/-- Steps that write to a sink and may fail; what was written before a failure stays. -/
abbrev Writing := ExceptT DeliveryError (StateM Sink)

namespace Writing

/-- Writes bytes; on failure so many bytes of the body count as sent. -/
def put (sent : Nat) (data : Bytes) : Writing Unit := do
  match ← modifyGet (·.write data) with
  | .ok () => return ()
  | .error reason => throw (.aborted sent reason)

/-- Flushes the sink; on failure so many bytes of the body count as sent. -/
def flush (sent : Nat) : Writing Unit := do
  match ← modifyGet Sink.flush with
  | .ok () => return ()
  | .error reason => throw (.aborted sent reason)

end Writing

/-- A chunk as it is sent: its length in hexadecimal on a line, and its data on a line. -/
def frameChunk (data : Bytes) : Bytes :=
  Text.utf8 (String.ofList (Nat.toDigits 16 data.length) ++ "\r\n") ++ data ++ Text.utf8 "\r\n"

/-- The last chunk as it is sent, with the total length in a trailer. -/
def frameLast (trailer : String) (total : Nat) : Bytes :=
  Text.utf8 ("0\r\n" ++ trailer ++ ": " ++ toString total ++ "\r\n\r\n")

namespace Response

/-- Writes the chunks of a source, of which `sent` bytes are written, and gives the number of
bytes written at the end.  With a trailer the chunks are framed, without one they are not. -/
def writeChunks (trailer : Option String) (sent : Nat) : Source → Writing Nat
  | [] => do
    match trailer with
    | some t => Writing.put sent (frameLast t sent)
    | none => pure ()
    return sent
  | .pending :: s => writeChunks trailer sent s
  | .item [] :: s => writeChunks trailer sent s
  | .item (b :: data) :: s => do
    Writing.put sent (if trailer.isSome then frameChunk (b :: data) else b :: data)
    writeChunks trailer (sent + (b :: data).length) s
  | .failure (.failed reason) :: _ => throw (.aborted sent reason)
  | .failure .oversized :: _ => throw .oversized

/-- The error that is the first event of a source other than a pause and an empty piece. -/
def failsFirst? (s : Source) : Option SourceError :=
  match (Encoder.ofSource s).pull.1 with
  | some (.error e) => some e
  | _ => none

/-- Writes a response with all data at hand. -/
def writeFull (r : Response) (data : Bytes) : Writing Delivered := do
  Writing.put 0 (r.head (.length data.length) ++ data)
  Writing.flush data.length
  return ⟨r.status, data.length, r.keepAlive⟩

/-- Writes a response with a stream as its body. -/
def writeStream (r : Response) (source : Source) (version : Nat) (trailer : String) :
    Writing Delivered := do
  match failsFirst? source with
  | some (.failed reason) => throw (.unsent reason)
  | some .oversized => throw .oversized
  | none =>
    let chunked := decide (1 ≤ version)
    Writing.put 0 (r.head (if chunked then .chunked trailer else .close))
    let sent ← writeChunks (if chunked then some trailer else none) 0 source
    Writing.flush sent
    return ⟨r.status, sent, r.keepAlive && chunked⟩

/-- Writes a response to a client that speaks version 1.`version`. -/
def write (r : Response) (version : Nat) (trailer : String) : Writing Delivered :=
  match if r.status.forbidsBody then .empty else r.body with
  | .full data => r.writeFull data
  | .stream source => r.writeStream source version trailer

end Response

end HttpDispatch
