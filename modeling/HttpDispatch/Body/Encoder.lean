import HttpDispatch.Body.Basic

/-!
# Chunks of a body

An encoder turns a source into chunks.  Every piece of data that is not empty is a chunk;
after the last one follows a chunk with the total length.  A failure of the source ends the
chunks too, and after either end there are none.
-/

namespace HttpDispatch

/-- A chunk of a body. -/
inductive Chunk where
  /-- A piece of data. -/
  | data (bytes : Bytes)
  /-- The end, with the length of all data before it. -/
  | last (total : Nat)
  deriving DecidableEq, Repr

/-- The number of bytes of data in a chunk. -/
def Chunk.length : Chunk → Nat
  | .data bytes => bytes.length
  | .last _ => 0

/-- Whether the chunk ends the body. -/
def Chunk.isLast : Chunk → Bool
  | .data _ => false
  | .last _ => true

/-- How far an encoder is. -/
inductive EncoderState where
  /-- The source has more. -/
  | streaming
  /-- The source has ended, and the last chunk is yet to come. -/
  | draining
  /-- There are no more chunks. -/
  | done
  deriving DecidableEq, Repr

/-- What remains of the source, how far the encoder is, and the length of the data so far. -/
structure Encoder where
  source : Source
  state : EncoderState
  total : Nat
  deriving DecidableEq, Repr

namespace Encoder

/-- The encoder for a source. -/
def ofSource (source : Source) : Encoder := ⟨source, .streaming, 0⟩

/-- The encoder for a body. -/
def ofBody (body : Body) : Encoder := ofSource body.source

/-- The last chunk. -/
def drain (e : Encoder) : Option (Except SourceError Chunk) × Encoder :=
  (some (.ok (.last e.total)), { e with state := .done })

/-- The next chunk of a source after `total` bytes of data. -/
def pullSource (total : Nat) : Source → Option (Except SourceError Chunk) × Encoder
  | [] => drain ⟨[], .draining, total⟩
  | .pending :: s => pullSource total s
  | .item [] :: s => pullSource total s
  | .item (b :: data) :: s =>
    (some (.ok (.data (b :: data))), ⟨s, .streaming, total + (b :: data).length⟩)
  | .failure e :: s => (some (.error e), ⟨s, .done, total⟩)

/-- The next chunk or the error of the source, and the encoder after it. -/
def pull (e : Encoder) : Option (Except SourceError Chunk) × Encoder :=
  match e.state with
  | .streaming => pullSource e.total e.source
  | .draining => e.drain
  | .done => (none, e)

/-- Whether there are no more chunks. -/
def isTerminated (e : Encoder) : Bool := e.state = .done

/-- The encoder inside messages. -/
def debugText (e : Encoder) : String :=
  let state :=
    match e.state with
    | .streaming => "Streaming"
    | .draining => "Draining"
    | .done => "Done"
  "ChunkedBody \x7b state: " ++ state ++ ", total: " ++ toString e.total ++ " \x7d"

end Encoder

/-- The data chunks of a source and what ends them: the total length, or the error. -/
def Source.chunks (total : Nat) : Source → List Bytes × Except SourceError Nat
  | [] => ([], .ok total)
  | .pending :: s => chunks total s
  | .item [] :: s => chunks total s
  | .item (b :: data) :: s =>
    let rest := chunks (total + (b :: data).length) s
    ((b :: data) :: rest.1, rest.2)
  | .failure e :: _ => ([], .error e)

end HttpDispatch
