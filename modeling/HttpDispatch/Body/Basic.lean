import HttpDispatch.Text.Bytes

/-!
# Bodies

The body of a response is a buffer or a stream.  A stream is the list of what its source
answers in turn: a piece of data, a failure, or that it is not ready yet.  A reader is such a
list too, and `Source.ofReader` reads it in pieces of bounded length, for each of which it
needs room.
-/

namespace HttpDispatch

/-- Why a source gives no more data. -/
inductive SourceError where
  /-- The source failed. -/
  | failed (reason : String)
  /-- The source asks for more room at once than there is.  Whoever reads it panics. -/
  | oversized
  deriving DecidableEq, Repr

/-- One answer of a source of data. -/
inductive Event where
  /-- No data is ready yet. -/
  | pending
  /-- A piece of data. -/
  | item (data : Bytes)
  /-- There is no more data because of an error. -/
  | failure (error : SourceError)
  deriving DecidableEq, Repr

/-- The answers of a source until it ends. -/
abbrev Source := List Event

/-- The data cut into pieces of `max n 1` bytes, the last of which may be shorter. -/
def Bytes.cut (n : Nat) (data : Bytes) : List Bytes :=
  if data.isEmpty then [] else data.take (max n 1) :: Bytes.cut n (data.drop (max n 1))
termination_by data.length
decreasing_by
  rename_i h
  have : 0 < data.length := List.length_pos_iff.2 fun e => h (e ▸ rfl)
  simp only [List.length_drop]
  omega

namespace Source

/-- The pieces of at most `max n 1` bytes that are read from a reader.  Reading nothing means
that the reader has ended, and nothing is read after a failure. -/
def pieces (n : Nat) : Source → Source
  | [] => []
  | .pending :: reader => .pending :: pieces n reader
  | .failure e :: _ => [.failure e]
  | .item [] :: _ => []
  | .item (b :: data) :: reader => (Bytes.cut n (b :: data)).map .item ++ pieces n reader

/-- The most bytes for which there can be room at once. -/
def maxRoom : Nat := Nat.pow 2 63 - 1

/-- The stream of what is read from `reader` in pieces of at most `max n 1` bytes. -/
def ofReader (n : Nat) (reader : Source) : Source :=
  if n ≤ maxRoom then pieces n reader else [.failure .oversized]

/-- All data of a stream, or its first error. -/
def collect : Source → Except SourceError Bytes
  | [] => .ok []
  | .pending :: s => collect s
  | .item data :: s => (collect s).map (data ++ ·)
  | .failure e :: _ => .error e

end Source

/-- The body of a response. -/
inductive Body where
  /-- All data at once. -/
  | full (data : Bytes)
  /-- Data in pieces. -/
  | stream (source : Source)
  deriving DecidableEq, Repr

namespace Body

/-- The body without data. -/
def empty : Body := .full []

/-- The body with the bytes of a text. -/
def ofText (s : String) : Body := .full (Text.utf8 s)

/-- The stream of the data cut into pieces of `max n 1` bytes. -/
def chunked (n : Nat) (data : Bytes) : Body := .stream ((Bytes.cut n data).map .item)

/-- The stream of what is read from a reader in pieces of at most `max n 1` bytes. -/
def ofReader (n : Nat) (reader : Source) : Body := .stream (Source.ofReader n reader)

/-- Whether the body is a stream. -/
def isStream : Body → Bool
  | .full _ => false
  | .stream _ => true

/-- The number of bytes of a buffer. -/
def length? : Body → Option Nat
  | .full data => some data.length
  | .stream _ => none

/-- The source of the data; a buffer is one piece. -/
def source : Body → Source
  | .full data => [.item data]
  | .stream s => s

/-- All data of the body, or the error of its source. -/
def collect : Body → Except SourceError Bytes
  | .full data => .ok data
  | .stream s => s.collect

/-- The body inside messages. -/
def debugText : Body → String
  | .full data => "Full(" ++ toString data.length ++ ")"
  | .stream _ => "Stream(..)"

end Body

end HttpDispatch
