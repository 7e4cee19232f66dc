import HttpDispatch.Text.Percent

/-!
# Heads of requests

The head of a request is a request line and up to 64 header lines, ended by an empty line;
empty lines before it do not count, and a line may end without a carriage return.  `Head.read`
takes a head off a sequence of bytes.  It says `incomplete` where more bytes could complete
the head and `failed` where none could.
-/

namespace HttpDispatch

/-- Why bytes are not the beginning of a head. -/
inductive HeadError where
  | headerName
  | headerValue
  | newLine
  | token
  | tooManyHeaders
  | version
  deriving DecidableEq, Repr

/-- The text of the error. -/
def HeadError.message : HeadError → String
  | .headerName => "invalid header name"
  | .headerValue => "invalid header value"
  | .newLine => "invalid new line"
  | .token => "invalid token"
  | .tooManyHeaders => "too many headers"
  | .version => "invalid HTTP version"

/-- What reading off the beginning of a sequence of bytes results in. -/
inductive Scan (α : Type) where
  /-- Something was read; the rest follows. -/
  | done (value : α) (rest : Bytes)
  /-- More bytes are needed. -/
  | incomplete
  | failed (error : HeadError)
  deriving DecidableEq, Repr

namespace Scan

variable {α β : Type}

/-- Reads on from the rest. -/
def andThen (s : Scan α) (next : α → Bytes → Scan β) : Scan β :=
  match s with
  | .done a rest => next a rest
  | .incomplete => .incomplete
  | .failed e => .failed e

/-- The same scan of a changed value. -/
def map (f : α → β) : Scan α → Scan β
  | .done a rest => .done (f a) rest
  | .incomplete => .incomplete
  | .failed e => .failed e

end Scan

/-- The head of a request. -/
structure Head where
  method : String
  /-- The path with its query. -/
  target : String
  /-- The digit after the point in the version. -/
  version : Nat
  fields : List (String × Bytes)
  deriving DecidableEq, Repr

namespace Head

open Text

/-- Carriage return. -/
def cr : UInt8 := 13

/-- Line feed. -/
def lf : UInt8 := 10

/-- Whether a byte is a space or a tab. -/
def isBlankByte (b : UInt8) : Bool := b = 32 || b = 9

/-- Whether a byte may stand in a method or in the name of a header. -/
def isTokenByte (b : UInt8) : Bool :=
  isWordByte b || ("!#$%&'*+-.^_`|~".toList.map byteOf).contains b

/-- Whether a byte may stand in a target: all but controls and the space. -/
def isTargetByte (b : UInt8) : Bool := 32 < b && b ≠ 127

/-- Whether a byte may stand in the value of a header: all but controls, and the tab. -/
def isValueByte (b : UInt8) : Bool := (32 ≤ b && b ≠ 127) || b = 9

/-- The text of bytes of ASCII. -/
def asciiText (bs : Bytes) : String := String.ofList (bs.map fun b => Char.ofNat b.toNat)

/-- Takes off a line feed. -/
def takeFeed (error : HeadError) : Bytes → Scan Unit
  | [] => .incomplete
  | b :: bs => if b = lf then .done () bs else .failed error

/-- Takes off the end of a line. -/
def takeNewLine : Bytes → Scan Unit
  | [] => .incomplete
  | b :: bs =>
    if b = cr then takeFeed .newLine bs
    else if b = lf then .done () bs
    else .failed .newLine

/-- Takes off the empty lines before a head. -/
def skipEmptyLines : Bytes → Scan Unit
  | [] => .incomplete
  | b :: bs =>
    if b = cr then
      match bs with
      | [] => .incomplete
      | c :: bs => if c = lf then skipEmptyLines bs else .failed .newLine
    else if b = lf then skipEmptyLines bs
    else .done () (b :: bs)

/-- Takes off the bytes before the first one that is not `ok`; that byte must be `stop`, and
it is taken off too. -/
def takeUntil (ok : UInt8 → Bool) (stop : UInt8) (error : HeadError) : Bytes → Scan Bytes
  | [] => .incomplete
  | b :: bs =>
    if ok b then (takeUntil ok stop error bs).map (b :: ·)
    else if b = stop then .done [] bs
    else .failed error

/-- Takes off a method and the space after it. -/
def takeMethod : Bytes → Scan String
  | [] => .incomplete
  | b :: bs =>
    if isTokenByte b then
      (takeUntil isTokenByte 32 .token bs).map fun t => asciiText (b :: t)
    else .failed .token

/-- Takes off a target and the space after it. -/
def takeTarget (bs : Bytes) : Scan String :=
  (takeUntil isTargetByte 32 .token bs).andThen fun t rest =>
    match t, ofUtf8? t with
    | _ :: _, some text => .done text rest
    | _, _ => .failed .token

/-- The bytes before the last digit of a version. -/
def versionStart : Bytes := utf8 "HTTP/1."

/-- Takes off a version.  A version that is cut short is wrong if what is there is. -/
def takeVersion (bs : Bytes) : Scan Nat :=
  if bs.length < 8 then
    if bs.isPrefixOf versionStart then .incomplete else .failed .version
  else if bs.take 7 = versionStart ∧ bs[7]? = some 48 then .done 0 (bs.drop 8)
  else if bs.take 7 = versionStart ∧ bs[7]? = some 49 then .done 1 (bs.drop 8)
  else .failed .version

/-- Takes off the value of a header up to the end of its line. -/
def takeLine : Bytes → Scan Bytes
  | [] => .incomplete
  | b :: bs =>
    if isValueByte b then (takeLine bs).map (b :: ·)
    else if b = cr then (takeFeed .headerValue bs).map fun _ => []
    else if b = lf then .done [] bs
    else .failed .headerValue

/-- The bytes without the blanks at their ends. -/
def trimBlanks (bs : Bytes) : Bytes :=
  ((bs.dropWhile isBlankByte).reverse.dropWhile isBlankByte).reverse

/-- Takes off a header line. -/
def takeField (bs : Bytes) : Scan (String × Bytes) :=
  (takeUntil isTokenByte 58 .headerName bs).andThen fun name rest =>
    (takeLine rest).map fun value => (asciiText name, trimBlanks value)

/-- Takes off at most `room` header lines and the empty line that ends the head. -/
def takeFields (room : Nat) (bs : Bytes) : Scan (List (String × Bytes)) :=
  match bs with
  | [] => .incomplete
  | b :: rest =>
    if b = cr then (takeFeed .newLine rest).map fun _ => []
    else if b = lf then .done [] rest
    else if ! isTokenByte b then .failed .headerName
    else
      match takeField (b :: rest), room with
      | .done _ _, 0 => .failed .tooManyHeaders
      | .done f more, room + 1 => (takeFields room more).map (f :: ·)
      | .incomplete, _ => .incomplete
      | .failed e, _ => .failed e

/-- The greatest number of header lines. -/
def maxFields : Nat := 64

/-- Takes off the head of a request. -/
def read (bs : Bytes) : Scan Head :=
  (skipEmptyLines bs).andThen fun _ bs =>
  (takeMethod bs).andThen fun method bs =>
  (takeTarget bs).andThen fun target bs =>
  (takeVersion bs).andThen fun version bs =>
  (takeNewLine bs).andThen fun _ bs =>
  (takeFields maxFields bs).map fun fields => ⟨method, target, version, fields⟩

end Head

end HttpDispatch
