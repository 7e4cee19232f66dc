import HttpDispatch.Http.Head
import HttpDispatch.Http.Headers
import HttpDispatch.Http.Method
import HttpDispatch.Http.Query
import HttpDispatch.Number.Integer
import HttpDispatch.Text.Blank
import HttpDispatch.Text.Quoted

/-!
# Requests

A request is a head and a body.  `Request.read` takes a request off the bytes that have
arrived: the body is what follows the head, cut at the declared length if one is declared.
Lengths are numbers of 64 bits, and `ReadResult.overflow` stands for a head and a body whose
lengths add up to more.
-/

namespace HttpDispatch

/-- Why bytes are not a request. -/
inductive RequestError where
  /-- The head is not complete. -/
  | incomplete
  /-- The bytes are not the beginning of a head. -/
  | malformed (error : HeadError)
  /-- The declared length of the body is not a number. -/
  | invalidContentLength (value : String)
  deriving DecidableEq, Repr

/-- The text of the error. -/
def RequestError.message : RequestError → String
  | .incomplete => "request is incomplete: more data needed"
  | .malformed e => "HTTP parse error: " ++ e.message
  | .invalidContentLength value => "invalid Content-Length header: " ++ Text.quoted value

/-- A request. -/
structure Request where
  method : Method
  /-- The path in percent code. -/
  path : String
  /-- The digit after the point in the version. -/
  version : Nat
  headers : Headers
  /-- The text after the first `?` of the target. -/
  queryText : Option String
  body : Bytes
  deriving DecidableEq, Repr

/-- What reading a request results in. -/
inductive ReadResult where
  /-- A request, with the length of its head. -/
  | request (r : Request) (headLength : Nat)
  | error (e : RequestError)
  /-- The lengths of head and body add up to more than 64 bits hold. -/
  | overflow
  deriving DecidableEq, Repr

/-- The length that the value of a header declares. -/
def declaredLength (value : String) : Except IntegerError Nat :=
  (IntegerFormat.read ⟨false, 64⟩ (String.ofList (Text.trim value.toList))).map Int.toNat

/-- The greatest length. -/
def maxLength : Nat := Nat.pow 2 64 - 1

namespace Request

/-- The values of a query without the pairs that form no text. -/
def query (r : Request) : Query :=
  match r.queryText with
  | some text => Query.read text
  | none => .empty

/-- The declared length of the body. -/
def contentLength? (r : Request) : Option Nat :=
  match r.headers.get? "content-length" with
  | some value => (declaredLength value).toOption
  | none => none

/-- Whether the client keeps the connection open: it says so, or it says nothing and speaks
version 1.1. -/
def keepAlive (r : Request) : Bool :=
  match r.headers.get? "connection" with
  | some value => sameName value "keep-alive"
  | none => r.version = 1

/-- The path of a target and the text after its first `?`. -/
def splitTarget (target : String) : String × Option String :=
  let (path, rest) := target.toList.span (· ≠ '?')
  (String.ofList path, match rest with
    | [] => none
    | _ :: text => some (String.ofList text))

/-- The headers whose values form texts. -/
def headersOf (fields : List (String × Bytes)) : Headers :=
  ⟨fields.filterMap fun f => (Text.ofUtf8? f.2).map fun value => (f.1, value)⟩

/-- The request with the given head and body. -/
def ofHead (head : Head) (body : Bytes) : Request where
  method := ⟨head.method⟩
  path := (splitTarget head.target).1
  version := head.version
  headers := headersOf head.fields
  queryText := (splitTarget head.target).2
  body

/-- The request at the beginning of the bytes that have arrived. -/
def read (arrived : Bytes) : ReadResult :=
  match Head.read arrived with
  | .incomplete => .error .incomplete
  | .failed e => .error (.malformed e)
  | .done head rest =>
    let headLength := arrived.length - rest.length
    match (headersOf head.fields).get? "content-length" with
    | none => .request (ofHead head rest) headLength
    | some value =>
      match declaredLength value with
      | .error _ => .error (.invalidContentLength value)
      | .ok n =>
        if maxLength < headLength + n then .overflow
        else .request (ofHead head (rest.take n)) headLength

end Request

end HttpDispatch
