import HttpDispatch.Number.Integer
import HttpDispatch.Number.Shortest
import HttpDispatch.Text.Quoted
import HttpDispatch.Url.Parser
import HttpDispatch.Value.Uuid

/-!
# Values of parameters

A parameter of a route is a text, a truth value, a number, an identifier, a URL, or a text of
a type that an application defines.  Every value has a type, a text and a form for messages,
and `Value.read` reads the text of a value of a given type.
-/

namespace HttpDispatch

/-- A type that an application defines: the name that messages give it, and the name that
stands before its values. -/
structure CustomType where
  name : String
  label : String
  deriving DecidableEq, Repr

/-- The types of values. -/
inductive ValueType where
  | text
  | bool
  | int16
  | int32
  | int64
  | uint8
  | uint32
  | uint64
  | single
  | double
  | uuid
  | url
  | custom (type : CustomType)
  deriving DecidableEq, Repr

/-- The name of a type inside messages. -/
def ValueType.name : ValueType → String
  | .text => "alloc::string::String"
  | .bool => "bool"
  | .int16 => "i16"
  | .int32 => "i32"
  | .int64 => "i64"
  | .uint8 => "u8"
  | .uint32 => "u32"
  | .uint64 => "u64"
  | .single => "f32"
  | .double => "f64"
  | .uuid => "uuid::Uuid"
  | .url => "url::Url"
  | .custom t => t.name

/-- A value of a parameter. -/
inductive Value where
  | text (s : String)
  | bool (b : Bool)
  | int16 (n : Int16)
  | int32 (n : Int32)
  | int64 (n : Int64)
  | uint8 (n : UInt8)
  | uint32 (n : UInt32)
  | uint64 (n : UInt64)
  | single (x : Floating .single)
  | double (x : Floating .double)
  | uuid (u : Uuid)
  | url (u : Url)
  | custom (type : CustomType) (s : String)
  deriving DecidableEq, Repr

namespace Value

/-- The type of a value. -/
def type : Value → ValueType
  | .text _ => .text
  | .bool _ => .bool
  | .int16 _ => .int16
  | .int32 _ => .int32
  | .int64 _ => .int64
  | .uint8 _ => .uint8
  | .uint32 _ => .uint32
  | .uint64 _ => .uint64
  | .single _ => .single
  | .double _ => .double
  | .uuid _ => .uuid
  | .url _ => .url
  | .custom t _ => .custom t

/-- The text of a value. -/
def toText : Value → String
  | .text s => s
  | .bool b => if b then "true" else "false"
  | .int16 n => toString n.toInt
  | .int32 n => toString n.toInt
  | .int64 n => toString n.toInt
  | .uint8 n => toString n.toNat
  | .uint32 n => toString n.toNat
  | .uint64 n => toString n.toNat
  | .single x => x.text
  | .double x => x.text
  | .uuid u => u.text
  | .url u => u.text
  | .custom _ s => s

/-- The form of a value inside messages. -/
def debugText : Value → String
  | .text s => Text.quoted s
  | .single x => x.debugText
  | .double x => x.debugText
  | .custom t s => t.label ++ "(" ++ Text.quoted s ++ ")"
  | v => v.toText

/-- Why a text is not a truth value. -/
def notABool : String := "provided string was not `true` or `false`"

/-- The integer of the given format in a text. -/
def readInteger (signed : Bool) (bits : Nat) (make : Int → Value) (s : String) :
    Except String Value :=
  match IntegerFormat.read ⟨signed, bits⟩ s with
  | .ok n => .ok (make n)
  | .error e => .error e.message

/-- The floating-point number in a text. -/
def readFloating {f : FloatFormat} (make : Floating f → Value) (s : String) :
    Except String Value :=
  match Floating.read s with
  | .ok x => .ok (make x)
  | .error e => .error e.message

/-- The value of the given type in a text, or the reason why there is none. -/
def read (type : ValueType) (s : String) : Except String Value :=
  match type with
  | .text => .ok (.text s)
  | .bool =>
    if s = "true" then .ok (.bool true)
    else if s = "false" then .ok (.bool false)
    else .error notABool
  | .int16 => readInteger true 16 (fun n => .int16 (Int16.ofInt n)) s
  | .int32 => readInteger true 32 (fun n => .int32 (Int32.ofInt n)) s
  | .int64 => readInteger true 64 (fun n => .int64 (Int64.ofInt n)) s
  | .uint8 => readInteger false 8 (fun n => .uint8 (UInt8.ofNat n.toNat)) s
  | .uint32 => readInteger false 32 (fun n => .uint32 (UInt32.ofNat n.toNat)) s
  | .uint64 => readInteger false 64 (fun n => .uint64 (UInt64.ofNat n.toNat)) s
  | .single => readFloating .single s
  | .double => readFloating .double s
  | .uuid =>
    match Uuid.read s with
    | .ok u => .ok (.uuid u)
    | .error e => .error e.message
  | .url =>
    match Url.read s with
    | .ok u => .ok (.url u)
    | .error e => .error e.message
  | .custom t => .ok (.custom t s)

theorem type_read {type : ValueType} {s : String} {v : Value} (h : read type s = .ok v) :
  v.type = type
  := by
  cases type <;> simp only [read, readInteger, readFloating] at h <;>
    (repeat' split at h) <;> cases h <;> rfl

end Value

end HttpDispatch
