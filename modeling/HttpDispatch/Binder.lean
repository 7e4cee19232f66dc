import HttpDispatch.Value.Basic

/-!
# Binders

A binder turns a piece of text into a value and back.  A registry maps the type names of
route declarations to binders; a later registration of a name replaces an earlier one.
Routing in reverse relies on binders for which reading what was written gives the value
back.
-/

namespace HttpDispatch

/-- Why a parameter has no value, or a value no text. -/
inductive BindError where
  /-- The text of a parameter is not one of its type. -/
  | invalid (name value reason : String)
  /-- No binder is registered for a type name. -/
  | unknownType (type : String)
  /-- The value is not of the type that the binder of the parameter writes. -/
  | typeMismatch (name declared : String) (expected : ValueType)
  /-- The parameter has neither a value nor a default. -/
  | missing (name : String)
  /-- The query has several values for the parameter. -/
  | ambiguous (name : String) (count : Nat)
  deriving DecidableEq, Repr

/-- The text of the error. -/
def BindError.message : BindError → String
  | .invalid name value reason =>
    "invalid value " ++ Text.quoted value ++ s!" for parameter `{name}`: {reason}"
  | .unknownType type => s!"no parameter binder registered for type `{type}`"
  | .typeMismatch name declared expected =>
    s!"parameter `{name}` is declared `{declared}` but the value is not a {expected.name}"
  | .missing name => s!"parameter `{name}` not found in path nor in query string"
  | .ambiguous name count =>
    s!"parameter `{name}` has {count} values in the query string, expected one"

/-- A binder for the values of one type. -/
structure Binder where
  /-- The type of the values. -/
  type : ValueType
  /-- The value of the parameter `name` with the given text. -/
  bind : (name text : String) → Except BindError Value
  /-- The text of a value of the type. -/
  unbind : (name : String) → Value → String

namespace Binder

/-- The binder that reads and writes the values of a type, where `accepts` holds of them;
`reason` says why it does not. -/
def ofType (type : ValueType) (accepts : Value → Bool) (reason : String) : Binder where
  type
  bind name text :=
    match Value.read type text with
    | .ok v => if accepts v then .ok v else .error (.invalid name text reason)
    | .error e => .error (.invalid name text e)
  unbind _ := Value.toText

/-- Whether a number is finite; other values are. -/
def isFinite : Value → Bool
  | .single x => x.isFinite
  | .double x => x.isFinite
  | _ => true

/-- The binder that reads and writes all values of a type but infinities and `NaN`. -/
def standard (type : ValueType) : Binder := ofType type isFinite "not a finite number"

/-- The binder for the texts of a type of an application that satisfy `accepts`. -/
def ofTest (type : CustomType) (accepts : String → Bool) (reason : String) : Binder :=
  ofType (.custom type) (fun v => accepts v.toText) reason

end Binder

/-- The binders by the type names of route declarations. -/
structure Registry where
  entries : List (String × Binder)

namespace Registry

/-- No binders. -/
def empty : Registry := ⟨[]⟩

/-- The binder of a type name. -/
def get? (r : Registry) (type : String) : Option Binder := r.entries.lookup type

/-- The registry with `binder` for the type name. -/
def register (r : Registry) (type : String) (binder : Binder) : Registry :=
  ⟨(type, binder) :: r.entries.filter (·.1 != type)⟩

/-- Whether there is a binder for the type name. -/
def accepts (r : Registry) (type : String) : Bool := (r.get? type).isSome

/-- The value of the parameter `name`, declared with the type name `type`, in a text. -/
def bind (r : Registry) (type name text : String) : Except BindError Value :=
  match r.get? type with
  | some b => b.bind name text
  | none => .error (.unknownType type)

/-- The text of a value of the parameter `name`, declared with the type name `type`. -/
def unbind (r : Registry) (type name : String) (v : Value) : Except BindError String :=
  match r.get? type with
  | some b =>
    if v.type = b.type then .ok (b.unbind name v) else .error (.typeMismatch name type b.type)
  | none => .error (.unknownType type)

/-- The type names with a binder, in order. -/
def typeNames (r : Registry) : List String :=
  (r.entries.map (·.1)).mergeSort fun a b => decide (a ≤ b)

/-- The registry inside messages. -/
def debugText (r : Registry) : String :=
  "ParameterBinders \x7b types: [" ++ ", ".intercalate (r.typeNames.map Text.quoted) ++ "] \x7d"

/-- The type names of the standard binders. -/
def standardTypes : List (String × ValueType) := [
  ("String", .text), ("str", .text), ("Boolean", .bool), ("bool", .bool),
  ("Short", .int16), ("i16", .int16), ("Integer", .int32), ("Int", .int32), ("i32", .int32),
  ("Long", .int64), ("i64", .int64), ("u32", .uint32), ("u64", .uint64),
  ("Float", .single), ("f32", .single), ("Double", .double), ("f64", .double),
  ("UUID", .uuid), ("Uuid", .uuid), ("URL", .url), ("Url", .url)]

/-- The registry of the standard binders. -/
def standard : Registry := ⟨standardTypes.map fun t => (t.1, Binder.standard t.2)⟩

end Registry

end HttpDispatch
