/-!
# Decimal integers

A fixed-width integer is read from an optional sign and decimal digits.  Reading stops at
the first character that is no digit, or at the first digit after which the number read so
far no longer fits, whichever comes first.
-/

namespace HttpDispatch

/-- Why a text is not an integer of the given width. -/
inductive IntegerError where
  /-- There is nothing to read. -/
  | empty
  /-- A character that is no digit, or a sign alone. -/
  | invalidDigit
  /-- The number is above the greatest of its type. -/
  | tooLarge
  /-- The number is below the least of its type. -/
  | tooSmall
  deriving DecidableEq, Repr

/-- The text of the error inside messages. -/
def IntegerError.message : IntegerError → String
  | .empty => "cannot parse integer from empty string"
  | .invalidDigit => "invalid digit found in string"
  | .tooLarge => "number too large to fit in target type"
  | .tooSmall => "number too small to fit in target type"

/-- The integers of a type: its width in bits, and whether one of them is the sign. -/
structure IntegerFormat where
  signed : Bool
  bits : Nat
  deriving DecidableEq, Repr

namespace IntegerFormat

/-- The greatest integer of the type. -/
def greatest (f : IntegerFormat) : Nat :=
  if f.signed then Nat.pow 2 (f.bits - 1) - 1 else Nat.pow 2 f.bits - 1

/-- The absolute value of the least integer of the type. -/
def least (f : IntegerFormat) : Nat :=
  if f.signed then Nat.pow 2 (f.bits - 1) else 0

/-- The value of a decimal digit. -/
def digit? (c : Char) : Option Nat :=
  if '0' ≤ c ∧ c ≤ '9' then some (c.toNat - '0'.toNat) else none

/-- The number whose digits are those of `acc` followed by `cs`, if it is at most `limit`;
`overflow` is the error for one that is not. -/
def readDigits (limit : Nat) (overflow : IntegerError) (acc : Nat) :
    List Char → Except IntegerError Nat
  | [] => .ok acc
  | c :: cs =>
    match digit? c with
    | none => .error .invalidDigit
    | some d =>
      if limit < acc * 10 + d then .error overflow
      else readDigits limit overflow (acc * 10 + d) cs

/-- The integer that a text denotes in the given type. -/
def read (f : IntegerFormat) (s : String) : Except IntegerError Int :=
  match s.toList with
  | [] => .error .empty
  | ['+'] | ['-'] => .error .invalidDigit
  | '+' :: cs => (readDigits f.greatest .tooLarge 0 cs).map Int.ofNat
  | '-' :: cs =>
    if f.signed then (readDigits f.least .tooSmall 0 cs).map fun n => - Int.ofNat n
    else .error .invalidDigit
  | cs => (readDigits f.greatest .tooLarge 0 cs).map Int.ofNat

end IntegerFormat

end HttpDispatch
