/-!
# Binary floating-point numbers

A format fixes how many binary digits a significand has and which exponents there are.  A
finite number is a significand times a power of two; `ofRatio` gives the number nearest to
a quotient, of two equally near the one with an even significand.  `read` gives the number
nearest to a decimal text.
-/

namespace HttpDispatch

/-- A binary floating-point format. -/
structure FloatFormat where
  /-- The number of binary digits of a significand. -/
  precision : Nat
  /-- The least exponent. -/
  minExponent : Int
  /-- The greatest exponent. -/
  maxExponent : Int
  deriving DecidableEq, Repr

namespace FloatFormat

/-- The format of 32 bits. -/
def single : FloatFormat := ⟨24, -149, 104⟩

/-- The format of 64 bits. -/
def double : FloatFormat := ⟨53, -1074, 971⟩

end FloatFormat

/-- A number of a binary floating-point format. -/
inductive Floating (f : FloatFormat) where
  /-- No number. -/
  | nan
  /-- A number beyond the finite ones. -/
  | infinite (negative : Bool)
  /-- The number `significand * 2 ^ exponent` with its sign. -/
  | finite (negative : Bool) (significand : Nat) (exponent : Int)
  deriving DecidableEq, Repr

/-- Why a text is not a floating-point number. -/
inductive FloatError where
  /-- There is nothing to read. -/
  | empty
  /-- The text is not of the form of a number. -/
  | invalid
  deriving DecidableEq, Repr

/-- The text of the error inside messages. -/
def FloatError.message : FloatError → String
  | .empty => "cannot parse float from empty string"
  | .invalid => "invalid float literal"

namespace Floating

variable {f : FloatFormat}

/-- The quotient rounded to the nearest natural number, a half to the even neighbour. -/
def roundHalfEven (num den : Nat) : Nat :=
  let q := num / den
  match compare (2 * (num % den)) den with
  | .lt => q
  | .gt => q + 1
  | .eq => q + q % 2

/-- The quotient of `num` by `den * 2 ^ e`, as numerator and denominator. -/
def scale (num den : Nat) (e : Int) : Nat × Nat :=
  if 0 ≤ e then (num, den * Nat.pow 2 e.toNat) else (num * Nat.pow 2 (-e).toNat, den)

/-- The exponent at which the quotient has as many binary digits as the format, or the least
exponent if that is greater. -/
def exponentOf (f : FloatFormat) (num den : Nat) : Int :=
  let e : Int := (num.log2 : Int) - den.log2 - (f.precision - 1)
  let (n, d) := scale num den e
  max (if n / d < Nat.pow 2 (f.precision - 1) then e - 1 else e) f.minExponent

/-- The number of the format nearest to `num / den`. -/
def ofRatio (negative : Bool) (num den : Nat) : Floating f :=
  if num = 0 then .finite negative 0 f.minExponent
  else
    let e := exponentOf f num den
    let (n, d) := scale num den e
    let m := roundHalfEven n d
    let (m, e) := if m = Nat.pow 2 f.precision then (m / 2, e + 1) else (m, e)
    if f.maxExponent < e then .infinite negative else .finite negative m e

/-- The number of the format nearest to `digits * 10 ^ exponent`.  A number of more than four
hundred places is beyond every format, and one with as many zeros after the point is nearest
to zero. -/
def ofDecimal (negative : Bool) (digits : Nat) (exponent : Int) : Floating f :=
  let magnitude := exponent + (Nat.toDigits 10 digits).length
  if digits = 0 ∨ magnitude < -400 then .finite negative 0 f.minExponent
  else if 400 < magnitude then .infinite negative
  else if 0 ≤ exponent then ofRatio negative (digits * Nat.pow 10 exponent.toNat) 1
  else ofRatio negative digits (Nat.pow 10 (-exponent).toNat)

/-- Whether the number is finite. -/
def isFinite : Floating f → Bool
  | .finite .. => true
  | _ => false

/-- Whether the number is an infinity. -/
def isInfinite : Floating f → Bool
  | .infinite _ => true
  | _ => false

/-! ### Reading -/

/-- The decimal number that a run of digits denotes. -/
def digitsValue (cs : List Char) : Nat :=
  cs.foldl (fun n c => n * 10 + (c.toNat - '0'.toNat)) 0

/-- The sign at the start of a text, and the rest. -/
def takeSign : List Char → Bool × List Char
  | '+' :: cs => (false, cs)
  | '-' :: cs => (true, cs)
  | cs => (false, cs)

/-- The exponent that ends a number; without one it is zero. -/
def readExponent : List Char → Option Int
  | [] => some 0
  | c :: cs =>
    if c = 'e' ∨ c = 'E' then
      let (negative, ds) := takeSign cs
      if ds ≠ [] ∧ ds.all Char.isDigit then
        some (if negative then - (digitsValue ds : Int) else digitsValue ds)
      else none
    else none

/-- The digits and the decimal exponent of an unsigned number: digits with at most one point
among them or beside them, and at least one digit. -/
def readDecimal (cs : List Char) : Option (Nat × Int) :=
  let (whole, rest) := cs.span Char.isDigit
  let (fraction, rest) :=
    match rest with
    | '.' :: rest => rest.span Char.isDigit
    | _ => ([], rest)
  if whole.isEmpty && fraction.isEmpty then none
  else (readExponent rest).map fun e => (digitsValue (whole ++ fraction), e - fraction.length)

/-- The number that a text denotes: `inf`, `infinity` and `nan` in either case, or a decimal
number, each with an optional sign. -/
def read (s : String) : Except FloatError (Floating f) :=
  if s.isEmpty then .error .empty
  else
    let (negative, cs) := takeSign s.toList
    match readDecimal cs with
    | some (digits, exponent) => .ok (ofDecimal negative digits exponent)
    | none =>
      match String.ofList (cs.map Char.toLower) with
      | "inf" | "infinity" => .ok (.infinite negative)
      | "nan" => .ok .nan
      | _ => .error .invalid

end Floating

end HttpDispatch
