import HttpDispatch.Number.Integer
import HttpDispatch.Text.Percent
import HttpDispatch.Toml.Basic

/-!
# Numbers and times in documents

An integer has 64 bits and is decimal, hexadecimal, octal or binary.  A floating-point number
has a fraction or an exponent, or is infinite or no number; its digits may denote a number
below all finite ones, but none above them.  A time is a date, a time of day or both, perhaps
with its distance from universal time.  Underscores may stand between digits.
-/

namespace HttpDispatch.Toml

/-- The digits of a run with single underscores between them, if it is not empty. -/
def digitRun? (isDigit : Char → Bool) : List Char → Option (List Char)
  | [] => none
  | [c] => if isDigit c then some [c] else none
  | c :: '_' :: cs =>
    if isDigit c then (digitRun? isDigit cs).map (c :: ·) else none
  | c :: cs => if isDigit c then (digitRun? isDigit cs).map (c :: ·) else none

/-- The number that digits denote in a base. -/
def digitsIn (base : Nat) (cs : List Char) : Nat :=
  cs.foldl (fun n c => n * base + (Text.hexValue? c).getD 0) 0

/-- Whether a character is a digit of a base. -/
def isDigitOf (base : Nat) (c : Char) : Bool :=
  match Text.hexValue? c with
  | some d => d < base
  | none => false

/-- The digits of a decimal number, which has no needless zero at its start. -/
def decimalRun? (cs : List Char) : Option (List Char) :=
  match digitRun? Char.isDigit cs with
  | some ds => if ds.head? = some '0' ∧ 1 < ds.length then none else some ds
  | none => none

/-- A number that has 64 bits with its sign. -/
def bounded (n : Int) : Option Toml :=
  if -Int.pow 2 63 ≤ n ∧ n < Int.pow 2 63 then some (.integer n) else none

/-- The integer in a text. -/
def integer? (cs : List Char) : Option Toml :=
  let based (base : Nat) (ds : List Char) : Option Toml :=
    (digitRun? (isDigitOf base) ds).bind fun ds => bounded (digitsIn base ds)
  match cs with
  | '0' :: 'x' :: ds => based 16 ds
  | '0' :: 'o' :: ds => based 8 ds
  | '0' :: 'b' :: ds => based 2 ds
  | _ =>
    let (negative, ds) := Floating.takeSign cs
    (decimalRun? ds).bind fun ds =>
      bounded (if negative then - (digitsIn 10 ds : Int) else digitsIn 10 ds)

/-- The exponent of a number in a text. -/
def exponent? (cs : List Char) : Option (List Char) :=
  let (negative, ds) := Floating.takeSign cs
  (digitRun? Char.isDigit ds).map fun ds => (if negative then ['-'] else []) ++ ds

/-- The floating-point number in a text. -/
def float? (cs : List Char) : Option Toml :=
  let (negative, rest) := Floating.takeSign cs
  if rest = "inf".toList then some (.float (.infinite negative))
  else if rest = "nan".toList then some (.float .nan)
  else
    let (whole, rest) := rest.span fun c => c.isDigit ∨ c = '_'
    let (fraction, rest) :=
      match rest with
      | '.' :: rest =>
        let (ds, rest) := rest.span fun c => c.isDigit ∨ c = '_'
        (some ds, rest)
      | _ => (none, rest)
    let exponent :=
      match rest with
      | [] => some none
      | c :: es => if c = 'e' ∨ c = 'E' then (exponent? es).map some else none
    let fraction :=
      match fraction with
      | none => some []
      | some ds => (digitRun? Char.isDigit ds).map fun ds => '.' :: ds
    match decimalRun? whole, fraction, exponent with
    | some ds, some fs, some es =>
      if fs.isEmpty ∧ es.isNone then none
      else
        let written := ds ++ fs ++ ((es.map fun e => 'e' :: e).getD [])
        match (Floating.read (String.ofList written) : Except FloatError (Floating .double)) with
        | .ok (.finite _ m e) => some (.float (.finite negative m e))
        | .ok (.infinite _) => if negative then some (.float (.infinite true)) else none
        | _ => none
    | _, _, _ => none

/-- The number in exactly `n` decimal digits at the start of a text. -/
def takeDigits (n : Nat) (cs : List Char) : Option (Nat × List Char) :=
  if (cs.take n).length = n ∧ (cs.take n).all Char.isDigit then
    some (digitsIn 10 (cs.take n), cs.drop n)
  else none

/-- The text after a character at its start. -/
def after? (c : Char) : List Char → Option (List Char)
  | [] => none
  | d :: cs => if d = c then some cs else none

/-- The number of days in a month. -/
def daysIn (year month : Nat) : Nat :=
  if month = 2 then
    if year % 4 = 0 ∧ (year % 100 ≠ 0 ∨ year % 400 = 0) then 29 else 28
  else if [4, 6, 9, 11].contains month then 30
  else 31

/-- What follows a date at the start of a text. -/
def afterDate? (cs : List Char) : Option (List Char) := do
  let (year, cs) ← takeDigits 4 cs
  let (month, cs) ← takeDigits 2 (← after? '-' cs)
  let (day, cs) ← takeDigits 2 (← after? '-' cs)
  if 1 ≤ month ∧ month ≤ 12 ∧ 1 ≤ day ∧ day ≤ daysIn year month then some cs else none

/-- What follows hours and minutes at the start of a text. -/
def afterMinutes? (cs : List Char) : Option (List Char) := do
  let (hour, cs) ← takeDigits 2 cs
  let (minute, cs) ← takeDigits 2 (← after? ':' cs)
  if hour ≤ 23 ∧ minute ≤ 59 then some cs else none

/-- What follows a time of day at the start of a text. -/
def afterClock? (cs : List Char) : Option (List Char) := do
  let (second, cs) ← takeDigits 2 (← after? ':' (← afterMinutes? cs))
  if 60 < second then none
  else
    match cs with
    | '.' :: ds =>
      let (fraction, rest) := ds.span Char.isDigit
      if fraction.isEmpty then none else some rest
    | _ => some cs

/-- Whether a text is empty or the distance of a time from universal time. -/
def isOffset : List Char → Bool
  | [] => true
  | ['Z'] | ['z'] => true
  | '+' :: cs | '-' :: cs => afterMinutes? cs = some []
  | _ => false

/-- Whether a text is a time of day, perhaps with its distance from universal time. -/
def isClock (cs : List Char) : Bool :=
  match afterClock? cs with
  | some rest => isOffset rest
  | none => false

/-- Whether a text is a date, a time of day, or both with a `T` between them. -/
def isTime (cs : List Char) : Bool :=
  match afterDate? cs with
  | some [] => true
  | some (c :: rest) => (c = 'T' || c = 't') && isClock rest
  | none => afterClock? cs = some []

/-- The number or time in a text. -/
def scalar? (cs : List Char) : Option Toml :=
  if isTime cs then some (.time (String.ofList cs)) else float? cs <|> integer? cs

end HttpDispatch.Toml
