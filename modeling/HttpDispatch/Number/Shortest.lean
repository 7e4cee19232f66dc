import HttpDispatch.Number.Floating

/-!
# The shortest decimal form of a floating-point number

`shortest` gives the fewest decimal digits that lie nearer to the number than to any other
of its format, and among those the ones nearest to it.  `Floating.text` writes them without
an exponent, `Floating.debugText` with an exponent where that is shorter to read.
-/

namespace HttpDispatch

/-- The decimal number `digits * 10 ^ exponent`. -/
structure Decimal where
  digits : Nat
  exponent : Int
  deriving DecidableEq, Repr

/-- Which of two decimals is chosen when both are equally near. -/
inductive TieRule where
  /-- The greater one. -/
  | up
  /-- The one with an even last digit. -/
  | even
  deriving DecidableEq, Repr

namespace Decimal

/-- The power `10 ^ k`, as numerator and denominator. -/
def power (k : Int) : Nat × Nat :=
  if 0 ≤ k then (Nat.pow 10 k.toNat, 1) else (1, Nat.pow 10 (-k).toNat)

/-- The decimal without the zeros at the end of its digits; `fuel` bounds their number. -/
def stripZeros : Nat → Decimal → Decimal
  | 0, d => d
  | fuel + 1, d =>
    if d.digits ≠ 0 ∧ d.digits % 10 = 0 then stripZeros fuel ⟨d.digits / 10, d.exponent + 1⟩
    else d

end Decimal

/-- The positive number `significand * 2 ^ exponent` of a format with the numbers that round
to it.  All four are multiples of `num / den`. -/
structure RoundingInterval where
  value : Nat
  low : Nat
  high : Nat
  /-- Whether the ends round to the number. -/
  closed : Bool
  num : Nat
  den : Nat

namespace RoundingInterval

/-- The numbers that round to `significand * 2 ^ exponent`.  The gap below a power of two is
half as wide as the gap above. -/
def ofFinite (f : FloatFormat) (significand : Nat) (exponent : Int) : RoundingInterval where
  value := 4 * significand
  low :=
    if significand = Nat.pow 2 (f.precision - 1) ∧ f.minExponent < exponent then 4 * significand - 1
    else 4 * significand - 2
  high := 4 * significand + 2
  closed := significand % 2 = 0
  num := if 2 ≤ exponent then Nat.pow 2 (exponent - 2).toNat else 1
  den := if 2 ≤ exponent then 1 else Nat.pow 2 (2 - exponent).toNat

/-- Whether `digits * 10 ^ k` lies in the interval. -/
def contains (i : RoundingInterval) (k : Int) (digits : Nat) : Bool :=
  let (p, q) := Decimal.power k
  let point := digits * p * i.den
  if i.closed then i.low * i.num * q ≤ point && point ≤ i.high * i.num * q
  else i.low * i.num * q < point && point < i.high * i.num * q

/-- The least `k` for which the number is below `10 ^ k`. -/
def magnitude (i : RoundingInterval) : Int :=
  let v := i.value * i.num
  if i.den ≤ v then (Nat.toDigits 10 (v / i.den)).length
  else 1 - ((Nat.toDigits 10 ((i.den + v - 1) / v - 1)).length : Int)

/-- Whether `num / den` is nearer to the number above its whole part than to the whole part. -/
def roundsUp (tie : TieRule) (num den : Nat) : Bool :=
  match compare (2 * (num % den)) den, tie with
  | .lt, _ => false
  | .gt, _ => true
  | .eq, .up => true
  | .eq, .even => num / den % 2 == 1

/-- The multiple of `10 ^ k` in the interval that is nearest to the number, if one of its two
neighbours among them lies in the interval. -/
def nearest? (i : RoundingInterval) (tie : TieRule) (k : Int) : Option Nat :=
  let (p, q) := Decimal.power k
  let num := i.value * i.num * q
  let den := p * i.den
  let d := num / den
  match i.contains k d, i.contains k (d + 1) with
  | true, true => some (if roundsUp tie num den then d + 1 else d)
  | true, false => some d
  | false, true => some (d + 1)
  | false, false => none

/-- The fewest digits in the interval.  Seventeen digits tell any two numbers of 64 bits
apart; the last line gives the exact value. -/
def shortest (i : RoundingInterval) (tie : TieRule) : Decimal :=
  let found := (List.range 17).findSome? fun (n : Nat) =>
    let k := i.magnitude - ((n : Int) + 1)
    (i.nearest? tie k).map fun d => Decimal.stripZeros 18 ⟨d, k⟩
  found.getD ⟨i.value * i.num * Nat.pow 5 i.den.log2, - (i.den.log2 : Int)⟩

end RoundingInterval

namespace Floating

variable {f : FloatFormat}

/-- The shortest decimal of a finite number without its sign. -/
def shortest (f : FloatFormat) (tie : TieRule) (significand : Nat) (exponent : Int) : Decimal :=
  if significand = 0 then ⟨0, 0⟩
  else (RoundingInterval.ofFinite f significand exponent).shortest tie

/-- The digits of a decimal with its point in place and no exponent; `point` follows a whole
number. -/
def positional (point : String) (d : Decimal) : String :=
  let ds := Nat.toDigits 10 d.digits
  if 0 ≤ d.exponent then
    String.ofList (ds ++ List.replicate d.exponent.toNat '0') ++ point
  else
    let places := (-d.exponent).toNat
    if places < ds.length then
      String.ofList (ds.take (ds.length - places) ++ '.' :: ds.drop (ds.length - places))
    else
      String.ofList ('0' :: '.' :: List.replicate (places - ds.length) '0' ++ ds)

/-- The digits of a decimal with a point after the first, and the exponent of that digit. -/
def scientific (d : Decimal) : String :=
  let ds := Nat.toDigits 10 d.digits
  let e := d.exponent + (ds.length - 1 : Nat)
  String.ofList (ds.take 1 ++ (if ds.length = 1 then [] else '.' :: ds.drop 1))
    ++ "e" ++ toString e

/-- A number written with `layout`, with its sign. -/
def write (tie : TieRule) (layout : Decimal → String) : Floating f → String
  | .nan => "NaN"
  | .infinite negative => (if negative then "-" else "") ++ "inf"
  | .finite negative m e => (if negative then "-" else "") ++ layout (shortest f tie m e)

/-- The shortest decimal form, never with an exponent, a whole number without a point. -/
def text (x : Floating f) : String := x.write .up (positional "")

/-- The exponent of the first digit. -/
def leadingExponent (d : Decimal) : Int :=
  d.exponent + ((Nat.toDigits 10 d.digits).length : Int) - 1

/-- The shortest decimal form with a point in a whole number; numbers below `10 ^ -4` and from
`10 ^ 16` on are written with an exponent. -/
def debugText (x : Floating f) : String :=
  x.write .up fun d =>
    if d.digits = 0 ∨ (-4 ≤ leadingExponent d ∧ leadingExponent d < 16) then positional ".0" d
    else scientific d

end Floating

end HttpDispatch
