import HttpDispatch.Json.Basic
import HttpDispatch.Text.Bytes

/-!
# Numbers of JSON

A number without point and exponent that has 64 bits is an integer.  Of any other the first
digits are taken as a whole number, as many as have 64 bits, and the number nearest to it is
multiplied or divided by the number nearest to a power of ten.  So the result is not always
the number nearest to the text.
-/

namespace HttpDispatch

/-- Why bytes are not a value of JSON. -/
inductive JsonError where
  /-- A byte stands where it cannot. -/
  | malformed
  /-- The bytes end inside the value. -/
  | incomplete
  deriving DecidableEq, Repr

namespace Json

/-- What takes a value off bytes, and gives the bytes after it. -/
abbrev Reading (α : Type) := Except JsonError (α × Bytes)

/-- Whether a byte is a decimal digit. -/
def isDigit (b : UInt8) : Bool := Text.byteOf '0' ≤ b && b ≤ Text.byteOf '9'

/-- The value of a decimal digit. -/
def digit (b : UInt8) : Nat := b.toNat - '0'.toNat

/-- The number whose digits are those of `n` and then as many of `ds` as have 64 bits, and how
many those are. -/
def takeDigits (n : Nat) : Bytes → Nat × Nat
  | [] => (n, 0)
  | d :: ds =>
    if Nat.pow 2 64 ≤ n * 10 + digit d then (n, 0)
    else
      let (m, taken) := takeDigits (n * 10 + digit d) ds
      (m, taken + 1)

/-- The absolute value of a finite number, as numerator and denominator. -/
def ratio : Floating .double → Nat × Nat
  | .finite _ m e => if 0 ≤ e then (m * Nat.pow 2 e.toNat, 1) else (m, Nat.pow 2 (-e).toNat)
  | _ => (0, 1)

/-- The number nearest to a power of ten. -/
def powerOfTen (k : Nat) : Floating .double := .ofRatio false (Nat.pow 10 k) 1

/-- The greatest exponent of a power of ten to which a finite number is nearest. -/
def maxPower : Nat := 308

/-- A positive number multiplied by a power of ten. -/
def scaleUp (x : Floating .double) (k : Nat) : Floating .double :=
  .ofRatio false ((ratio x).1 * (ratio (powerOfTen k)).1) ((ratio x).2 * (ratio (powerOfTen k)).2)

/-- A positive number divided by a power of ten. -/
def scaleDown (x : Floating .double) (k : Nat) : Floating .double :=
  .ofRatio false ((ratio x).1 * (ratio (powerOfTen k)).2) ((ratio x).2 * (ratio (powerOfTen k)).1)

/-- A positive number divided by a power of ten, which is done in steps if the power is beyond
the finite numbers. -/
def scaleDownBy (x : Floating .double) (k : Nat) : Floating .double :=
  if (ratio x).1 = 0 ∨ k ≤ maxPower then scaleDown x (min k maxPower)
  else scaleDownBy (scaleDown x maxPower) (k - maxPower)
termination_by k
decreasing_by
  have : maxPower = 308 := rfl
  omega

/-- A number with its sign. -/
def signed (negative : Bool) : Floating .double → Floating .double
  | .finite _ m e => .finite negative m e
  | x => x

/-- The number for `n * 10 ^ k`; one that is too great is refused. -/
def ofParts (negative : Bool) (n : Nat) (k : Int) : Except JsonError Json :=
  let x : Floating .double := .ofRatio false n 1
  if k < 0 then .ok (.float (signed negative (scaleDownBy x k.natAbs)))
  else if n = 0 then .ok (.float (signed negative x))
  else if maxPower < k.natAbs then .error .malformed
  else
    let y := scaleUp x k.natAbs
    if y.isFinite then .ok (.float (signed negative y)) else .error .malformed

/-- The whole number with the given sign, if it is an integer of 64 bits other than a negative
zero. -/
def integer? (negative : Bool) (n : Nat) : Option Json :=
  if ! negative then some (.integer n)
  else if n = 0 ∨ Nat.pow 2 63 < n then none
  else some (.integer (-n))

/-- The number `n * 10 ^ k` or, if an exponent follows, a multiple by its power of ten. -/
def exponent (negative : Bool) (n : Nat) (k : Int) : Bytes → Reading Json
  | [] => (ofParts negative n k).map fun v => (v, [])
  | b :: bs =>
    if b = Text.byteOf 'e' ∨ b = Text.byteOf 'E' then
      let (below, ds) :=
        match bs with
        | [] => (false, [])
        | s :: rest =>
          if s = Text.byteOf '+' then (false, rest)
          else if s = Text.byteOf '-' then (true, rest)
          else (false, bs)
      match ds with
      | [] => .error .incomplete
      | d :: _ =>
        if isDigit d then
          let (digits, rest) := ds.span isDigit
          let e : Int := digits.foldl (fun e d => e * 10 + digit d) 0
          (ofParts negative n (if below then k - e else k + e)).map fun v => (v, rest)
        else .error .malformed
    else (ofParts negative n k).map fun v => (v, b :: bs)

/-- The number `n * 10 ^ k` or, if digits follow a point, the number with those digits too. -/
def fraction (negative : Bool) (n : Nat) (k : Int) (bs : Bytes) : Reading Json :=
  match bs.span isDigit with
  | ([], []) => .error .incomplete
  | ([], _) => .error .malformed
  | (ds, rest) =>
    let (m, taken) := takeDigits n ds
    exponent negative m (k - taken) rest

/-- The number after its sign. -/
def unsigned (negative : Bool) (bs : Bytes) : Reading Json :=
  match bs.span isDigit with
  | ([], []) => .error .incomplete
  | ([], _) => .error .malformed
  | (d :: ds, rest) =>
    if digit d = 0 ∧ ! ds.isEmpty then .error .malformed
    else
      let (n, taken) := takeDigits 0 (d :: ds)
      let k := (d :: ds).length - taken
      match rest with
      | [] => whole n k []
      | b :: more =>
        if b = Text.byteOf '.' then fraction negative n k more
        else if b = Text.byteOf 'e' ∨ b = Text.byteOf 'E' then exponent negative n k rest
        else whole n k rest
where
  /-- The whole number `n * 10 ^ k`. -/
  whole (n k : Nat) (rest : Bytes) : Reading Json :=
    match if k = 0 then integer? negative n else none with
    | some v => .ok (v, rest)
    | none => (ofParts negative n k).map fun v => (v, rest)

/-- The number at the start of bytes. -/
def number (bs : Bytes) : Reading Json :=
  match bs with
  | [] => .error .incomplete
  | b :: rest => if b = Text.byteOf '-' then unsigned true rest else unsigned false bs

end Json

end HttpDispatch
