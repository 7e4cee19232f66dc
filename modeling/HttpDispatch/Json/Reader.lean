import HttpDispatch.Json.Number
import HttpDispatch.Text.Percent

/-!
# Reading JSON

A value is read from bytes, and nothing but blanks may follow it.  Lists and objects nest to
a bounded depth.  The readers are bounded by the number of bytes, since each takes one off
before it calls another.
-/

namespace HttpDispatch.Json

/-- The bytes without the blanks at their start. -/
def skipBlanks (bs : Bytes) : Bytes :=
  bs.dropWhile fun b => (Text.utf8 " \t\n\r").contains b

/-- A value whose other bytes are those of a word. -/
def word (v : Json) : List Char → Bytes → Reading Json
  | [], bs => .ok (v, bs)
  | _ :: _, [] => .error .incomplete
  | c :: cs, b :: bs => if b = Text.byteOf c then word v cs bs else .error .malformed

/-! ### Texts -/

/-- The number in four hexadecimal digits. -/
def hexFour : Bytes → Reading Nat
  | a :: b :: c :: d :: rest =>
    match [a, b, c, d].mapM fun x => Text.hexValue? (Char.ofNat x.toNat) with
    | some ds => .ok (ds.foldl (fun n d => n * 16 + d) 0, rest)
    | none => .error .malformed
  | _ => .error .incomplete

/-- The second number of a pair that denotes one character. -/
def secondOfPair : Bytes → Reading Nat
  | [] => .error .incomplete
  | [b] => if b = Text.byteOf '\\' then .error .incomplete else .error .malformed
  | a :: b :: rest =>
    if a = Text.byteOf '\\' ∧ b = Text.byteOf 'u' then hexFour rest else .error .malformed

/-- The character that hexadecimal digits denote, alone or in a pair. -/
def unicodeEscape (bs : Bytes) : Except JsonError (Char × Bytes) := do
  let (n, bs) ← hexFour bs
  if 0xDC00 ≤ n ∧ n ≤ 0xDFFF then throw .malformed
  else if 0xD800 ≤ n ∧ n ≤ 0xDBFF then
    let (m, bs) ← secondOfPair bs
    if 0xDC00 ≤ m ∧ m ≤ 0xDFFF then
      return (Char.ofNat ((n - 0xD800) * 0x400 + (m - 0xDC00) + 0x10000), bs)
    else throw .malformed
  else return (Char.ofNat n, bs)

/-- The character that an escape denotes after its backslash. -/
def escape : Bytes → Reading Char
  | [] => .error .incomplete
  | b :: bs =>
    match Char.ofNat b.toNat with
    | '"' => .ok ('"', bs)
    | '\\' => .ok ('\\', bs)
    | '/' => .ok ('/', bs)
    | 'b' => .ok ('\x08', bs)
    | 'f' => .ok ('\x0c', bs)
    | 'n' => .ok ('\n', bs)
    | 'r' => .ok ('\r', bs)
    | 't' => .ok ('\t', bs)
    | 'u' => unicodeEscape bs
    | _ => .error .malformed

/-- The bytes of a text up to its closing quote, with escapes resolved. -/
def textBytes : Nat → Bytes → Reading Bytes
  | 0, _ | _, [] => .error .incomplete
  | fuel + 1, b :: bs =>
    if b = Text.byteOf '"' then .ok ([], bs)
    else if b = Text.byteOf '\\' then
      match escape bs with
      | .error e => .error e
      | .ok (c, bs) => (textBytes fuel bs).map fun r => (Text.utf8 c.toString ++ r.1, r.2)
    else if b < Text.byteOf ' ' then .error .malformed
    else (textBytes fuel bs).map fun r => (b :: r.1, r.2)

/-- The text after its opening quote. -/
def string (bs : Bytes) : Reading String :=
  match textBytes (bs.length + 1) bs with
  | .error e => .error e
  | .ok (data, rest) =>
    match Text.ofUtf8? data with
    | some s => .ok (s, rest)
    | none => .error .malformed

/-! ### Values -/

/-- The depth below which lists and objects nest. -/
def maxDepth : Nat := 128

/-- The bytes from the value of a member on. -/
def afterColon (bs : Bytes) : Except JsonError Bytes :=
  match skipBlanks bs with
  | [] => .error .incomplete
  | b :: rest => if b = Text.byteOf ':' then .ok rest else .error .malformed

mutual

/-- The value at the start of bytes, inside `depth` lists and objects. -/
def value (fuel depth : Nat) (bs : Bytes) : Reading Json :=
  match fuel, skipBlanks bs with
  | 0, _ | _, [] => .error .incomplete
  | fuel + 1, b :: rest =>
    match Char.ofNat b.toNat with
    | 'n' => word .null "ull".toList rest
    | 't' => word (.boolean true) "rue".toList rest
    | 'f' => word (.boolean false) "alse".toList rest
    | '"' => (string rest).map fun r => (.text r.1, r.2)
    | '[' =>
      if maxDepth ≤ depth + 1 then .error .malformed
      else (items fuel (depth + 1) true rest).map fun r => (.list r.1, r.2)
    | '\x7b' =>
      if maxDepth ≤ depth + 1 then .error .malformed
      else (members fuel (depth + 1) true rest).map fun r => (ofMembers r.1, r.2)
    | _ =>
      if isDigit b ∨ b = Text.byteOf '-' then number (b :: rest) else .error .malformed

/-- The items of a list up to its end; before every item but the first a comma stands. -/
def items (fuel depth : Nat) (first : Bool) (bs : Bytes) : Reading (List Json) :=
  match fuel, skipBlanks bs with
  | 0, _ | _, [] => .error .incomplete
  | fuel + 1, b :: rest =>
    if b = Text.byteOf ']' then .ok ([], rest)
    else if first then item fuel depth (b :: rest)
    else if b = Text.byteOf ',' then
      match skipBlanks rest with
      | [] => .error .incomplete
      | c :: rest => if c = Text.byteOf ']' then .error .malformed else item fuel depth (c :: rest)
    else .error .malformed

/-- An item of a list and those after it. -/
def item (fuel depth : Nat) (bs : Bytes) : Except JsonError (List Json × Bytes) :=
  match fuel with
  | 0 => .error .incomplete
  | fuel + 1 => do
    let (v, rest) ← value fuel depth bs
    let (vs, rest) ← items fuel depth false rest
    return (v :: vs, rest)

/-- The members of an object up to its end; before every member but the first a comma
stands. -/
def members (fuel depth : Nat) (first : Bool) (bs : Bytes) : Reading (List (String × Json)) :=
  match fuel, skipBlanks bs with
  | 0, _ | _, [] => .error .incomplete
  | fuel + 1, b :: rest =>
    if b = Text.byteOf '\x7d' then .ok ([], rest)
    else if first then member fuel depth b rest
    else if b = Text.byteOf ',' then
      match skipBlanks rest with
      | [] => .error .incomplete
      | c :: rest => member fuel depth c rest
    else .error .malformed

/-- A member of an object, which starts with the byte `b`, and those after it. -/
def member (fuel depth : Nat) (b : UInt8) (bs : Bytes) :
    Except JsonError (List (String × Json) × Bytes) :=
  match fuel with
  | 0 => .error .incomplete
  | fuel + 1 =>
    if b = Text.byteOf '"' then do
      let (name, rest) ← string bs
      let rest ← afterColon rest
      let (v, rest) ← value fuel depth rest
      let (ms, rest) ← members fuel depth false rest
      return ((name, v) :: ms, rest)
    else .error .malformed

end

/-- The value in bytes. -/
def read (bs : Bytes) : Except JsonError Json := do
  let (v, rest) ← value (3 * bs.length + 3) 0 bs
  if (skipBlanks rest).isEmpty then return v else throw .malformed

end HttpDispatch.Json
