import HttpDispatch.Text.Bytes

/-!
# Percent coding

A byte is written as `%` and two hexadecimal digits.  `encodeBytes keep` writes every byte
so that `keep` refuses, in upper-case digits; `decodeBytes` reads such triples in either
case and leaves a `%` that starts none as it is.  `encode` and `decode` work on texts
through their UTF-8 bytes, so decoding fails where the bytes form no text.
-/

namespace HttpDispatch.Text

/-- The value of a hexadecimal digit. -/
def hexValue? (c : Char) : Option Nat :=
  if '0' ≤ c ∧ c ≤ '9' then some (c.toNat - '0'.toNat)
  else if 'a' ≤ c ∧ c ≤ 'f' then some (c.toNat - 'a'.toNat + 10)
  else if 'A' ≤ c ∧ c ≤ 'F' then some (c.toNat - 'A'.toNat + 10)
  else none

/-- The value of a byte that is a hexadecimal digit. -/
def hexByte? (b : UInt8) : Option UInt8 :=
  (hexValue? (Char.ofNat b.toNat)).map Nat.toUInt8

/-- The upper-case hexadecimal digit of a number below sixteen. -/
def hexDigit (n : UInt8) : UInt8 :=
  if n < 10 then byteOf '0' + n else byteOf 'A' + (n - 10)

namespace Percent

/-- Every byte that `keep` refuses written as `%` and its two digits. -/
def encodeBytes (keep : UInt8 → Bool) (bs : Bytes) : Bytes :=
  bs.flatMap fun b =>
    if keep b then [b] else [byteOf '%', hexDigit (b / 16), hexDigit (b % 16)]

/-- Every `%` with two hexadecimal digits replaced by the byte that it stands for. -/
def decodeBytes : Bytes → Bytes
  | [] => []
  | b :: bs =>
    if b = byteOf '%' then
      match bs with
      | h :: l :: rest =>
        match hexByte? h, hexByte? l with
        | some x, some y => (x * 16 + y) :: decodeBytes rest
        | _, _ => b :: decodeBytes (h :: l :: rest)
      | rest => b :: decodeBytes rest
    else b :: decodeBytes bs

/-- The bytes that stand for themselves in any part of a URL. -/
def isUnreserved (b : UInt8) : Bool :=
  isWordByte b || b = byteOf '-' || b = byteOf '_' || b = byteOf '.' || b = byteOf '~'

/-- The text as one piece of a path or of a query. -/
def encode (s : String) : String :=
  String.ofList ((encodeBytes isUnreserved (utf8 s)).map fun b => Char.ofNat b.toNat)

/-- The text that a piece of a path stands for, unless its bytes form no text. -/
def decode (s : String) : Option String := ofUtf8? (decodeBytes (utf8 s))

end Percent

end HttpDispatch.Text
