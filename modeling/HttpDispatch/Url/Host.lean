import HttpDispatch.Text.Percent
import HttpDispatch.Url.International

/-!
# Hosts

The host of a URL is a domain name, an address of 32 bits or an address of 128 bits.  A
domain name whose last label is a number is read as an address.  Names are ASCII and are
lowered, and their international labels must spell what may stand in a name; a host of a
scheme without rules of its own is kept as it is written.
-/

namespace HttpDispatch.Url

open Text

/-- Why a text is not an absolute URL. -/
inductive Error where
  | emptyHost
  | domainName
  | domainCharacter
  | port
  | ipv4
  | ipv6
  /-- There is no scheme. -/
  | relative
  deriving DecidableEq, Repr

/-- The text of the error inside messages. -/
def Error.message : Error → String
  | .emptyHost => "empty host"
  | .domainName => "invalid international domain name"
  | .domainCharacter => "invalid domain character"
  | .port => "invalid port number"
  | .ipv4 => "invalid IPv4 address"
  | .ipv6 => "invalid IPv6 address"
  | .relative => "relative URL without a base"

/-- The host of a URL. -/
inductive Host where
  /-- A name; it is empty where a URL names no host. -/
  | domain (name : String)
  | ipv4 (address : UInt32)
  | ipv6 (pieces : List UInt16)
  deriving DecidableEq, Repr

/-- The bytes that are written in percent code everywhere: controls and all beyond ASCII. -/
def isControl (b : UInt8) : Bool := b < 0x20 || 0x7f ≤ b

/-- The text with its controls and the characters of `set` in percent code. -/
def encodeWith (set : String) (cs : List Char) : List Char :=
  (Percent.encodeBytes (fun b => ! isControl b && ! set.toList.contains (Char.ofNat b.toNat))
    (utf8 (String.ofList cs))).map fun b => Char.ofNat b.toNat

/-! ### Addresses of 32 bits -/

namespace Ipv4

/-- The value of a run of digits in a base, if it has only digits. -/
def digitsIn? (base : Nat) (cs : List Char) : Option Nat :=
  cs.foldlM (fun n c =>
    match hexValue? c with
    | some d => if d < base then some (n * base + d) else none
    | none => none) 0

/-- The number that a label denotes: hexadecimal after `0x`, octal after `0`. -/
def number? : List Char → Option Nat
  | [] => none
  | '0' :: 'x' :: cs | '0' :: 'X' :: cs => digitsIn? 16 cs
  | ['0'] => some 0
  | '0' :: cs => digitsIn? 8 cs
  | cs => digitsIn? 10 cs

/-- The labels of a name; a point at its end adds none. -/
def labels (cs : List Char) : List (List Char) :=
  let ls := cs.splitOn '.'
  if ls.getLast? = some [] then ls.dropLast else ls

/-- Whether the last label of a name is a number. -/
def endsInNumber (cs : List Char) : Bool :=
  match (labels cs).getLast? with
  | some l => (! l.isEmpty && l.all Char.isDigit) || (number? l).isSome
  | none => false

/-- The address that up to four numbers denote: all but the last are one byte each, and the
last fills the bytes that remain. -/
def ofNumbers? (ns : List Nat) : Option UInt32 :=
  match ns.getLast? with
  | none => none
  | some last =>
    let first := ns.dropLast
    if 4 < ns.length ∨ Nat.pow 256 (4 - first.length) ≤ last ∨ first.any (255 < ·) then none
    else
      let high := first.zipIdx.foldl (fun sum n => sum + n.1 * Nat.pow 256 (3 - n.2)) 0
      some (UInt32.ofNat (high + last))

/-- The address that a name denotes. -/
def read (cs : List Char) : Except Error UInt32 :=
  match ((labels cs).mapM number?).bind ofNumbers? with
  | some a => .ok a
  | none => .error .ipv4

/-- The four bytes in decimal, separated by points. -/
def text (a : UInt32) : String :=
  let n := a.toNat
  ".".intercalate ([n / 0x1000000, n / 0x10000 % 256, n / 256 % 256, n % 256].map toString)

end Ipv4

/-! ### Addresses of 128 bits -/

namespace Ipv6

/-- Up to `n` hexadecimal digits at the start of a text: their value, and the rest. -/
def takeHex : Nat → Nat → List Char → Nat × List Char
  | 0, v, cs => (v, cs)
  | _, v, [] => (v, [])
  | n + 1, v, c :: cs =>
    match hexValue? c with
    | some d => takeHex n (v * 16 + d) cs
    | none => (v, c :: cs)

/-- One decimal number below 256 without a leading zero. -/
def byte? (cs : List Char) : Option Nat :=
  match cs with
  | [] => none
  | ['0'] => some 0
  | '0' :: _ => none
  | cs =>
    match Ipv4.digitsIn? 10 cs with
    | some n => if n ≤ 255 then some n else none
    | none => none

/-- The two pieces that four numbers separated by points denote. -/
def embedded? (cs : List Char) : Option (List Nat) :=
  match (cs.splitOn '.').mapM byte? with
  | some [a, b, c, d] => some [a * 256 + b, c * 256 + d]
  | _ => none

theorem length_takeHex_le (n v : Nat) (cs : List Char) :
  (takeHex n v cs).2.length ≤ cs.length
  := by
  induction n generalizing v cs with
  | zero => simp [takeHex]
  | succ n ih =>
    cases cs with
    | nil => simp [takeHex]
    | cons c cs =>
      simp only [takeHex]
      split
      · exact Nat.le_succ_of_le (ih ..)
      · simp

/-- The pieces before and after the gap `::`, if there is one.  `pieces` are those read so
far in reverse, and `gap` is how many of them stand before the gap. -/
def pieces? (pieces : List Nat) (gap : Option Nat) (cs : List Char) :
    Option (List Nat × Option Nat) :=
  match cs with
  | [] => some (pieces, gap)
  | c :: rest =>
    if pieces.length + (if gap.isSome then 1 else 0) = 8 then none
    else if c = ':' then
      if gap.isSome then none else pieces? pieces (some pieces.length) rest
    else
      let read := takeHex 4 0 (c :: rest)
      if read.2.length = (c :: rest).length then none
      else
        match _h : read.2 with
        | [] => some (read.1 :: pieces, gap)
        | '.' :: _ =>
          if 6 < pieces.length + (if gap.isSome then 1 else 0) then none
          else (embedded? (c :: rest)).map fun ps => (ps.reverse ++ pieces, gap)
        | ':' :: more => if more.isEmpty then none else pieces? (read.1 :: pieces) gap more
        | _ => none
termination_by cs.length
decreasing_by
  · simp
  · have := length_takeHex_le 4 0 (c :: rest)
    have hr : (takeHex 4 0 (c :: rest)).2 = ':' :: more := ‹_›
    rw [hr] at this
    simp at this ⊢
    omega

/-- The eight pieces of an address. -/
def read (cs : List Char) : Except Error (List UInt16) :=
  let found :=
    match cs with
    | ':' :: ':' :: rest => pieces? [] (some 0) rest
    | ':' :: _ => none
    | _ => if cs.length < 2 then none else pieces? [] none cs
  match found with
  | none => .error .ipv6
  | some (reversed, none) =>
    if reversed.length = 8 then .ok (reversed.reverse.map Nat.toUInt16) else .error .ipv6
  | some (reversed, some gap) =>
    let ps := reversed.reverse
    let zeros := List.replicate (8 - ps.length) 0
    .ok ((ps.take gap ++ zeros ++ ps.drop gap).map Nat.toUInt16)

/-- The longest run of at least two zeros, the first of equally long ones: where it starts
and how long it is. -/
def longestZeros (ps : List UInt16) : Option (Nat × Nat) :=
  let runs := (List.range ps.length).map fun i => (i, ((ps.drop i).takeWhile (· == 0)).length)
  runs.foldl (fun best run =>
    let length := (best.map Prod.snd).getD 1
    if length < run.2 then some run else best) none

/-- The pieces in hexadecimal, separated by colons, the longest run of zeros left out. -/
def text (ps : List UInt16) : String :=
  let hex (ps : List UInt16) :=
    ":".intercalate (ps.map fun p => String.ofList (Nat.toDigits 16 p.toNat))
  match longestZeros ps with
  | none => hex ps
  | some (i, n) => hex (ps.take i) ++ "::" ++ hex (ps.drop (i + n))

end Ipv6

namespace Host

/-- The address inside brackets. -/
def readBracketed (cs : List Char) : Except Error Host :=
  if cs.getLast? = some ']' then (Ipv6.read (cs.drop 1).dropLast).map Host.ipv6
  else .error .ipv6

/-- Whether a character may stand in a domain name. -/
def isNameChar (c : Char) : Bool :=
  ' ' < c && c < '\x7f' && ! "%#/:<>?@[\\]^|".toList.contains c

/-- The host of a scheme that names hosts on the network. -/
def read (cs : List Char) : Except Error Host :=
  if cs.head? = some '[' then readBracketed cs
  else
    match Percent.decode (String.ofList cs) with
    | none => .error .domainName
    | some name =>
      let name := name.toList
      if ! name.all isNameChar then .error .domainName
      else
        let name := name.map Char.toLower
        if ! (name.splitOn '.').all International.isLabel then .error .domainName
        else if name.isEmpty then .error .emptyHost
        else if Ipv4.endsInNumber name then (Ipv4.read name).map Host.ipv4
        else .ok (.domain (String.ofList name))

/-- The host of any other scheme. -/
def readOpaque (cs : List Char) : Except Error Host :=
  if cs.head? = some '[' then readBracketed cs
  else if cs.any fun c => c = '\x00' ∨ "\t\n\r #/:<>?@[\\]^|".toList.contains c then
    .error .domainCharacter
  else .ok (.domain (String.ofList (encodeWith "" cs)))

/-- The host as it is written in a URL. -/
def text : Host → String
  | .domain name => name
  | .ipv4 a => Ipv4.text a
  | .ipv6 ps => "[" ++ Ipv6.text ps ++ "]"

end Host

end HttpDispatch.Url
