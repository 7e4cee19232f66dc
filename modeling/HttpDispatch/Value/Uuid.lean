import HttpDispatch.Text.Percent

/-!
# Universally unique identifiers

An identifier of 128 bits.  It is written as 32 lower-case hexadecimal digits in five groups
separated by hyphens, and read with or without the hyphens, in either case; the form with
hyphens may stand in braces or in a URN.  `Uuid.diagnose` finds what is wrong with a text that
is not read.
-/

namespace HttpDispatch

/-- An identifier of 128 bits. -/
structure Uuid where
  value : BitVec 128
  deriving DecidableEq, Repr

/-- Why a text is not an identifier. -/
inductive UuidError where
  /-- A character that is no hexadecimal digit, with its place in bytes. -/
  | character (c : Char) (index : Nat)
  /-- A text without hyphens does not have 32 digits. -/
  | length (found : Nat)
  /-- There are not five groups. -/
  | groupCount (found : Nat)
  /-- A group does not have as many digits as it should. -/
  | groupLength (group expected found : Nat)
  deriving DecidableEq, Repr

/-- The text of the error inside messages. -/
def UuidError.message : UuidError → String
  | .character c i => s!"invalid character: found `{c}` at {i}"
  | .length n => s!"invalid length: found {n}"
  | .groupCount n => s!"invalid group count: expected 5, found {n}"
  | .groupLength g e n => s!"invalid group length in group {g}: expected {e}, found {n}"

namespace Uuid

open Text

/-- The number of digits in each group. -/
def groupLengths : List Nat := [8, 4, 4, 4, 12]

/-- The lower-case hexadecimal digit of a number below sixteen. -/
def lowerDigit (n : Nat) : Char :=
  if n < 10 then Char.ofNat ('0'.toNat + n) else Char.ofNat ('a'.toNat + (n - 10))

/-- The last `n` hexadecimal digits of `v`. -/
def digits : Nat → Nat → List Char
  | 0, _ => []
  | n + 1, v => digits n (v / 16) ++ [lowerDigit (v % 16)]

/-- The digits `ds` cut into groups of the lengths `ns`. -/
def groups : List Nat → List Char → List (List Char)
  | [], _ => []
  | n :: ns, ds => ds.take n :: groups ns (ds.drop n)

/-- The hyphenated lower-case form. -/
def text (u : Uuid) : String :=
  String.ofList (['-'].intercalate (groups groupLengths (digits 32 u.value.toNat)))

/-- The identifier of version 4 with the number `n` in its last 62 bits and zeros before. -/
def version4 (n : Nat) : Uuid := ⟨BitVec.ofNat 128 (4 * Nat.pow 16 19 + Nat.pow 2 63 + n % Nat.pow 2 62)⟩

/-- Whether the identifier is of version 4 and of the common variant. -/
def isVersion4 (u : Uuid) : Bool :=
  u.value.toNat / Nat.pow 16 19 % 16 = 4 && u.value.toNat / Nat.pow 2 62 % 4 = 2

/-- The number with the given hexadecimal digits, if all are digits. -/
def hexNumber? (cs : List Char) : Option Nat :=
  cs.foldlM (fun n c => (hexValue? c).map (n * 16 + ·)) 0

/-- The identifier with 32 digits, without hyphens. -/
def ofSimple? (cs : List Char) : Option Uuid :=
  if cs.length = 32 then (hexNumber? cs).map fun n => ⟨BitVec.ofNat 128 n⟩ else none

/-- The identifier with five groups of digits. -/
def ofHyphenated? (cs : List Char) : Option Uuid :=
  let gs := cs.splitOn '-'
  if gs.map List.length = groupLengths then ofSimple? gs.flatten else none

/-- The text inside a pair of braces. -/
def inBraces? (cs : List Char) : Option (List Char) :=
  if cs.head? = some '\x7b' ∧ cs.getLast? = some '\x7d' ∧ 2 ≤ cs.length then
    some (cs.tail.dropLast)
  else none

/-- The beginning of a URN that names an identifier. -/
def urnStart : List Char := "urn:uuid:".toList

/-- The text after the beginning of a URN, whose letters may be of either case. -/
def afterUrn? (cs : List Char) : Option (List Char) :=
  if (cs.take urnStart.length).map Char.toLower = urnStart then some (cs.drop urnStart.length)
  else none

/-- The first character that is neither a digit nor a hyphen, with its place counted in bytes
from `index`. -/
def foreign? (index : Nat) : List Char → Option (Char × Nat)
  | [] => none
  | c :: cs =>
    if c = '-' ∨ (hexValue? c).isSome then foreign? (index + c.utf8Size) cs else some (c, index)

/-- The first of the groups with a length other than the one it should have; the last group
is measured together with what encloses the identifier. -/
def wrongGroup (total : Nat) (gs : List (List Char)) : UuidError :=
  let measured := (gs.map List.length).dropLast ++ [total - 24]
  let wrong := (measured.zip groupLengths).zipIdx.find? fun g => g.1.1 ≠ g.1.2
  match wrong with
  | some ((found, expected), i) => .groupLength i expected found
  | none => .groupLength 4 12 (total - 24)

/-- What is wrong with `body`, which stands `offset` bytes after the beginning of a text of
`total` bytes; only where a `bare` text is allowed may it do without hyphens. -/
def diagnoseBody (bare : Bool) (offset total : Nat) (body : List Char) : UuidError :=
  match foreign? offset body with
  | some (c, i) => .character c i
  | none =>
    let gs := body.splitOn '-'
    if gs.length = 1 ∧ bare then .length total
    else if gs.length ≠ 5 then .groupCount gs.length
    else wrongGroup total gs

/-- What is wrong with a text that is not an identifier; what encloses it is left out. -/
def diagnose (cs : List Char) : UuidError :=
  let total := byteLength cs
  match inBraces? cs, afterUrn? cs with
  | some body, _ => diagnoseBody false 1 total body
  | none, some body => diagnoseBody false urnStart.length total body
  | none, none => diagnoseBody true 0 total cs

/-- The identifier with five groups that fills `cs`.  The groups are looked for in all of
`cs`, so braces in it are foreign. -/
def readHyphenated (cs : List Char) : Except UuidError Uuid :=
  match ofHyphenated? cs with
  | some u => .ok u
  | none => .error (diagnoseBody false 0 (byteLength cs) cs)

/-- The identifier without hyphens that fills `cs`. -/
def readSimple (cs : List Char) : Except UuidError Uuid :=
  match ofSimple? cs with
  | some u => .ok u
  | none => .error (diagnose cs)

/-- The longest text that can denote an identifier, in bytes. -/
def maxBytes : Nat := urnStart.length + 36

/-- The identifier that a text denotes.  The number of its bytes decides in which form
it is read. -/
def read (s : String) : Except UuidError Uuid :=
  let cs := s.toList
  let total := byteLength cs
  if maxBytes < total then .error (.length total)
  else if total = 32 then readSimple cs
  else if total = 36 then readHyphenated cs
  else
    match inBraces? cs, afterUrn? cs with
    | some body, _ => if total = 38 then readHyphenated body else .error (diagnose cs)
    | none, some body => if total = 45 then readHyphenated body else .error (diagnose cs)
    | none, none => .error (diagnose cs)

end Uuid

end HttpDispatch
