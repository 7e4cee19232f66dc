import HttpDispatch.Url.Host

/-!
# Paths of URLs

A path is built segment by segment from the text after a host: `.` adds nothing, `..` takes
the last segment away, and any other segment is added in percent code.
-/

namespace HttpDispatch.Url.Path

/-- The rules that a scheme follows. -/
inductive SchemeKind where
  /-- A local file. -/
  | file
  /-- A scheme whose URLs always name a host. -/
  | network
  /-- Any other scheme. -/
  | other
  deriving DecidableEq, Repr

namespace SchemeKind

/-- The rules for a scheme. -/
def ofScheme (scheme : String) : SchemeKind :=
  if scheme = "file" then .file
  else if ["http", "https", "ws", "wss", "ftp"].contains scheme then .network
  else .other

/-- Whether a backslash separates like a slash. -/
def isSpecial (k : SchemeKind) : Bool := k != .other

end SchemeKind

/-- A tab or the end of a line. -/
def isBreak (c : Char) : Bool := c = '\t' || c = '\n' || c = '\r'

/-- The text without tabs and ends of lines. -/
def unbroken (cs : List Char) : List Char := cs.filter (! isBreak ·)

/-- The port that a scheme uses when none is given. -/
def defaultPort? (scheme : String) : Option Nat :=
  match scheme with
  | "http" | "ws" => some 80
  | "https" | "wss" => some 443
  | "ftp" => some 21
  | _ => none

/-- A letter and a colon or bar. -/
def isDriveLetter : List Char → Bool
  | [c, m] => c.isAlpha && (m = ':' || m = '|')
  | _ => false

/-- A letter and a colon. -/
def isNormalDriveLetter : List Char → Bool
  | [c, m] => c.isAlpha && m = ':'
  | _ => false

/-- Whether a text begins with a drive letter that ends there or before a separator. -/
def startsWithDriveLetter : List Char → Bool
  | [c, m] => isDriveLetter [c, m]
  | c :: m :: e :: _ => isDriveLetter [c, m] && "/\\?#".toList.contains e
  | _ => false

/-- The part of a path up to its last slash, and what follows. -/
def splitLast (path : List Char) : List Char × List Char :=
  let after := (path.reverse.takeWhile (· != '/')).reverse
  (path.take (path.length - after.length), after)

/-- Whether a segment stands for the directory itself. -/
def isSingleDot (seg : List Char) : Bool :=
  [".", "%2e"].contains (String.ofList (seg.map Char.toLower))

/-- Whether a segment stands for the directory above. -/
def isDoubleDot (seg : List Char) : Bool :=
  ["..", "%2e%2e", "%2e.", ".%2e"].contains (String.ofList (seg.map Char.toLower))

/-- The path without its last slash, unless it is the first one or follows a drive letter. -/
def dropLastSlash (path : List Char) : List Char :=
  if path.getLast? = some '/' then
    let (before, drive) := splitLast path.dropLast
    if before.isEmpty ∨ startsWithDriveLetter (drive ++ ['/']) then path else path.dropLast
  else path

/-- The path without its last segment; a drive letter stays. -/
def shorten (kind : SchemeKind) (path : List Char) : List Char :=
  if kind = .file ∧ isNormalDriveLetter path then path
  else
    let (before, last) := splitLast path
    if kind = .file ∧ isNormalDriveLetter last then path else before

/-- The text of a segment in percent code. -/
def encodeSegment (seg : List Char) : List Char := encodeWith " \"<>\x60#?\x7b\x7d" seg

/-- The path after one more segment; `slash` says whether a slash ends the segment. -/
def addSegment (kind : SchemeKind) (path seg : List Char) (slash : Bool) : List Char :=
  let seg := encodeSegment seg
  if isDoubleDot seg then
    let path := shorten kind (dropLastSlash path)
    if slash ∧ path.getLast? ≠ some '/' then path ++ ['/'] else path
  else if isSingleDot seg then
    if path.getLast? = some '/' then path else path ++ ['/']
  else path ++ seg ++ (if slash then ['/'] else [])

/-- The path after the segments `segs`; only the last is not ended by a slash. -/
def addSegments (kind : SchemeKind) (path : List Char) : List (List Char) → List Char
  | [] => path
  | [seg] => addSegment kind path seg false
  | seg :: segs => addSegments kind (addSegment kind path seg true) segs

/-- The path that continues `path` by the text `cs`. -/
def extend (kind : SchemeKind) (path cs : List Char) : List Char :=
  addSegments kind path (cs.splitOnP fun c => c = '/' ∨ (kind.isSpecial ∧ c = '\\'))

end HttpDispatch.Url.Path
