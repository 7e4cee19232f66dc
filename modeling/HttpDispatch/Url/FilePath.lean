import HttpDispatch.Url.Path

/-!
# Paths of files

The path of a file begins with one slash and keeps a drive letter after it.  Tabs and ends of
lines do not count, but for one thing: they part a drive letter from the text after it.
-/

namespace HttpDispatch.Url

open HttpDispatch.Url.Path (isBreak unbroken isDriveLetter isNormalDriveLetter encodeSegment)

/-- The path of a file. -/
structure FilePath where
  text : List Char
  /-- Whether the path starts with a drive letter, which takes the place of a host. -/
  hasDrive : Bool
  deriving DecidableEq, Repr

namespace FilePath

/-- Whether `c` separates segments. -/
def isSlash (c : Char) : Bool := c = '/' || c = '\\'

/-- The drive letter at the start of a segment and the text after it, if there is a break
between them. -/
def parted? (seg : List Char) : Option (List Char × List Char) :=
  match seg.dropWhile isBreak with
  | [] => none
  | c :: rest =>
    match rest.dropWhile isBreak with
    | [] => none
    | m :: rest =>
      let more := unbroken rest
      if isNormalDriveLetter [c, m] && rest.head?.any isBreak && ! more.isEmpty then
        some ([c, m], more)
      else none

/-- The path after one more segment.  A drive letter counts only after the first slash; there
a bar becomes a colon. -/
def addSegment (p : FilePath) (seg : List Char) (slash : Bool) : FilePath :=
  let added : FilePath := { p with text := Path.addSegment .file p.text (unbroken seg) slash }
  let ending := if slash then ['/'] else []
  if p.text ≠ ['/'] then added
  else
    match parted? seg with
    | some (drive, more) =>
      { p with text := '/' :: drive ++ '/' :: encodeSegment more ++ ending }
    | none =>
      if isDriveLetter (unbroken seg) then ⟨'/' :: (unbroken seg).take 1 ++ ':' :: ending, true⟩
      else added

/-- The path after the segments `segs`; only the last is not ended by a slash. -/
def addSegments (p : FilePath) : List (List Char) → FilePath
  | [] => p
  | [seg] => p.addSegment seg false
  | seg :: segs => (p.addSegment seg true).addSegments segs

/-- The path that continues `start` by the text `cs`.  It begins with one slash. -/
def read (start cs : List Char) : FilePath :=
  let p := (FilePath.mk start false).addSegments (cs.splitOnP isSlash)
  { p with text := '/' :: p.text.dropWhile (· = '/') }

end FilePath

end HttpDispatch.Url
