/-!
# Writing texts of documents

A text is written between double quotes on one line if it can stand there as it is.  A text
with quotes or backslashes is written between single quotes if it can, then between three
quotes.  Everything else is written between double quotes with escapes, over several lines if
it has several.
-/

namespace HttpDispatch.Toml

/-- The length of the longest run of a character in a text, before which it has stood `run`
times. -/
def longestRun (q : Char) (run : Nat) : List Char → Nat
  | [] => run
  | c :: cs => if c = q then longestRun q (run + 1) cs else max run (longestRun q 0 cs)

/-- Whether a character cannot be written without an escape between any quotes. -/
def needsEscape (c : Char) : Bool := (c < ' ' && c != '\t' && c != '\n') || c = '\x7f'

/-- A text between quotes.  Before a text with several lines stands the end of a line, which
is not a part of it. -/
def enclose (quotes : String) (cs written : List Char) : List Char :=
  let start := if quotes.length = 3 ∧ cs.contains '\n' then ['\n'] else []
  quotes.toList ++ start ++ written ++ quotes.toList

/-- A character between double quotes, on one line or on several. -/
def escapeChar (multiline : Bool) (c : Char) : List Char :=
  let digits := (Nat.toDigits 16 c.toNat).map Char.toUpper
  if c = '\x08' then ['\\', 'b']
  else if c = '\t' then ['\\', 't']
  else if c = '\n' then if multiline then [c] else ['\\', 'n']
  else if c = '\x0c' then ['\\', 'f']
  else if c = '\r' then ['\\', 'r']
  else if c = '\\' then ['\\', '\\']
  else if needsEscape c then ['\\', 'u'] ++ List.replicate (4 - digits.length) '0' ++ digits
  else [c]

/-- A text between double quotes, on one line or on several; on one line every quote is
escaped, on several the third of a run, after which the run starts anew. -/
def escapeText (multiline : Bool) (run : Nat) : List Char → List Char
  | [] => []
  | c :: cs =>
    if c = '"' then
      if multiline ∧ run < 2 then '"' :: escapeText multiline (run + 1) cs
      else '\\' :: '"' :: escapeText multiline 0 cs
    else escapeChar multiline c ++ escapeText multiline 0 cs

/-- A text as it is written in a document. -/
def writeText (s : String) : String :=
  let cs := s.toList
  let single := longestRun '\'' 0 cs
  let double := longestRun '"' 0 cs
  let plain := ! cs.any needsEscape
  let unescaped := plain && ! cs.contains '\\'
  let multiline := cs.contains '\n'
  String.ofList <|
    if unescaped ∧ double = 0 ∧ ! multiline then enclose "\"" cs (escapeText false 0 cs)
    else if plain ∧ single = 0 ∧ ! multiline then enclose "'" cs cs
    else if unescaped ∧ double ≤ 2 then enclose "\"\"\"" cs (escapeText true 0 cs)
    else if plain ∧ single ≤ 2 then enclose "'''" cs cs
    else if multiline then enclose "\"\"\"" cs (escapeText true 0 cs)
    else enclose "\"" cs (escapeText false 0 cs)

end HttpDispatch.Toml
