import HttpDispatch.Toml.Scalar

/-!
# Reading documents

A document is read line by line into sections, and these into a table.  Every reader gives
what it has read and what follows it, or nothing if the text is not of its form.  Readers of
nested values are bounded by the length of the text, since each takes off a character before
it calls another.
-/

namespace HttpDispatch.Toml

/-- A text without the spaces and tabs at its start. -/
def skipSpace (cs : List Char) : List Char := cs.dropWhile fun c => c = ' ' ∨ c = '\t'

/-- The text after the end of a line. -/
def newline? : List Char → Option (List Char)
  | '\n' :: cs => some cs
  | '\r' :: '\n' :: cs => some cs
  | _ => none

/-- Whether a character may stand in a comment. -/
def isCommentChar (c : Char) : Bool := c = '\t' || (' ' ≤ c && c ≠ '\x7f')

/-- The text after a comment, if there is one. -/
def skipComment : List Char → List Char
  | '#' :: cs => cs.dropWhile isCommentChar
  | cs => cs

/-- The text after the end of a line, before which spaces and a comment may stand; the end of
the text ends a line too. -/
def lineEnd? (cs : List Char) : Option (List Char) :=
  match skipComment (skipSpace cs) with
  | [] => some []
  | cs => newline? cs

/-- The text after spaces, comments and ends of lines; `fuel` bounds their number. -/
def skipLines : Nat → List Char → List Char
  | 0, cs => cs
  | fuel + 1, cs =>
    let cs := skipComment (skipSpace cs)
    match newline? cs with
    | some cs => skipLines fuel cs
    | none => cs

/-! ### Texts -/

/-- Whether a character may stand between quotes as itself. -/
def isTextChar (c : Char) : Bool := c = '\t' || (' ' ≤ c && c ≠ '\x7f')

/-- The character that the digits of an escape denote. -/
def escapedChar? (n : Nat) (cs : List Char) : Option (Char × List Char) :=
  if (cs.take n).length = n ∧ (cs.take n).all (isDigitOf 16) then
    let code := digitsIn 16 (cs.take n)
    if code.isValidChar then some (Char.ofNat code, cs.drop n) else none
  else none

/-- The character that an escape denotes after its backslash. -/
def escape? : List Char → Option (Char × List Char)
  | [] => none
  | c :: cs =>
    match c with
    | 'b' => some ('\x08', cs)
    | 't' => some ('\t', cs)
    | 'n' => some ('\n', cs)
    | 'f' => some ('\x0c', cs)
    | 'r' => some ('\r', cs)
    | '"' => some ('"', cs)
    | '\\' => some ('\\', cs)
    | 'u' => escapedChar? 4 cs
    | 'U' => escapedChar? 8 cs
    | _ => none

/-- What follows a backslash at the end of a line: the text after all spaces and ends of lines
there. -/
def skipBreak? (cs : List Char) : Option (List Char) :=
  (newline? (skipSpace cs)).map fun cs =>
    let rec go : Nat → List Char → List Char
      | 0, cs => cs
      | fuel + 1, cs =>
        match newline? (skipSpace cs) with
        | some cs => go fuel cs
        | none => skipSpace cs
    go cs.length cs

/-- The text up to a double quote. -/
def basic? : Nat → List Char → Option (List Char × List Char)
  | 0, _ | _, [] => none
  | fuel + 1, c :: cs =>
    if c = '"' then some ([], cs)
    else if c = '\\' then do
      let (d, cs) ← escape? cs
      let (more, rest) ← basic? fuel cs
      some (d :: more, rest)
    else if isTextChar c then (basic? fuel cs).map fun r => (c :: r.1, r.2)
    else none

/-- The text up to a single quote. -/
def literal? : List Char → Option (List Char × List Char)
  | [] => none
  | c :: cs =>
    if c = '\'' then some ([], cs)
    else if isTextChar c then (literal? cs).map fun r => (c :: r.1, r.2)
    else none

/-- The text up to three quotes `q`, before which two more may stand; `escapes` says whether
a backslash starts an escape. -/
def long? (q : Char) (escapes : Bool) : Nat → List Char → Option (List Char × List Char)
  | 0, _ | _, [] => none
  | fuel + 1, c :: cs =>
    if c = q then
      let quotes := (cs.takeWhile (· = q)).length + 1
      if quotes < 3 then (long? q escapes fuel cs).map fun r => (c :: r.1, r.2)
      else if quotes ≤ 5 then some (List.replicate (quotes - 3) q, cs.drop (quotes - 1))
      else none
    else if c = '\\' ∧ escapes then
      match skipBreak? cs with
      | some cs => long? q escapes fuel cs
      | none => do
        let (d, cs) ← escape? cs
        let (more, rest) ← long? q escapes fuel cs
        some (d :: more, rest)
    else
      match newline? (c :: cs) with
      | some cs => (long? q escapes fuel cs).map fun r => ('\n' :: r.1, r.2)
      | none =>
        if isTextChar c then (long? q escapes fuel cs).map fun r => (c :: r.1, r.2) else none

/-- The text between quotes at the start. -/
def quoted? (cs : List Char) : Option (List Char × List Char) :=
  let long (q : Char) (escapes : Bool) (cs : List Char) :=
    let cs := (newline? cs).getD cs
    long? q escapes (cs.length + 1) cs
  match cs with
  | '"' :: '"' :: '"' :: cs => long '"' true cs
  | '\'' :: '\'' :: '\'' :: cs => long '\'' false cs
  | '"' :: cs => basic? (cs.length + 1) cs
  | '\'' :: cs => literal? cs
  | _ => none

/-! ### Names -/

/-- Whether a character may stand in a name without quotes. -/
def isNameChar (c : Char) : Bool := c.isAlphanum || c = '_' || c = '-'

/-- One name. -/
def name? (cs : List Char) : Option (String × List Char) :=
  match cs with
  | '"' :: rest => (basic? (rest.length + 1) rest).map fun r => (String.ofList r.1, r.2)
  | '\'' :: rest => (literal? rest).map fun r => (String.ofList r.1, r.2)
  | _ =>
    let (name, rest) := cs.span isNameChar
    if name.isEmpty then none else some (String.ofList name, rest)

/-- Names with points between them, at most `fuel` of them. -/
def names? : Nat → List Char → Option (List String × List Char)
  | 0, _ => none
  | fuel + 1, cs => do
    let (name, rest) ← name? (skipSpace cs)
    match skipSpace rest with
    | '.' :: rest =>
      let (names, rest) ← names? fuel rest
      some (name :: names, rest)
    | rest => some ([name], rest)

/-- The depth below which values and names nest. -/
def maxDepth : Nat := 80

/-- Names with points between them, each of which opens a table in the one before. -/
def path? (cs : List Char) : Option (List String × List Char) := names? (maxDepth - 1) cs

/-! ### Values -/

/-- Whether a character may stand in a number or a time. -/
def isScalarChar (c : Char) : Bool := c.isAlphanum || "+-_.:".toList.contains c

/-- Whether a time of day follows a space. -/
def startsClock : List Char → Bool
  | ' ' :: a :: b :: ':' :: _ => a.isDigit && b.isDigit
  | _ => false

/-- A number, a time or a truth value. -/
def bare? (cs : List Char) : Option (Toml × List Char) :=
  let (word, rest) := cs.span isScalarChar
  if word = "true".toList then some (.boolean true, rest)
  else if word = "false".toList then some (.boolean false, rest)
  else if afterDate? word = some [] ∧ startsClock rest then
    let (clock, rest) := (rest.drop 1).span isScalarChar
    if isClock clock then some (.time (String.ofList (word ++ 'T' :: clock)), rest) else none
  else (scalar? word).map fun v => (v, rest)

mutual

/-- A value at the given depth. -/
def value? (fuel depth : Nat) (cs : List Char) : Option (Toml × List Char) :=
  match fuel with
  | 0 => none
  | fuel + 1 =>
    match cs with
    | '"' :: _ | '\'' :: _ => (quoted? cs).map fun r => (.text (String.ofList r.1), r.2)
    | '[' :: cs =>
      if maxDepth ≤ depth + 1 then none
      else (items? fuel (depth + 1) cs).map fun r => (.list r.1, r.2)
    | '\x7b' :: cs =>
      if maxDepth ≤ depth + 1 then none
      else
        match skipSpace cs with
        | '\x7d' :: cs => some (.table .inline [], cs)
        | cs => do
          let (pairs, rest) ← pairs? fuel (depth + 1) cs
          let entries ← addPairs [] pairs
          some (.table .inline entries, rest)
    | _ => bare? cs

/-- The values up to a closing bracket. -/
def items? (fuel depth : Nat) (cs : List Char) : Option (List Toml × List Char) :=
  match fuel with
  | 0 => none
  | fuel + 1 =>
    match skipLines (cs.length + 1) cs with
    | ']' :: rest => some ([], rest)
    | cs => do
      let (v, rest) ← value? fuel depth cs
      match skipLines (rest.length + 1) rest with
      | ']' :: rest => some ([v], rest)
      | ',' :: rest =>
        let (vs, rest) ← items? fuel depth rest
        some (v :: vs, rest)
      | _ => none

/-- The names with values up to a closing brace. -/
def pairs? (fuel depth : Nat) (cs : List Char) :
    Option (List (List String × Toml) × List Char) :=
  match fuel with
  | 0 => none
  | fuel + 1 => do
    let (names, rest) ← path? cs
    match rest with
    | '=' :: rest =>
      let (v, rest) ← value? fuel depth (skipSpace rest)
      match skipSpace rest with
      | '\x7d' :: rest => some ([(names, v)], rest)
      | ',' :: rest =>
        let (pairs, rest) ← pairs? fuel depth rest
        some ((names, v) :: pairs, rest)
      | _ => none
    | _ => none

end

/-! ### Lines -/

/-- A name with its value, up to the end of the line. -/
def pairLine? (cs : List Char) : Option ((List String × Toml) × List Char) := do
  let (names, rest) ← path? cs
  let rest ← after? '=' rest
  let rest := skipSpace rest
  let (v, rest) ← value? (rest.length + 1) 0 rest
  some ((names, v), ← lineEnd? rest)

/-- A header, up to the end of the line. -/
def header? (cs : List Char) : Option ((List String × Bool) × List Char) := do
  match cs with
  | '[' :: '[' :: cs =>
    let (names, rest) ← path? cs
    let rest ← after? ']' rest
    let rest ← after? ']' rest
    some ((names, true), ← lineEnd? rest)
  | '[' :: cs =>
    let (names, rest) ← path? cs
    let rest ← after? ']' rest
    some ((names, false), ← lineEnd? rest)
  | _ => none

/-- The names with values up to the next header, and the sections from there on; `fuel` bounds
the number of lines. -/
def lines? : Nat → List Char → Option (List (List String × Toml) × List Section)
  | 0, _ => none
  | fuel + 1, cs =>
    match skipComment (skipSpace cs) with
    | [] => some ([], [])
    | c :: cs =>
      match newline? (c :: cs) with
      | some rest => lines? fuel rest
      | none =>
        if c = '[' then do
          let (header, rest) ← header? (c :: cs)
          let (pairs, sections) ← lines? fuel rest
          some ([], ⟨header.1, header.2, pairs⟩ :: sections)
        else do
          let (pair, rest) ← pairLine? (c :: cs)
          let (pairs, sections) ← lines? fuel rest
          some (pair :: pairs, sections)

/-- The entries of a document. -/
def read (text : String) : Option Entries := do
  let cs :=
    match text.toList with
    | '\ufeff' :: cs => cs
    | cs => cs
  let (pairs, sections) ← lines? (cs.length + 1) cs
  let root ← addPairs [] pairs
  sections.foldlM addSection root

end HttpDispatch.Toml
