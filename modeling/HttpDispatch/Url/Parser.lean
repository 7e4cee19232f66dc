import HttpDispatch.Url.Basic
import HttpDispatch.Url.FilePath

/-!
# Reading URLs

`Url.read` reads an absolute URL.  Blanks and controls at the ends of the text, and tabs and
ends of lines anywhere, do not count.  Only the path of a file takes notice of them.
-/

namespace HttpDispatch.Url

open HttpDispatch.Url.Path (SchemeKind isBreak unbroken)

/-- The text without blanks and controls at its ends. -/
def trimmed (s : String) : List Char :=
  let blank (c : Char) : Bool := c ≤ ' '
  ((s.toList.dropWhile blank).reverse.dropWhile blank).reverse

/-- Whether a character may stand in a scheme. -/
def isSchemeChar (c : Char) : Bool := c.isAlphanum || c = '+' || c = '-' || c = '.'

/-- The scheme in lower case, and what follows its colon. -/
def takeScheme (cs : List Char) : Option (String × List Char) :=
  let (scheme, rest) := cs.span fun c => isSchemeChar c || isBreak c
  match unbroken scheme, rest with
  | c :: more, ':' :: rest =>
    if c.isAlpha then some (String.ofList ((c :: more).map Char.toLower), rest) else none
  | _, _ => none

/-- Whether `c` ends the authority. -/
def endsAuthority (kind : SchemeKind) (c : Char) : Bool :=
  c = '/' || c = '?' || c = '#' || (kind.isSpecial && c = '\\')

/-- What stands before the last `@` of an authority, and what follows it. -/
def splitCredentials (kind : SchemeKind) (cs : List Char) : Option (List Char × List Char) :=
  let authority := cs.takeWhile (! endsAuthority kind ·)
  if authority.contains '@' then
    let host := (authority.reverse.takeWhile (· != '@')).reverse
    let n := authority.length - host.length
    some (cs.take (n - 1), cs.drop n)
  else none

/-- The credentials as they are written: the name, a colon and the password if there is one,
and an `@` unless both are empty. -/
def credentialsText (cs : List Char) : String :=
  let encode := encodeWith " \"<>\x60#?\x7b\x7d/:;=@[\\]^|"
  let (name, rest) := cs.span (· ≠ ':')
  let name := encode name
  let password := encode (rest.drop 1)
  let written := name ++ if password.isEmpty then [] else ':' :: password
  String.ofList (if written.isEmpty then [] else written ++ ['@'])

/-- Where the text of a host ends: at a colon outside brackets, or with the authority. -/
def takeHost (kind : SchemeKind) (bracketed : Bool) : List Char → List Char × List Char
  | [] => ([], [])
  | c :: cs =>
    if (c = ':' && ! bracketed) || endsAuthority kind c then ([], c :: cs)
    else
      let (host, rest) := takeHost kind (if c = '[' then true else bracketed && c != ']') cs
      (c :: host, rest)

/-- The port after a colon, unless it is the one that the scheme uses anyway. -/
def takePort (scheme : String) (cs : List Char) : Except Error (Option Nat × List Char) :=
  let (digits, rest) := cs.span Char.isDigit
  let port := digits.foldl (fun n c => n * 10 + (c.toNat - '0'.toNat)) 0
  let stops :=
    match rest with
    | [] => true
    | c :: _ => "/\\?#".toList.contains c
  if 65535 < port ∨ ! stops then .error .port
  else if digits.isEmpty ∨ Path.defaultPort? scheme = some port then .ok (none, rest)
  else .ok (some port, rest)

/-- The authority that follows `//`, and what follows it. -/
def takeAuthority (scheme : String) (kind : SchemeKind) (cs : List Char) :
    Except Error (Authority × List Char) := do
  let (credentials, cs) ←
    match splitCredentials kind cs with
    | none => pure ("", cs)
    | some (before, rest) =>
      if before.isEmpty ∧ (rest.head?.map (endsAuthority kind)).getD false then
        throw Error.emptyHost
      else pure (credentialsText before, rest)
  let (hostText, rest) := takeHost kind false cs
  if kind = .network ∧ hostText.isEmpty then throw Error.emptyHost
  let host ← if kind = .network then Host.read hostText else Host.readOpaque hostText
  if hostText.isEmpty ∧ (rest.head? = some ':' ∨ credentials ≠ "") then throw Error.emptyHost
  match rest with
  | ':' :: rest =>
    let (port, rest) ← takePort scheme rest
    return (⟨credentials, host, port⟩, rest)
  | _ => return (⟨credentials, host, none⟩, rest)

/-- Whether `c` ends a path. -/
def endsPath (c : Char) : Bool := c = '?' || c = '#'

/-- The URL with the query and the fragment that `rest` holds. -/
def withQuery (kind : SchemeKind) (scheme : String) (authority : Option Authority)
    (path rest : List Char) : Url :=
  let querySet := if kind.isSpecial then " \"#<>'" else " \"#<>"
  let (queryText, rest) := rest.span (· ≠ '#')
  { scheme, authority
    path := String.ofList path
    query :=
      match queryText with
      | [] => none
      | _ :: cs => some (String.ofList (encodeWith querySet cs))
    fragment :=
      match rest with
      | [] => none
      | _ :: cs => some (String.ofList (encodeWith " \"<>\x60" cs)) }

/-- The path that follows an authority, and what follows it.  A scheme with rules of its own
has a path that is never empty. -/
def takePath (kind : SchemeKind) (cs : List Char) : List Char × List Char :=
  let (text, rest) := cs.span (! endsPath ·)
  let path :=
    match text with
    | [] => if kind.isSpecial then ['/'] else []
    | c :: more =>
      if c = '/' ∨ (kind.isSpecial ∧ c = '\\') then Path.extend kind ['/'] more
      else Path.extend kind ['/'] text
  (path, rest)

/-- The URL of a file with a host.  Its path continues `start`, and `cs` is what follows. -/
def fileUrl (host : Host) (start cs : List Char) : Url :=
  let (text, rest) := cs.span (! endsPath ·)
  let path := FilePath.read start text
  let host := if path.hasDrive then .domain "" else host
  withQuery .file "file" (some ⟨"", host, none⟩) path.text (unbroken rest)

/-- The URL of a file after two slashes.  A drive letter is no host, and the machine itself
needs none. -/
def readFileHost (cs : List Char) : Except Error Url := do
  let (hostText, rest) := cs.span fun c => ! (FilePath.isSlash c || endsPath c)
  let hostText := unbroken hostText
  if Path.isDriveLetter hostText then return fileUrl (.domain "") ['/'] cs
  else if hostText.isEmpty then return fileUrl (.domain "") ['/'] rest
  else
    let host ← Host.read hostText
    if host = .domain "localhost" then return fileUrl (.domain "") ['/'] rest
    else return fileUrl host ['/'] (rest.drop (if rest.head?.any FilePath.isSlash then 1 else 0))

/-- The URL of a file after its colon. -/
def readFile (cs : List Char) : Except Error Url :=
  match cs.dropWhile isBreak with
  | a :: rest =>
    if FilePath.isSlash a then
      match rest.dropWhile isBreak with
      | b :: more =>
        if FilePath.isSlash b then readFileHost more else .ok (fileUrl (.domain "") [] cs)
      | [] => .ok (fileUrl (.domain "") [] cs)
    else .ok (fileUrl (.domain "") ['/'] cs)
  | [] => .ok (fileUrl (.domain "") ['/'] cs)

/-- The absolute URL that a text denotes. -/
def read (s : String) : Except Error Url := do
  match takeScheme (trimmed s) with
  | none => throw .relative
  | some (scheme, after) =>
    let kind := SchemeKind.ofScheme scheme
    match kind, unbroken after with
    | .file, _ => readFile after
    | .network, cs =>
      let (authority, rest) ← takeAuthority scheme kind (cs.dropWhile FilePath.isSlash)
      let (path, rest) := takePath kind rest
      return withQuery kind scheme (some authority) path rest
    | .other, '/' :: '/' :: cs =>
      let (authority, rest) ← takeAuthority scheme kind cs
      let (path, rest) := takePath kind rest
      return withQuery kind scheme (some authority) path rest
    | .other, '/' :: cs =>
      let (text, rest) := cs.span (! endsPath ·)
      return withQuery kind scheme none (Path.extend kind ['/'] text) rest
    | .other, cs =>
      let (text, rest) := cs.span (! endsPath ·)
      return withQuery kind scheme none (encodeWith "" text) rest

end HttpDispatch.Url
