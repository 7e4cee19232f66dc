import HttpDispatch.Text.Blank
import HttpDispatch.Text.Bytes
import HttpDispatch.Text.Quoted
import HttpDispatch.Toml.Reader
import HttpDispatch.Toml.Writer

/-!
# Settings

The settings of a dispatcher are read from a document.  A setting that the document does not
name has its default, and names that are no settings are passed over.
-/

namespace HttpDispatch

/-- The settings of a dispatcher. -/
structure Config where
  /-- How many bytes are read from a reader at once. -/
  chunkSize : Nat
  /-- How many bytes a connection holds before it is closed. -/
  maxRequestSize : Nat
  /-- The header with the identifier of a request. -/
  requestIdHeader : String
  /-- The trailer with the length of a body sent in chunks. -/
  lengthTrailer : String
  /-- What stands before the path of every route. -/
  pathPrefix : String
  deriving DecidableEq, Repr

/-- Why a file gives no text. -/
inductive FileError where
  | notFound
  | isDirectory
  /-- The bytes of the file form no text. -/
  | notText
  deriving DecidableEq, Repr

/-- Why a document holds no settings. -/
inductive ConfigError where
  /-- The file with the document gives no text. -/
  | unreadable (error : FileError)
  /-- The text is not a document, or a setting in it has a value of the wrong type. -/
  | malformed
  /-- A setting has a value it cannot have. -/
  | invalid (reason : String)
  deriving DecidableEq, Repr

/-- The text of the error for a setting that has a value it cannot have. -/
def ConfigError.invalidMessage (reason : String) : String := "invalid config: " ++ reason

namespace Config

/-- The settings of an empty document. -/
def default : Config := ⟨8192, 8388608, "X-Request-ID", "X-Content-Length", ""⟩

/-- The size that a document sets under a name. -/
def readSize (entries : Toml.Entries) (name : String) (otherwise : Nat) :
    Except ConfigError Nat :=
  match entries.lookup name with
  | none => .ok otherwise
  | some (.integer (.ofNat n)) => .ok n
  | some _ => .error .malformed

/-- The text that a document sets under a name. -/
def readText (entries : Toml.Entries) (name otherwise : String) : Except ConfigError String :=
  match entries.lookup name with
  | none => .ok otherwise
  | some (.text s) => .ok s
  | some _ => .error .malformed

/-- The settings in the entries of a document. -/
def ofEntries (entries : Toml.Entries) : Except ConfigError Config := do
  return {
    chunkSize := ← readSize entries "chunk_size" default.chunkSize
    maxRequestSize := ← readSize entries "max_request_size" default.maxRequestSize
    requestIdHeader := ← readText entries "request_id_header" default.requestIdHeader
    lengthTrailer := ← readText entries "length_trailer" default.lengthTrailer
    pathPrefix := ← readText entries "path_prefix" default.pathPrefix }

/-- Whether a text has no character but blanks. -/
def isBlankText (s : String) : Bool := s.toList.all Text.isBlank

/-- The first setting that has a value it cannot have. -/
def fault? (c : Config) : Option String :=
  if c.chunkSize = 0 then some "chunk_size must be positive"
  else if isBlankText c.requestIdHeader then some "request_id_header must not be empty"
  else if isBlankText c.lengthTrailer then some "length_trailer must not be empty"
  else if c.pathPrefix ≠ "" ∧ c.pathPrefix.toList.head? ≠ some '/' then
    some ("path_prefix " ++ Text.quoted c.pathPrefix ++ " must start with \x60/\x60")
  else none

/-- The settings in a document. -/
def read (document : String) : Except ConfigError Config := do
  let some entries := Toml.read document | throw .malformed
  let c ← ofEntries entries
  match c.fault? with
  | some reason => throw (.invalid reason)
  | none => return c

/-- The settings in the document of a file, whose bytes are given unless it cannot be read. -/
def ofFile (file : Except FileError Bytes) : Except ConfigError Config := do
  let bytes ← file.mapError .unreadable
  match Text.ofUtf8? bytes with
  | some document => read document
  | none => throw (.unreadable .notText)

/-- The document with the settings. -/
def text (c : Config) : String :=
  "chunk_size = " ++ toString c.chunkSize
    ++ "\nmax_request_size = " ++ toString c.maxRequestSize
    ++ "\nrequest_id_header = " ++ Toml.writeText c.requestIdHeader
    ++ "\nlength_trailer = " ++ Toml.writeText c.lengthTrailer
    ++ "\npath_prefix = " ++ Toml.writeText c.pathPrefix ++ "\n"

/-- The settings inside messages. -/
def debugText (c : Config) : String :=
  "DispatchConfig \x7b chunk_size: " ++ toString c.chunkSize
    ++ ", max_request_size: " ++ toString c.maxRequestSize
    ++ ", request_id_header: " ++ Text.quoted c.requestIdHeader
    ++ ", length_trailer: " ++ Text.quoted c.lengthTrailer
    ++ ", path_prefix: " ++ Text.quoted c.pathPrefix ++ " \x7d"

end Config

end HttpDispatch
