import HttpDispatch.Url.Host

/-!
# Absolute URLs

A URL has a scheme, perhaps an authority (credentials, host and port), a path, and perhaps a
query and a fragment.  Its parts hold their text as it is written, so `Url.text` only puts
them together.
-/

namespace HttpDispatch

namespace Url

/-- The part of a URL between `//` and its path. -/
structure Authority where
  /-- The credentials with the `@` that ends them, or nothing. -/
  credentials : String
  host : Host
  port : Option Nat
  deriving DecidableEq, Repr

/-- The authority as it is written in a URL. -/
def Authority.text (a : Authority) : String :=
  a.credentials ++ a.host.text ++
    match a.port with
    | some p => ":" ++ toString p
    | none => ""

end Url

/-- An absolute URL. -/
structure Url where
  scheme : String
  authority : Option Url.Authority
  path : String
  query : Option String
  fragment : Option String
  deriving DecidableEq, Repr

namespace Url

/-- The URL as a text.  Without an authority a path that begins with `//` is written after
`/.`, since it would read as one. -/
def text (u : Url) : String :=
  let start :=
    match u.authority with
    | some a => "//" ++ a.text
    | none => if "//".toList.isPrefixOf u.path.toList then "/." else ""
  let after (mark : String) : Option String → String
    | some s => mark ++ s
    | none => ""
  u.scheme ++ ":" ++ start ++ u.path ++ after "?" u.query ++ after "#" u.fragment

end Url

end HttpDispatch
