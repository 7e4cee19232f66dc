import HttpDispatch.Number.Integer
import HttpDispatch.Url.Host

/-!
# Addresses of servers

A server listens at an address: a host, and a port after the last colon.  The host is written
in numbers or is the name of the machine itself.  There is no network: names of other machines
are not resolved, and of the addresses of 128 bits only those without a place of their own can
be listened at.
-/

namespace HttpDispatch

/-- An address at which a server listens. -/
structure Address where
  host : Url.Host
  port : Nat
  deriving DecidableEq, Repr

/-- Why a server cannot listen at an address. -/
inductive ListenError where
  /-- There is no colon. -/
  | noPort
  /-- What follows the last colon is no port. -/
  | invalidPort
  /-- A NUL character stands before the last colon. -/
  | nulCharacter
  /-- What stands before the last colon is neither in numbers nor a name. -/
  | noName
  /-- What stands before the last colon is the name of another machine. -/
  | unresolved
  /-- The host is for use within one link, and none is given. -/
  | noLink
  /-- The host is elsewhere. -/
  | remoteHost
  deriving DecidableEq, Repr

/-- The reason inside the text of the error. -/
def ListenError.reason : ListenError → String
  | .noPort => "invalid socket address"
  | .invalidPort => "invalid port value"
  | .nulCharacter => "file name contained an unexpected NUL byte"
  | .noName => "failed to lookup address information: Name or service not known"
  | .unresolved => "failed to lookup address information: Temporary failure in name resolution"
  | .noLink => "Invalid argument (os error 22)"
  | .remoteHost => "Cannot assign requested address (os error 99)"

/-- The text of the error for an address. -/
def ListenError.message (address : String) (e : ListenError) : String :=
  "failed to bind to " ++ address ++ ": " ++ e.reason

namespace Address

/-- The number between two points of an address, which has at least one digit in its base. -/
def part? (cs : List Char) : Option Nat :=
  if cs = ['0', 'x'] ∨ cs = ['0', 'X'] then none else Url.Ipv4.number? cs

/-- The host that is written in numbers: up to four separated by points, or an address of 128
bits. -/
def ofNumbers? (cs : List Char) : Option Url.Host :=
  if cs.contains ':' then (Url.Ipv6.read cs).toOption.map .ipv6
  else (((cs.splitOn '.').mapM part?).bind Url.Ipv4.ofNumbers?).map .ipv4

/-- Whether a text is a name: labels of letters, digits, hyphens and underscores, after the
last of which a point may stand. -/
def isName (cs : List Char) : Bool :=
  let labels := Url.Ipv4.labels cs
  let isLabel (l : List Char) : Bool :=
    ! l.isEmpty && l.length ≤ 63 && l.all fun c => c.isAlphanum || c = '-' || c = '_'
  cs.head?.any (· != '-') && labels.all isLabel && labels.foldl (fun n l => n + l.length + 1) 0 < 255

/-- The host before the last colon. -/
def readHost (cs : List Char) : Except ListenError Url.Host :=
  if cs.contains '\x00' then .error .nulCharacter
  else
    match ofNumbers? cs with
    | some host => .ok host
    | none =>
      if cs.map Char.toLower = "localhost".toList then .ok (.ipv4 (127 * 0x1000000 + 1))
      else if isName cs then .error .unresolved
      else .error .noName

/-- The address of 128 bits in brackets.  Its port has digits alone. -/
def bracketed? (host port : List Char) : Option Url.Host :=
  if host.head? = some '[' ∧ port.all Char.isDigit then (Url.Host.readBracketed host).toOption
  else none

/-- Whether an address of 128 bits stands for one of 32 bits. -/
def isMapped (ps : List UInt16) : Bool :=
  (ps.take 5).all (· == 0) && ps[5]? == some 0xffff

/-- Why a server cannot listen at a host.  Every address of 32 bits will do, and the one that
stands for all. -/
def obstacle? : Url.Host → Option ListenError
  | .ipv6 ps =>
    if isMapped ps ∨ ps.all (· == 0) then none
    else if ps.head?.any fun p => p / 64 == 0xfe80 / 64 || 0xff00 ≤ p then some .noLink
    else some .remoteHost
  | _ => none

/-- The address in a text. -/
def read (s : String) : Except ListenError Address := do
  let (port, rest) := s.toList.reverse.span (· ≠ ':')
  let port := port.reverse
  match rest with
  | [] => throw .noPort
  | _ :: host =>
    let host := host.reverse
    match IntegerFormat.read ⟨false, 16⟩ (String.ofList port) with
    | .error _ => throw .invalidPort
    | .ok n =>
      let host ←
        match bracketed? host port with
        | some host => pure host
        | none => readHost host
      match obstacle? host with
      | some e => throw e
      | none => return ⟨host, n.toNat⟩

/-- The host without its port. -/
def hostText (a : Address) : String :=
  match a.host with
  | .ipv6 ps =>
    match isMapped ps, ps.drop 6 with
    | true, [high, low] => "::ffff:" ++ Url.Ipv4.text (high.toUInt32 * 0x10000 + low.toUInt32)
    | _, _ => Url.Ipv6.text ps
  | host => host.text

end Address

end HttpDispatch
