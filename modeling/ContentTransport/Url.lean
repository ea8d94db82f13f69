import ContentTransport.Url.Split
/-!
# Url — where a request goes and what it asks for

A request URL gives an origin, which says what stream to open, and a target, which the request names.  The value of the
Host field is written from the origin and leaves out the port that the scheme implies.
-/
namespace Transport

/-- What a stream is opened to; a stream serves requests of its own origin only. -/
structure Origin where
  scheme : String
  host : String
  port : Nat
  deriving DecidableEq, Repr

/-- A parsed request URL. -/
structure Url where
  origin : Origin
  target : String
  deriving DecidableEq, Repr

namespace Url

/-- The port that a scheme implies. -/
def defaultPort? (scheme : String) : Option Nat :=
  if scheme == "http" then some 80 else if scheme == "https" then some 443 else none

/-- The host of an authority in lower case; a zone keeps its case. -/
def hostOf (authority : List Char) : List Char :=
  let host := (HostPort.ofAuthority authority).host
  match partition '%' host with
  | (name, none) => Text.lower name
  | (name, some zone) => Text.lower name ++ '%' :: zone

/-- The text of the port, empty if none is written. -/
def portText (authority : List Char) : List Char :=
  let h := HostPort.ofAuthority authority
  if h.bracketed then (partition ':' h.after).2.getD [] else h.after

/-- The port that an authority writes, if it writes one. -/
def portOf? (authority : List Char) : Except UrlFault (Option Nat) :=
  match portText authority with
  | [] => .ok none
  | digits =>
    if !digits.all Char.isDigit then .error (.portText (String.ofList digits))
    else if digits.length > 4300 then .error (.portDigits digits.length)
    else if numberOf digits > 65535 then .error .portRange
    else .ok (some (numberOf digits))

/-- A request URL needs a scheme and a host.  A port that is not written is the one that the scheme implies, or zero;
the target is the path, or a slash, with the query if there is one. -/
def parse (text : String) : Except UrlFault Url := do
  let s ← Split.ofText text.toList
  let scheme := String.ofList s.scheme
  if s.scheme.isEmpty then .error (.noScheme text)
  let host := hostOf s.authority
  if host.isEmpty then .error (.noHost text)
  let port ← portOf? s.authority
  let path := if s.path.isEmpty then ['/'] else s.path
  let target := if s.query.isEmpty then path else path ++ '?' :: s.query
  return ⟨⟨scheme, String.ofList host, port.getD ((defaultPort? scheme).getD 0)⟩, String.ofList target⟩

/-- The value of the Host field.  A host with a colon stands in brackets; a port that is not the one that the scheme
implies follows a colon. -/
def hostField (host : String) (port : Option Int) (scheme : String) : String :=
  let host := if host.toList.contains ':' then "[" ++ host ++ "]" else host
  if (defaultPort? scheme).map (fun p => (p : Int)) = port then host
  else host ++ ":" ++ (match port with
    | some p => toString p
    | none => "None")

end Url

/-- The value of the Host field of a request to the origin. -/
def Origin.hostField (o : Origin) : String := Url.hostField o.host (some o.port) o.scheme

end Transport
