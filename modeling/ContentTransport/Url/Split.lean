import ContentTransport.Text.Blank
import ContentTransport.Text.Compatibility
import ContentTransport.Text.Lowercase
import ContentTransport.Text.Quoted
import ContentTransport.Url.Address
/-!
# Split — the parts of a URL

A URL is cut into scheme, authority, path and query; the fragment is left out.  Line ends and tabs anywhere in it and
blanks in front of it do not count.  The authority is checked: brackets have to hold an address, and a character that is
compatible with one of the delimiters must not hide it.
-/
namespace Transport

inductive UrlFault
  | brackets
  | futureAddress
  | bracketedIPv4
  | notAddress (host : String)
  | hiddenDelimiter (authority : String)
  | noScheme (url : String)
  | noHost (url : String)
  | portText (port : String)
  | portDigits (count : Nat)
  | portRange
  deriving DecidableEq, Repr

def UrlFault.message : UrlFault → String
  | brackets => "Invalid IPv6 URL"
  | futureAddress => "IPvFuture address is invalid"
  | bracketedIPv4 => "An IPv4 address cannot be in brackets"
  | notAddress host => Text.quoted host ++ " does not appear to be an IPv4 or IPv6 address"
  | hiddenDelimiter authority =>
    "netloc '" ++ authority ++ "' contains invalid characters under NFKC normalization"
  | noScheme url => "No scheme found in URL: " ++ url
  | noHost url => "No hostname found in URL: " ++ url
  | portText port => "Port could not be cast to integer value as " ++ Text.quoted port
  | portDigits count =>
    "Exceeds the limit (4300 digits) for integer string conversion: value has " ++ toString count
      ++ " digits; use sys.set_int_max_str_digits() to increase the limit"
  | portRange => "Port out of range 0-65535"

namespace Url

/-- The parts of a URL; each part without the delimiters around it. -/
structure Split where
  scheme : List Char
  authority : List Char
  path : List Char
  query : List Char
  deriving DecidableEq, Repr

/-! ## Scheme -/

def isSchemeChar (c : Char) : Bool := c.isAlphanum || c == '+' || c == '-' || c == '.'

/-- The lower-case scheme and what follows it.  Without a colon after characters of a scheme there is none. -/
def takeScheme (cs : List Char) : List Char × List Char :=
  match partition ':' cs with
  | (c :: r, some rest) =>
    if c.isAlpha && r.all isSchemeChar then ((c :: r).map Char.toLower, rest) else ([], cs)
  | _ => ([], cs)

/-! ## Authority -/

/-- What follows the last at sign: the host and the port. -/
def hostPort (authority : List Char) : List Char :=
  (authority.reverse.takeWhile (· != '@')).reverse

/-- The host, whether it stands in brackets, and what follows it. -/
structure HostPort where
  host : List Char
  bracketed : Bool
  /-- What stands in front of the opening bracket, or nothing. -/
  before : List Char
  /-- What follows the closing bracket, or the colon after a host without brackets. -/
  after : List Char

def HostPort.ofAuthority (authority : List Char) : HostPort :=
  match partition '[' (hostPort authority) with
  | (before, some inside) =>
    let (host, after) := partition ']' inside
    ⟨host, true, before, after.getD []⟩
  | (all, none) =>
    let (host, after) := partition ':' all
    ⟨host, false, [], after.getD []⟩

/-- A host in brackets is an address, but not one of the fourth version. -/
def checkBracketed (host : List Char) : Except UrlFault Unit :=
  if host.head? == some 'v' then (if isFuture host then .ok () else .error .futureAddress)
  else if isIPv4 host then .error .bracketedIPv4
  else if isIPv6 host then .ok ()
  else .error (.notAddress (String.ofList host))

/-- Brackets come in pairs and hold all of the host. -/
def checkBrackets (authority : List Char) : Except UrlFault Unit :=
  match authority.contains '[', authority.contains ']' with
  | false, false => .ok ()
  | true, true =>
    let h := HostPort.ofAuthority authority
    if h.bracketed && (!h.before.isEmpty || (!h.after.isEmpty && h.after.head? != some ':')) then .error .brackets
    else checkBracketed h.host
  | _, _ => .error .brackets

/-- No character of the authority may be compatible with a delimiter that is not written there. -/
def checkCompatible (authority : List Char) : Except UrlFault Unit :=
  if authority.all (·.toNat < 128) then .ok ()
  else
    let kept := authority.filter fun c => c != '@' && c != ':' && c != '#' && c != '?'
    let form := Text.compatible kept
    if form != kept && form.any (fun c => c == '/' || c == '?' || c == '#' || c == '@' || c == ':') then
      .error (.hiddenDelimiter (String.ofList authority))
    else .ok ()

/-! ## All parts -/

def isControlOrSpace (c : Char) : Bool := c.toNat ≤ 32

def isLineBreakOrTab (c : Char) : Bool := c == '\t' || c == '\n' || c == '\r'

/-- The authority, if two slashes announce one, and what follows it. -/
def takeAuthority (cs : List Char) : List Char × List Char :=
  match cs with
  | '/' :: '/' :: r =>
    let authority := r.takeWhile fun c => c != '/' && c != '?' && c != '#'
    (authority, r.drop authority.length)
  | _ => ([], cs)

/-- The parts of a URL, if its authority is acceptable. -/
def Split.ofText (url : List Char) : Except UrlFault Split := do
  let (scheme, rest) := takeScheme ((url.dropWhile isControlOrSpace).filter (!isLineBreakOrTab ·))
  let (authority, rest) := takeAuthority rest
  checkBrackets authority
  let (path, query) := partition '?' (partition '#' rest).1
  checkCompatible authority
  return ⟨scheme, authority, path, query.getD []⟩

end Url
end Transport
