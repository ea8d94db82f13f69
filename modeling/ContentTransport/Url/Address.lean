import ContentTransport.Bytes
/-!
# Address — the numeric addresses of hosts

An IPv4 address is four decimal octets without leading zeros.  An IPv6 address is eight groups of up to four hexadecimal
digits, one run of zero groups may be left out, the last two groups may be written as an IPv4 address, and a zone may
follow a percent sign.
-/
namespace Transport
namespace Url

/-- The parts of a text between the separators: one more than there are separators. -/
def parts (sep : Char) (cs : List Char) : List (List Char) :=
  cs.foldr (fun c acc =>
    if c == sep then [] :: acc
    else match acc with
      | [] => [[c]]
      | p :: ps => (c :: p) :: ps) [[]]

/-- The text up to the first separator, and what follows it if there is one. -/
def partition (sep : Char) (cs : List Char) : List Char × Option (List Char) :=
  match cs.dropWhile (· != sep) with
  | [] => (cs, none)
  | _ :: r => (cs.takeWhile (· != sep), some r)

def numberOf (digits : List Char) : Nat := digits.foldl (fun n c => n * 10 + (c.toNat - 48)) 0

def isOctet (cs : List Char) : Bool :=
  !cs.isEmpty && cs.all Char.isDigit && cs.length ≤ 3 && (cs.length == 1 || cs.head? != some '0') && numberOf cs ≤ 255

def isIPv4 (cs : List Char) : Bool :=
  let octets := parts '.' cs
  octets.length == 4 && octets.all isOctet

def isHexDigit (c : Char) : Bool := c.toNat < 128 && Bytes.isHex c.toNat.toUInt8

def isGroup (cs : List Char) : Bool := !cs.isEmpty && cs.length ≤ 4 && cs.all isHexDigit

/-- The groups, with an IPv4 address at the end counted as two groups. -/
def groups? (cs : List Char) : Option (List (List Char)) :=
  let ps := parts ':' cs
  match ps.getLast? with
  | some last =>
    if ps.length < 3 then none
    else if last.contains '.' then (if isIPv4 last then some (ps.dropLast ++ [['0'], ['0']]) else none)
    else some ps
  | none => none

/-- Groups around at most one gap.  An empty group is the gap, which stands for at least one group; it shows as two
empty groups at either end, where it stands alone. -/
def areGroups (ps : List (List Char)) : Bool :=
  let inner := (ps.drop 1).dropLast
  match inner.countP List.isEmpty with
  | 0 => ps.length == 8 && ps.all isGroup
  | 1 =>
    let gap := inner.findIdx List.isEmpty + 1
    let high := ps.take gap
    let low := ps.drop (gap + 1)
    let high := if high.head? == some [] then high.drop 1 else high
    let low := if low.getLast? == some [] then low.dropLast else low
    (ps.head? != some [] || high.isEmpty) && (ps.getLast? != some [] || low.isEmpty)
      && high.length + low.length < 8 && high.all isGroup && low.all isGroup
  | _ => false

def isIPv6 (cs : List Char) : Bool :=
  match partition '%' cs with
  | (address, none) => (groups? address).any areGroups
  | (address, some zone) => !zone.isEmpty && !zone.contains '%' && (groups? address).any areGroups

/-- An address of a later version: a `v`, hexadecimal digits, a full stop and something after it. -/
def isFuture (cs : List Char) : Bool :=
  match cs with
  | 'v' :: r =>
    let digits := r.takeWhile isHexDigit
    match r.drop digits.length with
    | '.' :: _ :: _ => !digits.isEmpty
    | _ => false
  | _ => false

end Url
end Transport
