import ContentTransport.HostName.Prepared
import ContentTransport.HostName.Punycode
/-!
# Ascii — a host name as a request writes it

A name of ASCII is written as it is, if its labels have acceptable lengths.  In any other name each label that is not
ASCII is prepared and, if it still is not, written in Punycode under the mark `xn--`.
-/
namespace Transport
namespace HostName

def checkLength (label : Bytes) : Except Fault Bytes :=
  if 0 < label.length && label.length < 64 then .ok label else .error .labelLength

/-- The mark in front of a label in Punycode. -/
def mark : List Char := ['x', 'n', '-', '-']

/-- One label in ASCII. -/
def labelToAscii (label : List Char) : Except Fault Bytes :=
  match Bytes.ascii? label with
  | some b => checkLength b
  | none => do
    let form ← prepare label
    match Bytes.ascii? form with
    | some b => checkLength b
    | none =>
      if mark.isPrefixOf form then .error .reserved
      else checkLength (mark.map (fun c => c.toNat.toUInt8) ++ punycode form)

/-- Every label but the last has from 1 to 63 bytes; the last may be empty. -/
def checkLabels : List Bytes → Except Fault Unit
  | [] => .ok ()
  | [last] => if last.length < 64 then .ok () else .error .lastLabelLength
  | label :: next :: r =>
    if 0 < label.length && label.length < 64 then checkLabels (next :: r) else .error .labelLength

/-- The full stop and the three characters that stand for it. -/
def isDot (c : Char) : Bool := c == '.' || c.toNat == 0x3002 || c.toNat == 0xff0e || c.toNat == 0xff61

/-- The labels of a name. -/
def labels (name : List Char) : List (List Char) :=
  name.foldr (fun c acc =>
    if isDot c then [] :: acc
    else match acc with
      | [] => [[c]]
      | p :: ps => (c :: p) :: ps) [[]]

/-- A name that is not ASCII, label by label; one empty label at the end is a full stop at the end. -/
def unicodeToAscii (name : List Char) : Except Fault Bytes := do
  let all := labels name
  let (ls, stop) := if all.getLast? == some [] then (all.dropLast, [46]) else (all, [])
  let written ← ls.mapM labelToAscii
  return [46].intercalate written ++ stop

/-- A name, with a port if it has one, in ASCII. -/
def toAscii (name : List Char) : Except Fault Bytes :=
  match Bytes.ascii? name with
  | some b => do
    checkLabels (Bytes.split 46 b)
    return b
  | none => unicodeToAscii name

end HostName
end Transport
