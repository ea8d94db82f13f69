import ContentTransport.Bytes
import ContentTransport.Text.Blank
import ContentTransport.Text.Digit
/-!
# Numeral — whole numbers as people write them

Blanks around it, one optional sign, decimal digits of any script, single underscores between digits, and at most 4300
digits.
-/
namespace Transport
namespace Decimal

/-- The most digits that a numeral may have, when it is read and when it is written. -/
def mostDigits : Nat := 4300

/-- The blanks around a numeral: of ASCII only those of `Bytes.isWhite`, and every blank beyond ASCII. -/
def isMargin (c : Char) : Bool :=
  if c.toNat < 128 then Bytes.isWhite c.toNat.toUInt8 else Text.isBlank c

/-- A text without the blanks around it, and with the digits of all scripts written in ASCII. -/
def inAscii (cs : List Char) : List Char :=
  (Text.trim isMargin cs).map fun c =>
    match Text.digitValue? c with
    | some v => Char.ofNat (48 + v)
    | none => c

/-- The values of digits with single underscores between them. -/
def digitValues? : List Char → Option (List Nat)
  | [] => none
  | [c] => (Text.digitValue? c).map ([·])
  | c :: d :: r => do
    let v ← Text.digitValue? c
    if d == '_' then return v :: (← digitValues? r) else return v :: (← digitValues? (d :: r))

/-- The whole number that a text writes. -/
def integer? (cs : List Char) : Option Int :=
  let body := Text.trim isMargin cs
  let (negative, digits) := match body with
    | '-' :: r => (true, r)
    | '+' :: r => (false, r)
    | r => (false, r)
  match digitValues? digits with
  | some vs =>
    if vs.length > mostDigits then none
    else
      let n : Nat := vs.foldl (fun n v => n * 10 + v) 0
      some (if negative then -(n : Int) else n)
  | none => none

/-- The whole number that ASCII bytes write. -/
def integerOfBytes? (b : Bytes) : Option Int :=
  (Bytes.ascii? (b.map fun x => Char.ofNat x.toNat)).bind fun a => integer? (a.map fun x => Char.ofNat x.toNat)

end Decimal
end Transport
