import ContentTransport.Decimal.Numeral
/-!
# Binary — binary floating-point numbers as exact rationals

A finite number of 64 bits is `± mantissa · 2 ^ exponent` for a natural mantissa.  Truncation, and the reading of whole
numbers and decimal texts, are defined on that form, so what they say of a number is exact.
-/
namespace Transport
namespace Decimal

inductive Parts
  | nan
  | infinite (negative : Bool)
  | finite (negative : Bool) (mantissa : Nat) (exponent : Int)

/-- The sign, the mantissa and the exponent that the bits of a number give. -/
def parts (x : Float) : Parts :=
  let bits : Nat := x.toBits.toNat
  let negative := decide (bits / Nat.pow 2 63 = 1)
  let e : Nat := bits / Nat.pow 2 52 % 2048
  let m : Nat := bits % Nat.pow 2 52
  if e == 2047 then (if m == 0 then .infinite negative else .nan)
  else if e == 0 then .finite negative m (-1074)
  else .finite negative (m + Nat.pow 2 52) ((e : Int) - 1075)

/-- The number with its fraction cut off, for a finite one. -/
def truncate? (x : Float) : Option Int :=
  match parts x with
  | .finite negative m e =>
    let n : Nat := if 0 ≤ e then m * Nat.pow 2 e.toNat else m / Nat.pow 2 (-e).toNat
    some (if negative then -(n : Int) else n)
  | _ => none

/-- The number nearest to a whole one, unless that is out of range. -/
def ofInt? (n : Int) : Option Float :=
  let x := Float.ofInt n
  if x.isInf then none else some x

/-! ## Reading a decimal text

Blanks around it, an optional sign, digits with an optional point, an optional exponent; or a name of infinity or of
not-a-number.  Single underscores may stand between digits, and the digits may be of any script. -/

def infinity : Float := Float.ofBits 0x7ff0000000000000

def notANumber : Float := Float.ofBits 0x7ff8000000000000

/-- The digits at the front of a text, and what follows them; an underscore counts only between two digits. -/
def digitsOf : List Char → List Char × List Char
  | [] => ([], [])
  | '_' :: d :: r => if d.isDigit then (let (ds, s) := digitsOf r; (d :: ds, s)) else ([], '_' :: d :: r)
  | c :: r => if c.isDigit then (let (ds, s) := digitsOf r; (c :: ds, s)) else ([], c :: r)

/-- As `digitsOf`, for the front of a run of digits, where no underscore may stand. -/
def leadingDigits : List Char → List Char × List Char
  | '_' :: r => ([], '_' :: r)
  | cs => digitsOf cs

def naturalOf (digits : List Char) : Nat := digits.foldl (fun n c => n * 10 + (c.toNat - 48)) 0

/-- A sign at the front of a text, and the rest. -/
def signOf : List Char → Bool × List Char
  | '-' :: r => (true, r)
  | '+' :: r => (false, r)
  | cs => (false, cs)

/-- The exponent that ends a decimal text, zero if none is written. -/
def exponentOf? : List Char → Option Int
  | [] => some 0
  | e :: r =>
    if e == 'e' || e == 'E' then
      let (negative, r) := signOf r
      match leadingDigits r with
      | (d :: ds, []) => some (if negative then -(naturalOf (d :: ds) : Int) else naturalOf (d :: ds))
      | _ => none
    else none

/-- The number nearest to `n · 10 ^ e`.  Exponents beyond the range of the numbers are cut to it. -/
def scaled (n : Nat) (e : Int) : Float :=
  let digits : Int := (Nat.toDigits 10 n).length
  if n == 0 || e + digits < -400 then 0.0
  else if e + digits > 400 then infinity
  else if e < 0 then Float.ofScientific n true (-e).toNat else Float.ofScientific n false e.toNat

/-- The magnitude that a text without a sign writes. -/
def magnitude? (cs : List Char) : Option Float :=
  let name := String.ofList (cs.map Char.toLower)
  if name == "inf" || name == "infinity" then some infinity
  else if name == "nan" then some notANumber
  else
    let (whole, r) := leadingDigits cs
    let (fraction, r) := match r with
      | '.' :: r => leadingDigits r
      | r => ([], r)
    if whole.isEmpty && fraction.isEmpty then none
    else (exponentOf? r).map fun e => scaled (naturalOf (whole ++ fraction)) (e - fraction.length)

def ofText? (cs : List Char) : Option Float :=
  let (negative, r) := signOf (inAscii cs)
  (magnitude? r).map fun x => if negative then -x else x

end Decimal
end Transport
