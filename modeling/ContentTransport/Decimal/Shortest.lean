import ContentTransport.Decimal.Binary
/-!
# Shortest — the fewest decimal digits that read back

A finite number is shown by the fewest digits that lie closer to it than to any other number, and among those by the
nearest.  The numbers that round to `m · 2 ^ q` form an interval; for one digit, two digits, … the two neighbours of the
number on the grid of that many digits are tested, in exact arithmetic, and the first hit is taken.
-/
namespace Transport
namespace Decimal

/-- A positive number as a fraction, with the ends of the interval that rounds to it over the same denominator. -/
structure Rounding where
  low : Nat
  value : Nat
  high : Nat
  denominator : Nat
  /-- Whether the ends belong to the interval: they do when the mantissa is even. -/
  closed : Bool

/-- Four times the mantissa is the unit, because the interval reaches half a unit up and, below a power of two, only a
quarter of one down. -/
def rounding (m : Nat) (q : Int) : Rounding :=
  let low := if m == Nat.pow 2 52 && q > -1074 then 4 * m - 1 else 4 * m - 2
  let e := q - 2
  let up := Nat.pow 2 e.toNat
  { low := low * up, value := 4 * m * up, high := (4 * m + 2) * up, denominator := Nat.pow 2 (-e).toNat,
    closed := m % 2 == 0 }

/-- The exponent of the leading decimal digit of `n / d`, for positive `n` and `d`. -/
def leadingExponent (n d : Nat) : Int :=
  if d ≤ n then ((Nat.toDigits 10 (n / d)).length : Int) - 1 else -((Nat.toDigits 10 (d / n)).length : Int)

/-- Whether `digits · 10 ^ e` lies in the interval. -/
def Rounding.covers (r : Rounding) (digits : Nat) (e : Int) : Bool :=
  let x := digits * Nat.pow 10 e.toNat * r.denominator
  let s := Nat.pow 10 (-e).toNat
  if r.closed then r.low * s ≤ x && x ≤ r.high * s else r.low * s < x && x < r.high * s

/-- The neighbour of the value on the grid of `10 ^ e` that lies in the interval; of two, the nearer, and of two equally
near ones the even. -/
def Rounding.onGrid? (r : Rounding) (e : Int) : Option Nat :=
  let num := r.value * Nat.pow 10 (-e).toNat
  let den := r.denominator * Nat.pow 10 e.toNat
  let below := num / den
  let rest := num % den
  match r.covers below e, r.covers (below + 1) e with
  | true, false => some below
  | false, true => some (below + 1)
  | true, true => some (if 2 * rest < den || (2 * rest == den && below % 2 == 0) then below else below + 1)
  | false, false => none

/-- The first hit among `n` grids, the next one `10 ^ e`. -/
def Rounding.search (r : Rounding) : Nat → Int → Nat × Int
  | 0, e => (r.value / r.denominator, e)
  | n + 1, e =>
    match r.onGrid? e with
    | some d => (d, e)
    | none => search r n (e - 1)

/-- The shortest digits of a positive number, without zeros at the end, and the exponent of the last of them. -/
def shortest (m : Nat) (q : Int) : List Char × Int :=
  let r := rounding m q
  let (d, e) := r.search 17 (leadingExponent r.value r.denominator)
  let digits := Nat.toDigits 10 d
  let zeros := (digits.reverse.takeWhile (· == '0')).length
  (digits.take (digits.length - zeros), e + zeros)

/-! ## Layout -/

/-- Exponents of the leading digit that are written positionally, least and greatest. -/
structure Layout where
  least : Int
  most : Int

/-- Positional notation from a ten-thousandth up to sixteen digits before the point. -/
def plain : Layout := ⟨-4, 15⟩

/-- Digits whose last one stands at `10 ^ e`, positionally, with at least one digit after the point. -/
def positional (digits : List Char) (e : Int) : List Char :=
  if 0 ≤ e then digits ++ List.replicate e.toNat '0' ++ ['.', '0']
  else
    let places := (-e).toNat
    if places < digits.length then digits.take (digits.length - places) ++ '.' :: digits.drop (digits.length - places)
    else '0' :: '.' :: List.replicate (places - digits.length) '0' ++ digits

/-- The exponent after its mark: a sign and at least two digits. -/
def exponentText (e : Int) : List Char :=
  let digits := Nat.toDigits 10 e.natAbs
  (if e < 0 then '-' else '+') :: List.replicate (2 - digits.length) '0' ++ digits

/-- One digit, the others after a point, and the exponent of the first. -/
def scientific (digits : List Char) (lead : Int) : List Char :=
  digits.take 1 ++ (if digits.length > 1 then '.' :: digits.drop 1 else []) ++ 'e' :: exponentText lead

def Layout.render (l : Layout) (digits : List Char) (e : Int) : List Char :=
  let lead := e + digits.length - 1
  if l.least ≤ lead && lead ≤ l.most then positional digits e else scientific digits lead

def text (x : Float) : String :=
  match parts x with
  | .nan => "nan"
  | .infinite negative => if negative then "-inf" else "inf"
  | .finite negative m q =>
    let body := if m == 0 then ['0', '.', '0'] else
      let (digits, e) := shortest m q
      plain.render digits e
    String.ofList (if negative then '-' :: body else body)

end Decimal
end Transport
