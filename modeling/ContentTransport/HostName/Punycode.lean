import ContentTransport.Bytes
/-!
# Punycode — any label in letters, digits and hyphens

The ASCII characters of a label come first, in their order; after a hyphen, numbers say where the others go.  The others
are inserted by ascending code point, and each number counts the places passed over since the last insertion.
-/
namespace Transport
namespace HostName

/-! ## Numbers of variable length -/

/-- The threshold of the digit at a place, for a bias. -/
def threshold (place bias : Nat) : Nat := max 1 (min 26 (36 * (place + 1) - bias))

theorem threshold_pos (place bias : Nat) : 1 ≤ threshold place bias := Nat.le_max_left ..

/-- A letter for the first twenty-six digits, then the ten figures. -/
def digit (n : Nat) : UInt8 := if n < 26 then (97 + n).toUInt8 else (22 + n).toUInt8

/-- The digits of a number, the lowest first.  A digit below the threshold of its place ends the number. -/
def digitsFrom (bias place n : Nat) : Bytes :=
  if h : n < threshold place bias then [digit n]
  else
    let t := threshold place bias
    digit (t + (n - t) % (36 - t)) :: digitsFrom bias (place + 1) ((n - t) / (36 - t))
termination_by n
decreasing_by
  have h1 := threshold_pos place bias
  have h2 : (n - threshold place bias) / (36 - threshold place bias) ≤ n - threshold place bias := Nat.div_le_self ..
  omega

/-- Divides by 35 until the number is at most 455, and counts 36 for each division. -/
def settle (n count : Nat) : Nat × Nat :=
  if h : n ≤ 455 then (n, count) else settle (n / 35) (count + 36)
termination_by n
decreasing_by exact Nat.div_lt_self (by omega) (by decide)

/-- The bias after a number, for a text that has `length` characters by then. -/
def adapt (n length : Nat) (isFirst : Bool) : Nat :=
  let n := if isFirst then n / 700 else n / 2
  let (n, count) := settle (n + n / length) 0
  count + 36 * n / (n + 38)

/-! ## Insertions -/

/-- What has been written: the digits, reversed, the places passed over, the bias and the characters in place. -/
structure Inserting where
  output : Bytes
  passed : Nat
  bias : Nat
  placed : Nat
  isFirst : Bool

/-- Passes over the characters of the label for the insertions of one code point. -/
def Inserting.round (n : Nat) (s : Inserting) (label : List Nat) : Inserting :=
  label.foldl (fun s c =>
    if c < n then { s with passed := s.passed + 1 }
    else if c == n then
      { output := (digitsFrom s.bias 0 s.passed).reverse ++ s.output, passed := 0,
        bias := adapt s.passed (s.placed + 1) s.isFirst, placed := s.placed + 1, isFirst := false }
    else s) s

/-- The code points of a sorted list, each once. -/
def distinct : List Nat → List Nat
  | [] => []
  | [n] => [n]
  | n :: m :: r => if n == m then distinct (m :: r) else n :: distinct (m :: r)

/-- The insertions of the ascending code points, the first of which follows `last`. -/
def insertAll (label : List Nat) : Nat → Inserting → List Nat → Inserting
  | _, s, [] => s
  | last, s, n :: r =>
    let s := Inserting.round n { s with passed := s.passed + (n - last) * (s.placed + 1) } label
    insertAll label (n + 1) { s with passed := s.passed + 1 } r

def punycode (label : List Char) : Bytes :=
  let points := label.map Char.toNat
  let base := points.filter (· < 128)
  let others := distinct ((points.filter (128 ≤ ·)).mergeSort (· ≤ ·))
  let s := insertAll points 128 ⟨[], 0, 72, base.length, true⟩ others
  base.map Nat.toUInt8 ++ (if base.isEmpty then [] else [45]) ++ s.output.reverse

end HostName
end Transport
