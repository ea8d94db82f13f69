/-!
# CodePoints — sets and mappings of characters, written out

The large character classes are data of the Unicode standard.  A table is a text of words between blanks, every number
in hexadecimal, and this module reads the three kinds of word that the tables use.
-/
namespace Transport
namespace Text

/-! ## Words and numbers -/

def hexDigit (c : Char) : Nat := if c.isDigit then c.toNat - 48 else c.toNat - 87

/-- The number that lower-case hexadecimal digits write. -/
def hexNumber (cs : List Char) : Nat := cs.foldl (fun n c => n * 16 + hexDigit c) 0

/-- The parts of a list between the elements of a class. -/
def cut (p : Char → Bool) (cs : List Char) : List (List Char) :=
  let (parts, last) := cs.foldl (fun (acc : List (List Char) × List Char) c =>
    if p c then (acc.2.reverse :: acc.1, []) else (acc.1, c :: acc.2)) ([], [])
  (last.reverse :: parts).reverse

def words (table : String) : List (List Char) :=
  (cut (fun c => c == ' ' || c == '\n') table.toList).filter (!·.isEmpty)

/-! ## Ranges

A word `lo-hi`, or `lo` alone, is a range with both ends. -/

abbrev Ranges := List (Nat × Nat)

def Ranges.ofWord (w : List Char) : Nat × Nat :=
  match cut (· == '-') w with
  | [lo, hi] => (hexNumber lo, hexNumber hi)
  | _ => (hexNumber w, hexNumber w)

def Ranges.ofText (table : String) : Ranges := (words table).map Ranges.ofWord

def Ranges.has (r : Ranges) (c : Char) : Bool := r.any fun p => p.1 ≤ c.toNat && c.toNat ≤ p.2

/-! ## Mappings

A word that ends in `=` names a code point; each word after it gives the image of that code point, then of the next one.
The code points of an image stand between full stops. -/

def image (w : List Char) : List Nat := (cut (· == '.') w).map hexNumber

/-- The pairs of a mapping, in the order of the table. -/
def pairs (table : String) : List (Nat × List Nat) :=
  ((words table).foldl (fun (acc : List (Nat × List Nat) × Nat) w =>
    if w.getLast? == some '=' then (acc.1, hexNumber w.dropLast)
    else ((acc.2, image w) :: acc.1, acc.2 + 1)) ([], 0)).1.reverse

end Text
end Transport
