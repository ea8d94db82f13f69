/-!
# Bytes — what travels on a stream

A message is a list of bytes in the order in which they are sent.  The classes and readings here know ASCII only:
HTTP/1.1 gives a meaning to ASCII bytes and lets every other byte through as it is.
-/
namespace Transport

/-- The bytes of a message, in sending order. -/
abbrev Bytes := List UInt8

namespace Bytes

/-! ## Texts of one byte a character -/

/-- One byte for each character of a text whose characters all are below U+0100. -/
def ofText (s : String) : Bytes := s.toList.map fun c => c.toNat.toUInt8

/-- The text that has one character for each byte. -/
def text (b : Bytes) : String := String.ofList (b.map fun x => Char.ofNat x.toNat)

/-- The characters as bytes when all are below `limit`: 128 for ASCII, 256 for Latin-1. -/
def below? (limit : Nat) (cs : List Char) : Option Bytes :=
  if cs.all (fun c => c.toNat < limit) then some (cs.map fun c => c.toNat.toUInt8) else none

def ascii? : List Char → Option Bytes := below? 128

def latin1? : List Char → Option Bytes := below? 256

/-! ## Places -/

/-- The place between two bytes that a number names: a negative number counts from the end, and no further than to the
beginning. -/
def place (i : Int) (b : Bytes) : Nat := if i < 0 then (b.length + i).toNat else i.toNat

/-- The bytes from one place to another, of which there are none if the second does not follow the first. -/
def slice (start stop : Int) (b : Bytes) : Bytes := (b.take (place stop b)).drop (place start b)

theorem place_of_nonneg {i : Int} {b : Bytes} (h : 0 ≤ i) : place i b = i.toNat := if_neg (by omega)

theorem place_le_place {i j : Int} {b : Bytes} (h : i ≤ j) (hs : j < 0 ∨ 0 ≤ i) : place i b ≤ place j b := by
  unfold place
  split <;> split <;> omega

theorem slice_eq_nil {i j : Int} {b : Bytes} (h : place j b ≤ place i b) : slice i j b = [] := by
  rw [slice, List.drop_eq_nil_iff, List.length_take]
  omega

/-! ## Classes of bytes -/

def tab : UInt8 := 9
def lf : UInt8 := 10
def cr : UInt8 := 13
def space : UInt8 := 32
def comma : UInt8 := 44
def colon : UInt8 := 58

/-- The white space of ASCII: TAB, LF, VT, FF, CR and the space. -/
def isWhite (b : UInt8) : Bool := b == 32 || (9 ≤ b && b ≤ 13)

/-- A space or a tab: the white space that may stand inside a line. -/
def isInline (b : UInt8) : Bool := b == 32 || b == 9

def isDigit (b : UInt8) : Bool := 48 ≤ b && b ≤ 57

def isLetter (b : UInt8) : Bool := (65 ≤ b && b ≤ 90) || (97 ≤ b && b ≤ 122)

/-- The value of a hexadecimal digit of either case. -/
def hexValue? (b : UInt8) : Option Nat :=
  if isDigit b then some (b.toNat - 48)
  else if 97 ≤ b && b ≤ 102 then some (b.toNat - 87)
  else if 65 ≤ b && b ≤ 70 then some (b.toNat - 55)
  else none

def isHex (b : UInt8) : Bool := (hexValue? b).isSome

/-! ## Readings -/

def lower (b : Bytes) : Bytes := b.map fun x => if 65 ≤ x && x ≤ 90 then x + 32 else x

/-- The bytes without those of a class at either end. -/
def trim (p : UInt8 → Bool) (b : Bytes) : Bytes :=
  ((b.dropWhile p).reverse.dropWhile p).reverse

/-- The parts between the separators: one more than there are separators. -/
def split (sep : UInt8) (b : Bytes) : List Bytes :=
  b.foldr (fun x parts =>
    if x == sep then [] :: parts
    else match parts with
      | [] => [[x]]
      | p :: ps => (x :: p) :: ps) [[]]

/-- The number that digits write, the first digit the highest. -/
def number (base : Nat) (digits : Bytes) : Nat :=
  digits.foldl (fun n b => n * base + (hexValue? b).getD 0) 0

def decimal (n : Nat) : Bytes := ofText (toString n)

/-- The hexadecimal digits of a number, in lower case. -/
def hex (n : Nat) : Bytes := (Nat.toDigits 16 n).map fun c => c.toNat.toUInt8

end Bytes
end Transport
