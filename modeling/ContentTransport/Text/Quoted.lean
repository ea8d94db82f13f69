import ContentTransport.Text.Points
import ContentTransport.Text.Printable
/-!
# Quoted — texts and bytes between quotes, as messages show them

A quoted text stands between single quotes, or between double quotes if it holds a single quote and no double one.  The
backslash and the quote in use are escaped, tab and line ends have letters of their own, and what is not printable is
written by its code point, as every surrogate is.  Bytes are quoted the same way under a `b`, and only visible ASCII
stays as it is.
-/
namespace Transport
namespace Text

/-! ## Escapes -/

/-- The digits of a number in lower-case hexadecimal, filled up with zeros to a width. -/
def hexPadded (width n : Nat) : List Char :=
  let digits := Nat.toDigits 16 n
  List.replicate (width - digits.length) '0' ++ digits

/-- The escape of a code point by its number, in the shortest of the three forms. -/
def escapePoint (n : Nat) : List Char :=
  if n < 0x100 then '\\' :: 'x' :: hexPadded 2 n
  else if n < 0x10000 then '\\' :: 'u' :: hexPadded 4 n
  else '\\' :: 'U' :: hexPadded 8 n

/-- The escapes that have a letter of their own. -/
def letterEscape? (n : Nat) : Option (List Char) :=
  if n == 9 then some ['\\', 't'] else if n == 10 then some ['\\', 'n'] else if n == 13 then some ['\\', 'r'] else none

/-- The quote for a text in which the given characters occur. -/
def quoteMark (single double : Bool) : Char := if single && !double then '"' else '\''

/-! ## Texts -/

def escapeChar (mark c : Char) : List Char :=
  if c == mark || c == '\\' then ['\\', c]
  else match letterEscape? c.toNat with
    | some e => e
    | none => if isPrintable c then [c] else escapePoint c.toNat

def escape (mark : Char) : Point → List Char
  | .char c => escapeChar mark c
  | .surrogate n => escapePoint (surrogateNumber n)

/-- A text as messages show it. -/
def quoted (t : Points) : String :=
  let mark := quoteMark (t.contains (.char '\'')) (t.contains (.char '"'))
  String.ofList (mark :: (t.flatMap (escape mark) ++ [mark]))

/-- Why an encoding does not write a text: the code points from one place to another, of which `point` is the first. -/
def unwritable (encoding : String) (point first last : Nat) (reason : String) : String :=
  "'" ++ encoding ++ "' codec can't encode "
    ++ (if first == last then
        "character '" ++ String.ofList (escapePoint point) ++ "' in position " ++ toString first
      else "characters in position " ++ toString first ++ "-" ++ toString last)
    ++ ": " ++ reason

/-! ## Bytes -/

/-- One byte inside quotes; `always` holds for the bytes that are escaped beside the backslash. -/
def escapeByte (always : UInt8 → Bool) (b : UInt8) : List Char :=
  let c := Char.ofNat b.toNat
  if always b || b == 92 then ['\\', c]
  else match letterEscape? b.toNat with
    | some e => e
    | none => if 32 ≤ b && b < 127 then [c] else escapePoint b.toNat

def quoteOfBytes (b : Bytes) : Char := quoteMark (b.contains 39) (b.contains 34)

/-- Bytes as messages show them. -/
def quotedBytes (b : Bytes) : String :=
  let mark := quoteOfBytes b
  String.ofList ('b' :: mark :: (b.flatMap (escapeByte (·.toNat == mark.toNat)) ++ [mark]))

/-- The bytes of a buffer as messages show them: a single quote is escaped whichever quote is in use. -/
def quotedBuffer (b : Bytes) : String :=
  let mark := quoteOfBytes b
  String.ofList ("bytearray(b".toList ++ mark :: (b.flatMap (escapeByte (· == 39)) ++ [mark, ')']))

end Text
end Transport
