/-!
# Blank — the white space of all scripts

The characters that stripping takes from the ends of a text.  The four information separators U+001C to U+001F and the
next-line control U+0085 are among them; the zero-width characters are not.
-/
namespace Transport
namespace Text

def isBlank (c : Char) : Bool :=
  let n := c.toNat
  (9 ≤ n && n ≤ 13) || (0x1c ≤ n && n ≤ 0x20) || n == 0x85 || n == 0xa0 || n == 0x1680
    || (0x2000 ≤ n && n ≤ 0x200a) || n == 0x2028 || n == 0x2029 || n == 0x202f || n == 0x205f || n == 0x3000

/-- A text without the characters of a class at either end. -/
def trim (p : Char → Bool) (cs : List Char) : List Char :=
  ((cs.dropWhile p).reverse.dropWhile p).reverse

/-- A text without the blanks at either end. -/
def strip (cs : List Char) : List Char := trim isBlank cs

end Text
end Transport
