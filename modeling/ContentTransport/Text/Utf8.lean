import ContentTransport.Bytes
/-!
# Utf8 — texts as bytes, and bytes as the text they most likely were

Writing is the encoding of the standard.  Reading never fails: every maximal run of bytes that begins a character but
cannot be finished, and every byte that cannot begin one, is read as one replacement character.
-/
namespace Transport
namespace Text

/-- The UTF-8 bytes of a character: one to four. -/
def utf8Char (c : Char) : Bytes :=
  let n := c.toNat
  if n < 0x80 then [n.toUInt8]
  else if n < 0x800 then [(0xc0 + n / 64).toUInt8, (0x80 + n % 64).toUInt8]
  else if n < 0x10000 then [(0xe0 + n / 4096).toUInt8, (0x80 + n / 64 % 64).toUInt8, (0x80 + n % 64).toUInt8]
  else [(0xf0 + n / 262144).toUInt8, (0x80 + n / 4096 % 64).toUInt8, (0x80 + n / 64 % 64).toUInt8,
    (0x80 + n % 64).toUInt8]

def utf8 (cs : List Char) : Bytes := cs.flatMap utf8Char

/-! ## Reading -/

/-- A character that has begun: the bits read so far, the bytes still to come, and the range of the next one. -/
structure Begun where
  bits : Nat
  left : Nat
  low : UInt8
  high : UInt8

def replacement : Char := Char.ofNat 0xfffd

/-- What a byte begins when no character is under way.  The range of the second byte keeps out the overlong forms, the
surrogates and what lies beyond U+10FFFF. -/
def beginChar (b : UInt8) : List Char × Option Begun :=
  if b < 0x80 then ([Char.ofNat b.toNat], none)
  else if b < 0xc2 then ([replacement], none)
  else if b < 0xe0 then ([], some ⟨b.toNat - 0xc0, 1, 0x80, 0xbf⟩)
  else if b < 0xf0 then
    ([], some ⟨b.toNat - 0xe0, 2, if b == 0xe0 then 0xa0 else 0x80, if b == 0xed then 0x9f else 0xbf⟩)
  else if b < 0xf5 then
    ([], some ⟨b.toNat - 0xf0, 3, if b == 0xf0 then 0x90 else 0x80, if b == 0xf4 then 0x8f else 0xbf⟩)
  else ([replacement], none)

/-- One byte: the characters that it completes, and what is under way after it. -/
def readByte (s : Option Begun) (b : UInt8) : List Char × Option Begun :=
  match s with
  | none => beginChar b
  | some p =>
    if p.low ≤ b && b ≤ p.high then
      let bits := p.bits * 64 + (b.toNat - 0x80)
      if p.left == 1 then ([Char.ofNat bits], none) else ([], some ⟨bits, p.left - 1, 0x80, 0xbf⟩)
    else
      let (cs, s) := beginChar b
      (replacement :: cs, s)

/-- The characters of bytes that follow what is under way. -/
def readFrom (s : Option Begun) : Bytes → List Char
  | [] => if s.isSome then [replacement] else []
  | b :: r => (readByte s b).1 ++ readFrom (readByte s b).2 r

/-- The text that bytes stand for, with replacement characters where they stand for none. -/
def ofUtf8 (b : Bytes) : List Char := readFrom none b

end Text
end Transport
