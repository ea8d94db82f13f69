import ContentTransport.Text.Decomposition
/-!
# Compatibility — the form of a text that tells compatible characters no longer apart

The compatibility composition (NFKC): decompose every character as far as it goes, put the marks after each starter in
the order of their classes, and compose what composes.  A text of ASCII is its own form.
-/
namespace Transport
namespace Text

/-! ## Decomposing -/

def hangulBase : Nat := 0xac00

/-- The leading consonant, vowel and trailing consonant of a Hangul syllable, by arithmetic. -/
def hangulParts (n : Nat) : List Nat :=
  let i := n - hangulBase
  [0x1100 + i / 588, 0x1161 + i % 588 / 28] ++ (if i % 28 == 0 then [] else [0x11a7 + i % 28])

/-- The full decomposition of a code point. -/
def decompose (n : Nat) : List Nat :=
  if n < 128 then [n]
  else if hangulBase ≤ n && n < hangulBase + 11172 then hangulParts n
  else (decompositions[n]?).getD [n]

/-! ## Ordering

The marks that follow a starter are sorted by class; marks of one class keep their order. -/

/-- Puts a mark after the marks of no higher class, at the end of a reversed text. -/
def placeMark (n : Nat) : List Nat → List Nat
  | [] => [n]
  | m :: ms =>
    if combiningClass m > combiningClass n then m :: placeMark n ms else n :: m :: ms

def reorder (ns : List Nat) : List Nat :=
  (ns.foldl (fun acc n => if combiningClass n == 0 then n :: acc else placeMark n acc) []).reverse

/-! ## Composing -/

/-- The composite of two code points, if they have one. -/
def composite? (a b : Nat) : Option Nat :=
  if 0x1100 ≤ a && a < 0x1113 && 0x1161 ≤ b && b < 0x1176 then
    some (hangulBase + ((a - 0x1100) * 21 + (b - 0x1161)) * 28)
  else if hangulBase ≤ a && a < hangulBase + 11172 && (a - hangulBase) % 28 == 0 && 0x11a7 < b && b < 0x11c3 then
    some (a + (b - 0x11a7))
  else compositions[(a, b)]?

/-- What has been composed so far: the finished text, reversed, the last starter and the marks kept after it. -/
structure Composing where
  done : List Nat := []
  starter : Option Nat := none
  marks : List Nat := []

/-- The text of the state, reversed. -/
def Composing.all (s : Composing) : List Nat := s.marks ++ s.starter.toList ++ s.done

/-- A code point joins the last starter if the two compose and nothing between them blocks it: no mark of its class or
a higher one, and before another starter no mark at all. -/
def Composing.push (s : Composing) (n : Nat) : Composing :=
  let k := combiningClass n
  let blocked := match s.marks with
    | [] => false
    | m :: _ => k ≤ combiningClass m
  match s.starter.bind (composite? · n) with
  | some c => if blocked then keep k else { s with starter := some c }
  | none => keep k
where
  keep (k : Nat) : Composing :=
    if k == 0 then { done := s.all, starter := some n } else { s with marks := n :: s.marks }

def compose (ns : List Nat) : List Nat := (ns.foldl Composing.push {}).all.reverse

/-! ## The form -/

/-- The compatibility composition of a text, by the full decompositions of its characters. -/
def compatibleBy (parts : Nat → List Nat) (cs : List Char) : List Char :=
  if cs.all (·.toNat < 128) then cs
  else (compose (reorder (cs.flatMap fun c => parts c.toNat))).map Char.ofNat

def compatible (cs : List Char) : List Char := compatibleBy decompose cs

end Text
end Transport
