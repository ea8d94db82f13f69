import ContentTransport.Text.Utf8
/-!
# Points — texts that need not consist of characters

A text from outside is a sequence of code points.  A code point is a character, or a surrogate: one half of what UTF-16
writes a character with, and no character by itself.  UTF-8 writes characters alone, so a text in which a surrogate
stands has no bytes, unless a question mark is put in its place.
-/
namespace Transport
namespace Text

inductive Point
  | char (c : Char)
  /-- The code point U+D800 or one of those behind it, up to U+DFFF. -/
  | surrogate (n : Fin 0x800)
  deriving DecidableEq, Repr

namespace Point

def isSurrogate : Point → Bool
  | char _ => false
  | surrogate _ => true

/-- The character, or a question mark in place of a surrogate. -/
def orMark : Point → Char
  | char c => c
  | surrogate _ => '?'

end Point

/-- The number of a surrogate among all code points. -/
def surrogateNumber (n : Fin 0x800) : Nat := 0xd800 + n

def firstSurrogate : Fin 0x800 := ⟨0, by decide⟩

abbrev Points := List Point

/-- A text of characters as one of code points. -/
def points (s : String) : Points := s.toList.map .char

instance : Coe String Points := ⟨points⟩

/-- The characters of a text, with a question mark in place of each surrogate. -/
def marked (t : Points) : List Char := t.map Point.orMark

/-! ## Bytes -/

/-- Surrogates that stand side by side, from one place of a text to another, and the one that they begin with. -/
structure Run where
  beginning : Fin 0x800
  first : Nat
  last : Nat
  deriving DecidableEq, Repr

/-- The first run of surrogates in a text whose places are counted from `i`. -/
def run? (i : Nat) : Points → Option Run
  | [] => none
  | .char _ :: r => run? (i + 1) r
  | .surrogate n :: r => some ⟨n, i, i + (r.takeWhile (·.isSurrogate)).length⟩

/-- The UTF-8 bytes of a text, or the surrogates that it has none for. -/
def utf8? (t : Points) : Except Run Bytes :=
  match run? 0 t with
  | some run => .error run
  | none => .ok (utf8 (marked t))

/-! ## Texts of characters -/

@[simp] theorem marked_points (s : String) : marked (points s) = s.toList := by
  unfold marked points
  rw [List.map_map]
  exact List.map_id _

theorem marked_append (t u : Points) : marked (t ++ u) = marked t ++ marked u := List.map_append

theorem run?_chars (cs : List Char) : ∀ i, run? i (cs.map .char) = none := by
  induction cs with
  | nil => exact fun _ => rfl
  | cons c cs ih => exact fun i => ih (i + 1)

/-- A text of characters has bytes. -/
@[simp] theorem utf8?_points (s : String) : utf8? (points s) = .ok (utf8 s.toList) := by
  have hnone : run? 0 (points s) = none := run?_chars s.toList 0
  unfold utf8?
  rw [hnone, marked_points]

end Text
end Transport
