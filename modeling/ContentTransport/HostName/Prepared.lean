import ContentTransport.HostName.Repertoire
import ContentTransport.Text.Compatibility
import ContentTransport.Text.Lowercase
import ContentTransport.Text.Quoted
/-!
# Prepared — one label of a host name in the form that is compared

Preparing a label drops the characters without a width, folds the case, takes the compatibility form, and then refuses
prohibited characters and labels that mix the two directions of writing.
-/
namespace Transport
namespace HostName

/-- Why a name cannot be written in ASCII. -/
inductive Fault
  | labelLength
  | lastLabelLength
  | prohibited (c : Char)
  | mixedDirections
  | directionAtEnds
  | reserved
  deriving DecidableEq, Repr

def Fault.reason : Fault → String
  | labelLength => "label empty or too long"
  | lastLabelLength => "label too long"
  | prohibited c => "Invalid character " ++ Text.quoted (String.singleton c)
  | mixedDirections => "Violation of BIDI requirement 2"
  | directionAtEnds => "Violation of BIDI requirement 3"
  | reserved => "Label starts with ACE prefix"

def Fault.message (f : Fault) : String :=
  "encoding with 'idna' codec failed (UnicodeError: " ++ f.reason ++ ")"

/-- The full decomposition of a code point as version 3.2 has it. -/
def decompose (n : Nat) : List Nat :=
  if n < 128 then [n]
  else match corrected? n with
    | some m => [m]
    | none => if assignedRanges.has (Char.ofNat n) then Text.decompose n else [n]

def compatible (cs : List Char) : List Char := Text.compatibleBy decompose cs

/-- The folding of one character: the exception if there is one, else its lower-case form. -/
def foldOnce (c : Char) : List Char :=
  ((foldings[c.toNat]?).map (·.map Char.ofNat)).getD (Text.lower [c])

/-- The folding that stays folded in the compatibility form: when the form of a folding folds further, that form. -/
def fold (c : Char) : List Char :=
  let once := foldOnce c
  let form := compatible once
  let twice := compatible (form.flatMap foldOnce)
  if form != twice then twice else once

/-- In a label with a letter that runs from right to left, no letter runs from left to right, and the first and the last
character run from right to left. -/
def checkDirections (cs : List Char) : Except Fault Unit :=
  if cs.any rightToLeftRanges.has then
    if cs.any leftToRightRanges.has then .error .mixedDirections
    else if cs.head?.any rightToLeftRanges.has && cs.getLast?.any rightToLeftRanges.has then .ok ()
    else .error .directionAtEnds
  else .ok ()

def prepare (label : List Char) : Except Fault (List Char) := do
  let form := compatible ((label.filter (!droppedRanges.has ·)).flatMap fold)
  match form.find? prohibitedRanges.has with
  | some c => .error (.prohibited c)
  | none =>
    checkDirections form
    return form

end HostName
end Transport
