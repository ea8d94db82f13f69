import ContentTransport.Bytes
import ContentTransport.Fault
/-!
# Receiver — who takes the pieces of a body

A receiver is asked about each piece, knowing the pieces that it got before in the same transfer and how much has been
kept.  It says how many bytes it has consumed; a number that is not the length of the piece ends the transfer.
-/
namespace Transport

/-- What a receiver says of a piece: the bytes it claims to have consumed, and whether the piece is to be kept. -/
structure Verdict where
  consumed : Int
  kept : Bool
  deriving DecidableEq, Repr

structure Receiver where
  /-- The verdict on a piece, given the earlier pieces of the transfer, the latest first, and the number of bytes kept;
  a receiver may also break off. -/
  judge : List Bytes → Nat → Bytes → Except Fault Verdict

namespace Receiver

/-- What a receiver consumes to end a transfer. -/
def abort : Int := -1

def keeping (piece : Bytes) : Verdict := ⟨piece.length, true⟩

/-- Keeps every piece. -/
def collecting : Receiver := ⟨fun _ _ piece => .ok (keeping piece)⟩

/-- Keeps the pieces as long as they fit below a cap, and says `excess` to the first that does not. -/
def capped (cap : Int) (excess : Int) : Receiver :=
  ⟨fun _ held piece => .ok (if ((held + piece.length : Nat) : Int) > cap then ⟨excess, false⟩ else keeping piece)⟩

/-- Keeps nothing, and aborts. -/
def aborting : Receiver := ⟨fun _ _ _ => .ok ⟨abort, false⟩⟩

/-- Keeps nothing, and leaves a byte of each piece. -/
def leavingOne : Receiver := ⟨fun _ _ piece => .ok ⟨(piece.length : Int) - 1, false⟩⟩

end Receiver

/-- What has been kept: the pieces, the latest first, and their size. -/
structure Inbox where
  pieces : List Bytes := []
  size : Nat := 0
  deriving DecidableEq, Repr

namespace Inbox

def content (i : Inbox) : Bytes := i.pieces.reverse.flatten

def add (piece : Bytes) (i : Inbox) : Inbox := ⟨piece :: i.pieces, i.size + piece.length⟩

end Inbox
end Transport
