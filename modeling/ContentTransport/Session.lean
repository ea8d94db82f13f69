import ContentTransport.HeaderList
import ContentTransport.Http.Request
import ContentTransport.Network
import ContentTransport.Receiver
import ContentTransport.Url
/-!
# Session — options that persist, and one stream that may be used again

A session is told what to request and how, and then performs one transfer at a time.  Its options stay as they are until
they are set again.  After a complete exchange it keeps the stream, with what the server sent too much, for the next
transfer to the same origin.
-/
namespace Transport

/-- The number of a header list among those of its session. -/
abbrev ListId := Nat

/-- The number of a diagnostic buffer among those of its session. -/
abbrev BufferId := Nat

/-- Where the exchange on a stream stands between two transfers. -/
inductive Condition
  /-- The last exchange is complete.  The surplus belongs to no reply yet; the server may have ended its side. -/
  | idle (surplus : Bytes) (ended : Bool)
  /-- The last exchange was broken off. -/
  | busy
  deriving DecidableEq, Repr

structure Link where
  stream : StreamId
  origin : Origin
  condition : Condition := .idle [] false
  deriving DecidableEq, Repr

/-- A defect in binding and unbinding diagnostic buffers. -/
inductive BindingDefect
  | refusesAll
  | refusesBuffers
  | refusesNone
  /-- Every call is accepted, and does nothing. -/
  | ignoresAll
  deriving DecidableEq, Repr

/-- Whether a defect decides on a call, which is given a buffer or none. -/
def BindingDefect.takes (given : Bool) : BindingDefect → Bool
  | refusesAll => true
  | refusesBuffers => given
  | refusesNone => !given
  | ignoresAll => true

/-- What is out of order in a session, to see how its callers take it. -/
structure Defects where
  /-- The defects in binding, the latest first: a call that one does not decide on goes to the one before it. -/
  binding : List BindingDefect := []
  status : Bool := false
  receiver : Bool := false
  deriving DecidableEq, Repr

def Defects.withBinding (b : BindingDefect) (d : Defects) : Defects := { d with binding := b :: d.binding }

structure Session where
  closed : Bool := false
  /-- The seconds for connecting and for each read and write. -/
  timeout : Float := 30.0
  verifyTls : Bool := true
  /-- The most bytes of one read. -/
  readSize : Nat := 65536
  method : Http.Method := .get
  body : Bytes := []
  /-- The URL as it was given, and as it was understood. -/
  url : Option (String × Url) := none
  lists : List HeaderList := []
  /-- The header list whose fields the next requests bring along. -/
  attached : Option ListId := none
  receiver : Option Receiver := none
  inbox : Inbox := {}
  /-- Whether what the receiver keeps goes into the inbox. -/
  collects : Bool := false
  buffers : List Bytes := []
  /-- The diagnostic buffer that a failing transfer describes itself in. -/
  bound : Option BufferId := none
  link : Option Link := none
  /-- The status of the last transfer, if it got that far. -/
  status : Option Nat := none
  /-- The bytes that the last transfer has read. -/
  received : Nat := 0
  /-- The pieces that the last transfer has passed to the receiver, the latest first. -/
  passed : List Bytes := []
  transfers : Nat := 0
  connects : Nat := 0
  defects : Defects := {}
  readSize_pos : 0 < readSize := by decide

namespace Session

variable {ν : Type} [Network ν]

/-! ## The stream -/

def drop (s : Session) (w : ν) : Session × ν :=
  match s.link with
  | some l => ({ s with link := none }, Network.close l.stream w)
  | none => (s, w)

def hasOpenStream (s : Session) (w : ν) : Bool := s.link.any fun l => Network.isOpen l.stream w

/-- Releases the stream and what the session was given.  A closed session stays closed. -/
def close (s : Session) (w : ν) : Session × ν :=
  if s.closed then (s, w)
  else
    let (s, w) := s.drop w
    ({ s with closed := true, attached := none, bound := none, receiver := none, collects := false }, w)

/-! ## The status -/

/-- A refusal of a primitive because of its argument, or of the state of the session. -/
def refuse (reason : String) : Fault := .refused .badFunctionArgument reason

def responseCode (s : Session) : Except Fault Nat :=
  if s.defects.status then .error (refuse "refused")
  else match s.status with
    | some n => .ok n
    | none => .error (refuse "No response code available")

end Session
end Transport
