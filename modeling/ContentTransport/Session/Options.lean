import ContentTransport.Decimal.Binary
import ContentTransport.Session
/-!
# Options — what a session accepts

Every setter refuses a closed session, and then an argument that it cannot use; a setter that refuses gives no new
session.  Two faults are no refusals: a whole number of seconds may be too large to be counted in, and a number that is
refused may have too many digits to be shown.
-/
namespace Transport
namespace Session

def whenOpen (s : Session) (k : Except Fault Session) : Except Fault Session :=
  if s.closed then .error (refuse "Session is closed") else k

/-- The refusal of a value, which shows it.  A value that cannot be shown is no refusal. -/
def objection (before : String) (v : Value) : Fault :=
  if v.isWritable then refuse (before ++ v.quoted) else .tooManyDigits

/-- The seconds that a value gives, if it is a number and not zero or less. -/
def seconds (v : Value) : Except Fault Float :=
  let invalid : Except Fault Float := .error (objection "Invalid timeout: " v)
  match v.number? with
  | some (.whole n) =>
    if n ≤ 0 then invalid
    else match Decimal.ofInt? n with
      | some x => .ok x
      | none => .error .tooLarge
  | some (.real x) => if x ≤ 0 then invalid else .ok x
  | none => invalid

def setTimeout (v : Value) (s : Session) : Except Fault Session :=
  s.whenOpen do
    let t ← seconds v
    return { s with timeout := t }

def setVerifyTls (v : Value) (s : Session) : Except Fault Session :=
  s.whenOpen (.ok { s with verifyTls := v.truth })

def setReadSize (v : Value) (s : Session) : Except Fault Session :=
  s.whenOpen <|
    match v.whole? with
    | some (.ofNat (n + 1)) => .ok { s with readSize := n + 1, readSize_pos := Nat.succ_pos n }
    | _ => .error (objection "Invalid read size: " v)

/-- The next transfers read, and bring no body along. -/
def setMethodGet (s : Session) : Except Fault Session :=
  s.whenOpen (.ok { s with method := .get, body := [] })

/-- The next transfers write a body. -/
def setMethodPost (body : Value) (s : Session) : Except Fault Session :=
  s.whenOpen <|
    match body.bytes? with
    | some b => .ok { s with method := .post, body := b }
    | none => .error (refuse "POST body must be bytes")

/-- The schemes that a session speaks. -/
def speaks (scheme : String) : Bool := scheme == "http" || scheme == "https"

def setUrl (url : Value) (s : Session) : Except Fault Session :=
  s.whenOpen <|
    match url with
    | .text text =>
      match Url.parse text with
      | .error f => .error (.refused .urlMalformat ("URL rejected: " ++ f.message))
      | .ok u =>
        if speaks u.origin.scheme then .ok { s with url := some (text, u) }
        else .error (.refused .unsupportedProtocol ("Protocol \"" ++ u.origin.scheme ++ "\" not supported"))
    | _ => .error (refuse "URL must be a string")

/-- Attaches a header list to the next transfers, or none. -/
def setHeaders (l : Option ListId) (s : Session) : Except Fault Session :=
  s.whenOpen (.ok { s with attached := l })

def setReceiver (r : Option Receiver) (s : Session) : Except Fault Session :=
  if s.defects.receiver then .error (refuse "refused")
  else s.whenOpen (.ok { s with receiver := r })

/-- Whether the inbox takes what the receiver keeps. -/
def setCollects (on : Bool) (s : Session) : Except Fault Session :=
  s.whenOpen (.ok { s with collects := on })

/-! ## The diagnostic buffer -/

/-- The least size of a diagnostic buffer: a description of 255 bytes, and the NUL that ends it. -/
def leastBuffer : Nat := 256

/-- A new buffer with the next number. -/
def allocate (content : Bytes) (s : Session) : BufferId × Session :=
  (s.buffers.length, { s with buffers := s.buffers ++ [content] })

def badBuffer : Fault := refuse "Error buffer must be a bytearray of at least 256 bytes"

/-- A call to bind, which is given a buffer or none, unless a defect decides on it. -/
def whenSound (given : Bool) (s : Session) (k : Except Fault Session) : Except Fault Session :=
  match s.defects.binding.find? (·.takes given) with
  | some .ignoresAll => .ok s
  | some _ => .error (refuse "refused")
  | none => s.whenOpen k

/-- Binds a buffer, or unbinds with none. -/
def bind (b : Option BufferId) (s : Session) : Except Fault Session :=
  s.whenSound b.isSome <|
    match b with
    | none => .ok { s with bound := none }
    | some id =>
      if (s.buffers[id]?).any (leastBuffer ≤ ·.length) then .ok { s with bound := some id } else .error badBuffer

/-- Binds what is offered as a buffer, under a new number if it is accepted; nothing unbinds. -/
def bindValue (v : Value) (s : Session) : Except Fault Session :=
  match v with
  | .none => s.bind none
  | .buffer b =>
    let (id, s) := s.allocate b
    s.bind (some id)
  | _ => s.whenSound true (.error badBuffer)

end Session
end Transport
