import ContentTransport.Http.Field
/-!
# Head — the status line and the fields of a reply

A head is a list of lines.  Lines that begin with a space or a tab continue the line before them.  The status says
whether the head is final, and the fields of a final head say how its body ends.
-/
namespace Transport
namespace Http

/-- Why a reply is refused, or what it lacks when it ends. -/
inductive ReplyFault
  /-- The reply begins with a byte that begins no line. -/
  | requestLine
  | noStatusLine
  | statusLine (line : Bytes)
  | continuation
  | headerLine (line : Bytes)
  | field (f : FieldFault)
  | informational (status : Nat)
  /-- The reply switches to another protocol, which nobody proposed. -/
  | notProposed
  | tooLong
  | chunkHeader (line : Bytes)
  | chunkFooter (seen expected : Bytes)
  | endedBeforeReply
  | endedInBody (received expected : Nat)
  | endedInChunks
  | endedInLine
  deriving DecidableEq, Repr

def ReplyFault.message : ReplyFault → String
  | requestLine => "illegal request line"
  | noStatusLine => "no response line received"
  | statusLine line => "illegal status line: " ++ Text.quotedBuffer line
  | continuation => "continuation line at start of headers"
  | headerLine line => "illegal header line: " ++ Text.quotedBuffer line
  | field f => f.message
  | informational status =>
    "InformationalResponse status_code should be in range [100, 200), not " ++ toString status
  | notProposed => "Received server _SWITCH_UPGRADE event without a pending proposal"
  | tooLong => "Receive buffer too long"
  | chunkHeader line => "illegal chunk header: " ++ Text.quotedBuffer line
  | chunkFooter seen expected =>
    "malformed chunk footer: " ++ Text.quotedBuffer seen ++ " (expected " ++ Text.quotedBytes expected ++ ")"
  | endedBeforeReply => "can't handle event type ConnectionClosed when role=SERVER and state=SEND_RESPONSE"
  | endedInBody received expected =>
    "peer closed connection without sending complete message body (received " ++ toString received
      ++ " bytes, expected " ++ toString expected ++ ")"
  | endedInChunks => "peer closed connection without sending complete message body (incomplete chunked read)"
  | endedInLine => "peer unexpectedly closed connection"

/-! ## Lines -/

/-- Joins the lines that begin with a space or a tab to the lines before them, with one space in between. -/
def unfold (last : Bytes) : List Bytes → List Bytes
  | [] => [last]
  | line :: r =>
    if line.head?.any Bytes.isInline then unfold (last ++ Bytes.space :: line.dropWhile Bytes.isInline) r
    else last :: unfold line r

def unfoldLines : List Bytes → Except ReplyFault (List Bytes)
  | [] => .ok []
  | line :: r => if line.head?.any Bytes.isInline then .error .continuation else .ok (unfold line r)

/-- A token, a colon and a value with spaces and tabs around it. -/
def fieldOfLine (line : Bytes) : Except ReplyFault Field :=
  let name := line.takeWhile (· != Bytes.colon)
  match line.drop name.length with
  | _ :: r =>
    let value := Bytes.trim Bytes.isInline r
    if isToken name && isFieldValue value then .ok ⟨name, value⟩ else .error (.headerLine line)
  | [] => .error (.headerLine line)

/-- The fields that the lines after the first one give, as they count. -/
def fieldsOfLines (lines : List Bytes) : Except ReplyFault (List Field) := do
  let fields ← (← unfoldLines lines).mapM fieldOfLine
  (acceptFields fields).mapError .field

/-- The major and minor digit of the version, and the status. -/
def statusOfLine (line : Bytes) : Except ReplyFault ((UInt8 × UInt8) × Nat) :=
  let refuse : Except ReplyFault ((UInt8 × UInt8) × Nat) := .error (.statusLine line)
  match line with
  | 72 :: 84 :: 84 :: 80 :: 47 :: major :: 46 :: minor :: 32 :: a :: b :: c :: rest =>
    if [major, minor, a, b, c].all Bytes.isDigit then
      match rest with
      | [] => .ok ((major, minor), Bytes.number 10 [a, b, c])
      | 32 :: reason => if reason.all isLineByte then .ok ((major, minor), Bytes.number 10 [a, b, c]) else refuse
      | _ => refuse
    else refuse
  | _ => refuse

/-! ## Heads -/

/-- How the body of a reply ends: after so many bytes, with the last chunk, or with the stream. -/
inductive Framing
  | counted (n : Nat)
  | chunked
  | untilEnd
  deriving DecidableEq, Repr

/-- A head that answers the request, or one that only informs. -/
inductive Head
  | informing (status : Nat)
  | final (status : Nat) (keepAlive : Bool) (framing : Framing)
  deriving DecidableEq, Repr

/-- Some statuses have no body; otherwise chunks come first, then a length, and the end of the stream is last. -/
def framingOf (status : Nat) (fields : List Field) : Framing :=
  if status == 204 || status == 304 then .counted 0
  else if isChunked fields then .chunked
  else match contentLength? fields with
    | some n => .counted n
    | none => .untilEnd

/-- A version before 1.1 does not keep the stream. -/
def isOld (version : UInt8 × UInt8) : Bool := version.1 < 49 || (version.1 == 49 && version.2 < 49)

def Head.ofLines (lines : List Bytes) : Except ReplyFault Head :=
  match lines with
  | [] => .error .noStatusLine
  | line :: r => do
    let (version, status) ← statusOfLine line
    let fields ← fieldsOfLines r
    if status < 100 then .error (.informational status)
    else if status < 200 then return .informing status
    else return .final status (!asksToClose fields && !isOld version) (framingOf status fields)

end Http
end Transport
