import ContentTransport.Decimal.Binary
import ContentTransport.Http.Reader
import ContentTransport.Session
import ContentTransport.Text.Utf8
/-!
# Transfer — one request and its reply

A transfer uses the stream of the session again if that is open, idle, and of the same origin; otherwise it opens one.
It writes the request and reads the reply until the reply is complete.  A transfer that fails closes the stream, answers
with a code, and describes itself in the diagnostic buffer.  A fault that no handler takes escapes, and then nothing is
cleaned up.

A stream that was used before may have died since.  If it fails to serve a request before a byte of the reply has been
read, the request is written once more, to a new stream.
-/
namespace Transport

/-- What breaks a transfer off: a failure, with its code and its description, or a fault that escapes. -/
inductive Break
  | failed (code : TransferCode) (message : Text.Points)
  | escaped (f : Fault)

namespace Session

variable {ν : Type} [Network ν]

/-! ## Descriptions -/

/-- The milliseconds of a timeout, without their fraction. -/
def milliseconds (timeout : Float) : Except Fault Int :=
  let t := timeout * 1000
  if t.isInf then .error .infiniteWhole
  else match Decimal.truncate? t with
    | some n => .ok n
    | none => .error .nanWhole

/-- A timeout, described with what comes before and after its milliseconds. -/
def timedOut (timeout : Float) (before after : String) : Break :=
  match milliseconds timeout with
  | .ok n => .failed .operationTimedout (before ++ toString n ++ " milliseconds" ++ after)
  | .error f => .escaped f

def connectBreak (o : Origin) (timeout : Float) (f : Fault) : Break :=
  if f.isTimeout then timedOut timeout "Connection timed out after " ""
  else if f.isUnresolved then .failed .couldntResolveHost ("Could not resolve host: " ++ o.host)
  else if f.isValue then .failed .urlMalformat ("Bad port: " ++ f.message)
  else if f.isSystem then
    .failed .couldntConnect ("Failed to connect to " ++ o.host ++ " port " ++ toString o.port ++ ": " ++ f.message)
  else .escaped f

/-- A fault of setting TLS up, if it is one that closes the stream. -/
def tlsBreak? (timeout : Float) (f : Fault) : Option Break :=
  if f.isTimeout then some (timedOut timeout "TLS handshake timed out after " "")
  else if f.isSystem || f.isRuntime then some (.failed .sslConnectError ("TLS handshake failed: " ++ f.message))
  else none

def invalidRequest (message : Text.Points) : Break := .failed .sendError ("Invalid request: " ++ message)

def writeBreak (timeout : Float) (f : Fault) : Break :=
  if f.isTimeout then timedOut timeout "Operation timed out after " " while sending"
  else if f.isSystem || f.isRuntime then .failed .sendError ("Send failure: " ++ f.message)
  else if f.isUnicode then invalidRequest f.message
  else .escaped f

def readBreak (timeout : Float) (received : Nat) (f : Fault) : Break :=
  if f.isTimeout then
    timedOut timeout "Operation timed out after " (" with " ++ toString received ++ " bytes received")
  else if f.isSystem || f.isRuntime then .failed .recvError ("Recv failure: " ++ f.message)
  else .escaped f

/-- A reply that is refused, or that ends too early.  What it is called depends on how much of it has been read. -/
def replyBreak (s : Session) (f : Http.ReplyFault) : Break :=
  if s.received == 0 then .failed .gotNothing "Empty reply from server"
  else if s.status.isNone then .failed .weirdServerReply ("Invalid server reply: " ++ f.message)
  else .failed .recvError ("Transfer closed with outstanding read data remaining: " ++ f.message)

/-! ## The stream -/

/-- The stream of the session, if a request to the origin may be written to it. -/
def reusable? (o : Origin) (s : Session) (w : ν) : Option (Link × Bytes × Bool) :=
  match s.link with
  | some l =>
    match l.condition with
    | .idle surplus ended => if l.origin = o ∧ Network.isOpen l.stream w then some (l, surplus, ended) else none
    | .busy => none
  | none => none

def linked (o : Origin) (stream : StreamId) (s : Session) : Session :=
  { s with link := some { stream := stream, origin := o }, connects := s.connects + 1 }

/-- Opens a stream to an origin, in place of the one that the session has. -/
def openLink (o : Origin) (s : Session) (w : ν) : Except Break StreamId × Session × ν :=
  let (s, w) := s.drop w
  match Network.connect o.host (.int o.port) (.float s.timeout) w with
  | (.error f, w) => (.error (connectBreak o s.timeout f), s, w)
  | (.ok id, w) =>
    if o.scheme == "https" then
      match Network.secure id o.host (.float s.timeout) s.verifyTls w with
      | (.ok id, w) => (.ok id, s.linked o id, w)
      | (.error f, w) =>
        match tlsBreak? s.timeout f with
        | some b => (.error b, s, Network.close id w)
        | none => (.error (.escaped f), s, w)
    else (.ok id, s.linked o id, w)

/-- How the exchange on the stream stands, if there is a stream. -/
def stand (c : Condition) (s : Session) : Session := { s with link := s.link.map ({ · with condition := c }) }

/-! ## The request -/

def extraFields (s : Session) : List Http.Field :=
  match s.attached with
  | some id => ((s.lists[id]?).map (·.fields)).getD []
  | none => []

def request (u : Url) (s : Session) : Http.Request :=
  { method := s.method, host := u.origin.hostField, target := u.target, fields := s.extraFields, body := s.body }

/-- Writes pieces, up to the first that breaks off. -/
def sendAll (timeout : Float) (stream : StreamId) : List Bytes → ν → Option Break × ν
  | [], w => (none, w)
  | p :: r, w =>
    match Network.write stream p w with
    | (.ok (), w) => sendAll timeout stream r w
    | (.error f, w) => (some (writeBreak timeout f), w)

/-! ## The reply -/

/-- Passes a piece of the body to the receiver.  Without a receiver the piece is lost. -/
def deliver (piece : Bytes) (s : Session) : Option Break × Session :=
  match s.receiver with
  | none => (none, s)
  | some r =>
    let verdict := r.judge s.passed s.inbox.size piece
    let s := { s with passed := piece :: s.passed }
    match verdict with
    | .error f => (some (.escaped f), s)
    | .ok v =>
      let s := if v.kept && s.collects then { s with inbox := s.inbox.add piece } else s
      if v.consumed = piece.length then (none, s)
      else
        (some (.failed .writeError ("Failure writing output to destination, passed " ++ toString piece.length
          ++ " returned " ++ toString v.consumed)), s)

/-- Does what a reply says, up to the first piece that is not taken. -/
def obey : List Http.Event → Session → Option Break × Session
  | [], s => (none, s)
  | .status n :: r, s => obey r { s with status := some n }
  | .piece p :: r, s =>
    match s.deliver p with
    | (none, s) => obey r s
    | b => b

/-- The end of an exchange: the stream stays if the request and the reply let it. -/
def finish (keep : Bool) (surplus : Bytes) (ended : Bool) (s : Session) (w : ν) : Session × ν :=
  if keep then (s.stand (.idle surplus ended), w) else s.drop w

/-- What the end of the stream makes of a reply that is not complete yet. -/
def finishAtEnd (keep : Bool) (reader : Http.Reader) (s : Session) (w : ν) : Option Break × Session × ν :=
  match reader.atEnd with
  | some f => (some (s.replyBreak f), s, w)
  | none => (none, s.finish (keep && reader.keepAlive) [] true w)

/-- Reads until the reply is complete.  The reader has taken what has been read so far; `ended` says that the server had
ended its side before. -/
def receive (stream : StreamId) (keep ended : Bool) (reader : Http.Reader) (s : Session) (w : ν) :
    Option Break × Session × ν :=
  match reader.settle with
  | (events, reader, standing) =>
    match s.obey events with
    | (some b, s) => (some b, s, w)
    | (none, s) =>
      match standing with
      | .complete surplus => (none, s.finish (keep && reader.keepAlive) surplus ended w)
      | .switched => (some (.failed .weirdServerReply "Unexpected protocol event: PAUSED"), s, w)
      | .broken f => (some (s.replyBreak f), s, w)
      | .hungry =>
        if ended then finishAtEnd keep reader s w
        else
          match _h : Network.read stream s.readSize w with
          | (.error f, w') => (some (readBreak s.timeout s.received f), s, w')
          | (.ok [], w') => finishAtEnd keep reader s w'
          | (.ok (b :: bs), w') =>
            receive stream keep false (reader.feed (b :: bs)) { s with received := s.received + (bs.length + 1) } w'
termination_by Network.readable stream w
decreasing_by exact Network.read_shrinks (by assumption)

/-- One request on a stream, and its reply. -/
def exchange (u : Url) (stream : StreamId) (surplus : Bytes) (ended : Bool) (s : Session) (w : ν) :
    Option Break × Session × ν :=
  match (s.request u).write with
  | .error f => (some (invalidRequest f.message), s, w)
  | .ok out =>
    let s := s.stand .busy
    match sendAll s.timeout stream out.pieces w with
    | (some b, w) => (some b, s, w)
    | (none, w) =>
      match out.fault with
      | some f => (some (invalidRequest f.message), s, w)
      | none =>
        receive stream out.keepAlive ended (({ proposed := out.proposes } : Http.Reader).feed surplus) s w

/-! ## The transfer -/

def exchangeAnew (u : Url) (s : Session) (w : ν) : Option Break × Session × ν :=
  match s.openLink u.origin w with
  | (.error b, s, w) => (some b, s, w)
  | (.ok stream, s, w) => s.exchange u stream [] false w

/-- The failures that a dead stream shows. -/
def isStale (c : TransferCode) : Bool := c == .gotNothing || c == .sendError || c == .recvError

/-- The exchange, on the stream of the session if it can be used again and is not dead. -/
def attempt (u : Url) (s : Session) (w : ν) : Option Break × Session × ν :=
  match s.reusable? u.origin w with
  | none => s.exchangeAnew u w
  | some (l, surplus, ended) =>
    match s.exchange u l.stream surplus ended w with
    | (some (.failed code m), s, w) =>
      if isStale code && s.received == 0 then s.exchangeAnew u w else (some (.failed code m), s, w)
    | r => r

/-- The most bytes of a description. -/
def longestDescription : Nat := 255

/-- A buffer with a description at its beginning: its UTF-8 bytes, as far as they fit, and a NUL.  What UTF-8 cannot write
of the description is replaced by question marks. -/
def describe (message : Text.Points) (buffer : Bytes) : Bytes :=
  let text := (Text.utf8 (Text.marked message)).take longestDescription
  text ++ 0 :: buffer.drop (text.length + 1)

/-- Describes a failure in the diagnostic buffer, if one is bound. -/
def fail (code : TransferCode) (message : Text.Points) (s : Session) : TransferCode × Session :=
  match s.bound with
  | some id => (code, { s with buffers := s.buffers.modify id (describe message) })
  | none => (code, s)

/-- One transfer with the options of the session: the code that it ended with, or the fault that escaped from it. -/
def perform (s : Session) (w : ν) : Except Fault TransferCode × Session × ν :=
  let s := { s with status := none, received := 0, passed := [] }
  if s.closed then
    let (code, s) := s.fail .badFunctionArgument "Session is closed"
    (.ok code, s, w)
  else
    match s.url with
    | none =>
      let (code, s) := s.fail .urlMalformat "No URL set"
      (.ok code, s, w)
    | some (_, u) =>
      match { s with transfers := s.transfers + 1 }.attempt u w with
      | (none, s, w) => (.ok .ok, s, w)
      | (some (.escaped f), s, w) => (.error f, s, w)
      | (some (.failed code m), s, w) =>
        let (s, w) := s.drop w
        let (code, s) := s.fail code m
        (.ok code, s, w)

end Session
end Transport
