import ContentTransport.Connection
/-!
# ScriptedConnection — a connection that plays a script

A scripted connection needs no network.  It checks its arguments as a connection does, keeps the requests that it has
seen, and answers each with the next scripted reply, through the same cap and the same judgement of the status.
-/
namespace Transport

/-- A scripted reply: one with a status and a body that comes in pieces, or a transfer that fails with a code. -/
structure ScriptedReply where
  status : Int := 200
  body : Bytes := []
  failure : Option TransferCode := none
  /-- The description of the failure. -/
  message : String := ""
  pieceSize : Int := 16384
  deriving DecidableEq, Repr

namespace ScriptedReply

def timeout (message : String) : ScriptedReply := { failure := some .operationTimedout, message := message }

/-- The pieces of a body, each of `n + 1` bytes but the last. -/
def cut (n : Nat) (body : Bytes) : List Bytes :=
  match body with
  | [] => []
  | b :: r => ((b :: r).take (n + 1)) :: cut n ((b :: r).drop (n + 1))
termination_by body.length
decreasing_by simp only [List.length_drop, List.length_cons]; omega

/-- The pieces of the body.  Pieces of less than no bytes never begin, and pieces of no bytes are a fault. -/
def pieces (r : ScriptedReply) : Except Fault (List Bytes) :=
  match r.pieceSize with
  | .ofNat 0 => .error .zeroStep
  | .ofNat (n + 1) => .ok (cut n r.body)
  | .negSucc _ => .ok []

end ScriptedReply

/-- A request that a scripted connection has seen. -/
structure SeenRequest where
  method : Http.Method
  url : Value
  body : Option Bytes := none

structure ScriptedConnection where
  replies : List ScriptedReply := []
  cap : Int := largestBody
  seen : List SeenRequest := []
  closed : Bool := false

namespace ScriptedConnection

def queue (r : ScriptedReply) (c : ScriptedConnection) : ScriptedConnection :=
  { c with replies := c.replies ++ [r] }

/-- The pieces as one body, unless it grows beyond the cap. -/
def gather (cap : Int) : List Bytes → Inbox → Option Inbox
  | [], i => some i
  | p :: r, i => if ((i.size + p.length : Nat) : Int) > cap then none else gather cap r (i.add p)

def tooLong (cap : Int) : Outcome :=
  .ofTransfer .writeError ("Response exceeded " ++ toString cap ++ " characters")

def answerTo (cap : Int) (p : ScriptedReply) (r : Reporter) : Except Fault Answer × Reporter :=
  match p.failure with
  | some code => Connection.report (.ofTransfer code p.message) r
  | none =>
    match p.pieces with
    | .error f => (.error f, r)
    | .ok pieces =>
      match gather cap pieces {} with
      | none => Connection.report (tooLong cap) r
      | some i =>
        let o := Outcome.ofStatus p.status
        if o.isOk then (.ok (o, i.content), r) else Connection.report o r

/-- The answer to a request: the next reply, which is then gone. -/
def respond (q : SeenRequest) (c : ScriptedConnection) (r : Reporter) :
    Except Fault Answer × ScriptedConnection × Reporter :=
  let c := { c with seen := c.seen ++ [q] }
  match c.replies with
  | [] =>
    let (answer, r) := Connection.report ⟨.connectionUnexpectedError, some "No scripted response left"⟩ r
    (answer, c, r)
  | p :: ps =>
    let (answer, r) := answerTo c.cap p r
    (answer, { c with replies := ps }, r)

def refuse (o : Outcome) (c : ScriptedConnection) (r : Reporter) :
    Except Fault Answer × ScriptedConnection × Reporter :=
  let (answer, r) := Connection.report o r
  (answer, c, r)

def get (url : Value) (c : ScriptedConnection) (r : Reporter) : Except Fault Answer × ScriptedConnection × Reporter :=
  if !url.truth then c.refuse Connection.noUrl r else c.respond { method := .get, url := url } r

def post (url : Value) (body : Body) (c : ScriptedConnection) (r : Reporter) :
    Except Fault Answer × ScriptedConnection × Reporter :=
  if !url.truth then c.refuse Connection.noUrl r
  else
    match Connection.bodyBytes? body with
    | .error f => (.error f, c, r)
    | .ok none => c.refuse Connection.noBody r
    | .ok (some b) => c.respond { method := .post, url := url, body := some b } r

/-- Closing leaves a mark, and nothing else. -/
def close (c : ScriptedConnection) : ScriptedConnection := { c with closed := true }

/-- The outcome of making a connection with a script, unless making one is to fail. -/
def make (replies : List ScriptedReply) (failure : Option Outcome) (r : Reporter) :
    Except Fault (Outcome × Option ScriptedConnection) × Reporter :=
  match failure with
  | some o =>
    let (o, r) := r.logFailure o
    (o.map fun o => (o, none), r)
  | none => (.ok (.ok, some { replies := replies }), r)

end ScriptedConnection
end Transport
