import ContentTransport.Outcome.OfTransfer
import ContentTransport.Session.Diagnosis
import ContentTransport.Session.Headers
import ContentTransport.Session.Transfer
import ContentTransport.Settings
import ContentTransport.Value.Body
/-!
# Connection — GET and POST, answered with an outcome and a body

A connection owns one session for its whole life.  Each call checks its arguments, makes one transfer, and answers with
an outcome and the body, which is empty unless the outcome is a success; every failure is reported once.  A fault that
neither the session nor the connection takes escapes from the call, after what the call had set up is taken down.
-/
namespace Transport

abbrev Answer := Outcome × Bytes

structure Connection (ν : Type) where
  settings : Settings
  /-- The session, until the connection is closed. -/
  session : Option Session
  reporter : Reporter
  network : ν
  /-- Whether header lists take no fields. -/
  refusesFields : Bool := false
  /-- The header lists of the calls that had no session to make them in. -/
  strays : List HeaderList := []

namespace Connection

variable {ν : Type} [Network ν]

/-! ## Making -/

/-- What a new session is told, one after the other. -/
def instructions (c : Settings) : List (Session → Except Fault Session) :=
  [(·.setTimeout c.timeout.toValue), (·.setVerifyTls (.bool c.verifyTls)), (·.setReadSize c.readSize.toValue)]

/-- Tells a session, up to what it does not take: the fault of that, if there is one, and the session so far. -/
def tell : List (Session → Except Fault Session) → Session → Option Fault × Session
  | [], s => (none, s)
  | step :: steps, s =>
    match step s with
    | .ok s => tell steps s
    | .error f => (some f, s)

/-- A session under settings, or why it does not take them. -/
def sessionFor (c : Settings) : Except Fault Session :=
  match tell (instructions c) {} with
  | (none, s) => .ok s
  | (some f, _) => .error f

/-- A new session that has been told the settings.  It is closed if it refuses one; any other fault leaves it half told. -/
def establish (c : Settings) (w : ν) : Option Fault × Session × ν :=
  match tell (instructions c) {} with
  | (some (.refused code reason), s) =>
    let (s, w) := s.close w
    (some (.refused code reason), s, w)
  | (f, s) => (f, s, w)

def unusable (message : String) (r : Reporter) : Except Fault Outcome × Reporter :=
  r.logFailure ⟨.connectionSetupFailed, some message⟩

/-- The outcome of making the session of a new connection, and the session as it is then.  `creation` is the fault that
keeps a session from being made at all. -/
def prepare (c : Settings) (creation : Option Fault) (r : Reporter) (w : ν) :
    Except Fault Outcome × Option Session × Reporter × ν :=
  match creation with
  | some f =>
    if f.isSystem then
      let (answer, r) := unusable "Failed to init transport session" r
      (answer, none, r, w)
    else (.error f, none, r, w)
  | none =>
    match establish c w with
    | (none, s, w) => (.ok .ok, some s, r, w)
    | (some (.refused _ reason), s, w) =>
      let (answer, r) := unusable ("Failed to set up transport session: " ++ reason) r
      (answer, some s, r, w)
    | (some f, s, w) => (.error f, some s, r, w)

def make (c : Settings) (creation : Option Fault) (r : Reporter) (w : ν) :
    Except Fault (Outcome × Option (Connection ν)) × Reporter :=
  match prepare c creation r w with
  | (.ok o, s, r, w) =>
    if o.isOk then (.ok (o, some { settings := c, session := s, reporter := r, network := w }), r) else (.ok (o, none), r)
  | (.error f, _, r, _) => (.error f, r)

/-! ## Reports -/

def report (o : Outcome) (r : Reporter) : Except Fault Answer × Reporter :=
  let (o, r) := r.logFailure o
  (o.map fun o => (o, []), r)

/-- A transfer that cannot be set up. -/
def setupFailed (reason : String) : Outcome := ⟨.connectionSetupFailed, some ("Transport setup failed: " ++ reason)⟩

/-- Reports that a primitive of the session refused its argument; no other fault comes from one. -/
def reportRefusal (f : Fault) (r : Reporter) : Except Fault Answer × Reporter :=
  match f with
  | .refused _ reason => report (setupFailed reason) r
  | f => (.error f, r)

/-! ## One transfer -/

/-- What a call takes down when it has a diagnosis under way and fails or breaks off. -/
def conclude (answer : Except Fault Answer) (d : Diagnosis) (s : Session) (r : Reporter) (w : ν) :
    Except Fault Answer × Session × Reporter × ν :=
  match d.finish s r with
  | (.ok (), _, s, r) => (answer, s, r, w)
  | (.error f, _, s, r) => (.error f, s, r, w)

/-- The receiver and the empty inbox of a call. -/
def ready (cap : Int) (s : Session) : Except Fault Session := do
  let s ← s.setReceiver (some (.capped cap Receiver.abort))
  let s ← s.setCollects true
  return { s with inbox := {} }

/-- The session no longer collects what it receives. -/
def settled (s : Session) : Session := { s with collects := false }

def judge (s : Session) (r : Reporter) : Except Fault Answer × Reporter :=
  match s.responseCode with
  | .error (.refused _ reason) =>
    report ⟨.connectionUnexpectedError, some ("Failed to read response code: " ++ reason)⟩ r
  | .error f => (.error f, r)
  | .ok n =>
    let o := Outcome.ofStatus n
    if o.isOk then (.ok (o, s.inbox.content), r) else report o r

def transferWith (cap : Int) (d : Diagnosis) (s : Session) (r : Reporter) (w : ν) :
    Except Fault Answer × Session × Reporter × ν :=
  match ready cap s with
  | .error f =>
    let (answer, r) := reportRefusal f r
    conclude answer d s r w
  | .ok s =>
    match s.perform w with
    | (.error f, s, w) => conclude (.error f) d (settled s) r w
    | (.ok code, s, w) =>
      let s := settled s
      if code == .ok then
        match d.finish s r with
        | (.error f, _, s, r) => (.error f, s, r, w)
        | (.ok (), _, s, r) =>
          let (answer, r) := judge s r
          (answer, s, r, w)
      else
        let (answer, r) := report (Outcome.ofTransfer code (d.text s)) r
        conclude answer d s r w

/-- One transfer to a URL, with the method and the header list that the session has been given. -/
def transfer (cap : Int) (url : Value) (s : Session) (r : Reporter) (w : ν) :
    Except Fault Answer × Session × Reporter × ν :=
  match s.setUrl url with
  | .error f =>
    let (answer, r) := reportRefusal f r
    (answer, s, r, w)
  | .ok s =>
    match Diagnosis.begin s r with
    | (.error (.unusable o _), s, r) => (.ok (o, []), s, r, w)
    | (.error f, s, r) => (.error f, s, r, w)
    | (.ok d, s, r) => transferWith cap d s r w

/-! ## Calls -/

def noUrl : Outcome := ⟨.invalidArg, some "url cannot be empty"⟩

def noBody : Outcome := ⟨.invalidArg, some "body must be str or bytes"⟩

/-- The bytes of a body: a text in UTF-8, or bytes as they are.  There are none of a body that is neither, and it is a
fault if UTF-8 cannot write the text. -/
def bodyBytes? : Body → Except Fault (Option Bytes)
  | .value (.text s) => .ok (some (Text.utf8 s.toList))
  | .value (.bytes b) => .ok (some b)
  | .value (.buffer b) => .ok (some b)
  | .value _ => .ok none
  | .points t =>
    match Text.utf8? t with
    | .ok b => .ok (some b)
    | .error run => .error (.unwritable run)

/-- The field that every posted body has. -/
def contentType : Value × Value := (.text "Content-Type", .text "application/json")

def answerWith (a : Except Fault Answer × Reporter) (c : Connection ν) : Except Fault Answer × Connection ν :=
  (a.1, { c with reporter := a.2 })

/-- Makes a step with the session; a closed connection has none. -/
def withSession (c : Connection ν)
    (step : Session → Reporter → ν → Except Fault Answer × Session × Reporter × ν) :
    Except Fault Answer × Connection ν :=
  match c.session with
  | none => c.answerWith (report (setupFailed "Connection is closed") c.reporter)
  | some s =>
    let (answer, s, r, w) := step s c.reporter c.network
    (answer, { c with session := some s, reporter := r, network := w })

/-- Sets the session up for a call with `options`, and goes on with `step`. -/
def configured (options : Session → Except Fault Session)
    (step : Session → Reporter → ν → Except Fault Answer × Session × Reporter × ν)
    (s : Session) (r : Reporter) (w : ν) : Except Fault Answer × Session × Reporter × ν :=
  match options s with
  | .error f =>
    let (answer, r) := reportRefusal f r
    (answer, s, r, w)
  | .ok s => step s r w

def get (url : Value) (c : Connection ν) : Except Fault Answer × Connection ν :=
  if !url.truth then c.answerWith (report noUrl c.reporter)
  else
    c.withSession <| configured (fun s => do (← s.setMethodGet).setHeaders none) (transfer c.settings.cap.toInt url)

def postWith (cap : Int) (url : Value) (s : Session) (r : Reporter) (w : ν) :
    Except Fault Answer × Session × Reporter × ν :=
  let (id, s) := s.newList
  let s := s.addFields id [contentType]
  match s.attach id with
  | .error f =>
    let (answer, r) := reportRefusal f r
    (answer, s.release id, r, w)
  | .ok s =>
    let (answer, s, r, w) := transfer cap url s r w
    (answer, s.release id, r, w)

/-- A header list that a call makes and that never comes to a session; it is released with the call. -/
def stray (l : HeaderList) (c : Connection ν) : Connection ν := { c with strays := c.strays ++ [l.release] }

/-- The header list of a post, with its field. -/
def contentList : HeaderList := (({} : HeaderList).add contentType.1 contentType.2).2

def post (url : Value) (body : Body) (c : Connection ν) : Except Fault Answer × Connection ν :=
  if !url.truth then c.answerWith (report noUrl c.reporter)
  else
    match bodyBytes? body with
    | .error f => (.error f, c)
    | .ok none => c.answerWith (report noBody c.reporter)
    | .ok (some b) =>
      if c.refusesFields then (c.stray {}).answerWith (report HeaderList.refusal c.reporter)
      else
        let c := if c.session.isSome then c else c.stray contentList
        c.withSession <| configured (·.setMethodPost (.bytes b)) (postWith c.settings.cap.toInt url)

/-- Closes the session and lets it go. -/
def close (c : Connection ν) : Connection ν :=
  match c.session with
  | none => c
  | some s => { c with session := none, network := (s.close c.network).2 }

/-- A step with the connection, which is closed however the step ends. -/
def thenClose {α : Type} (step : Connection ν → Except Fault α × Connection ν) (c : Connection ν) :
    Except Fault α × Connection ν :=
  let (answer, c) := step c
  (answer, c.close)

end Connection
end Transport
