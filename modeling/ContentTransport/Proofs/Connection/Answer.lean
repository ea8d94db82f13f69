import ContentTransport.Connection
import ContentTransport.Proofs.Session.Capped
/-!
# Answer — what a call makes of a reply

A call that a server answers with a message answers with the status of the message, and with its body if the status is a
success.  A body beyond the cap makes the call a failure, whatever the status.  How the network cuts the message into
reads, how the server frames the body, and how much of a read the session asks for make no difference.
-/
namespace Transport

open ScriptedNetwork
open Session (FilledWithin CollectsWithin Transmitted Sends)

namespace Connection

inductive Call
  | get (url : Value)
  | post (url : Value) (body : Body)

section

variable {ν : Type} [Network ν]

def call (k : Call) (c : Connection ν) : Except Fault Answer × Connection ν :=
  match k with
  | .get url => c.get url
  | .post url body => c.post url body

end

/-- What a failed call answers: no body, or the fault of a listener that breaks off on the report. -/
def failed (o : Outcome) (r : Reporter) : Except Fault Answer := r.listener.answer.map fun _ => (o, [])

theorem failed_of_taking {r : Reporter} (taking : r.listener.answer = .ok ()) (o : Outcome) :
    failed o r = .ok (o, []) := by
  unfold failed
  rw [taking]
  rfl

theorem report_fst (o : Outcome) (r : Reporter) : (report o r).1 = failed o r := by
  unfold report failed Reporter.logFailure Reporter.log
  cases r.listener.answer <;> rfl

/-- A reporter with more records. -/
def noting (new : List Record) (r : Reporter) : Reporter := { r with records := r.records ++ new }

theorem noting_nil (r : Reporter) : noting [] r = r := by
  unfold noting
  rw [List.append_nil]

theorem noting_noting (es fs : List Record) (r : Reporter) : noting fs (noting es r) = noting (es ++ fs) r := by
  unfold noting
  rw [List.append_assoc]

theorem report_eq (o : Outcome) (r : Reporter) :
    report o r = (failed o r, noting [⟨.error, o.report, r.hasListener⟩] r) := Prod.ext (report_fst o r) rfl

/-- Two steps that answer alike, and report alike. -/
def Unison (r r' : Reporter) (a a' : Except Fault Answer × Reporter) : Prop :=
  a.1 = a'.1 ∧ ∃ new, a.2 = noting new r ∧ a'.2 = noting new r'

theorem unison_silent (answer : Except Fault Answer) (r r' : Reporter) : Unison r r' (answer, r) (answer, r') :=
  ⟨rfl, [], (noting_nil r).symm, (noting_nil r').symm⟩

theorem report_unison {r r' : Reporter} (listener : r.listener = r'.listener) (o : Outcome) :
    Unison r r' (report o r) (report o r') := by
  rw [report_eq, report_eq]
  unfold failed Reporter.hasListener
  rw [listener]
  exact ⟨rfl, _, rfl, rfl⟩

/-- A complete transfer is judged by its status and its inbox alone. -/
theorem judge_unison {s t : Session} {r r' : Reporter} (code : s.responseCode = t.responseCode)
    (inbox : s.inbox = t.inbox) (listener : r.listener = r'.listener) : Unison r r' (judge s r) (judge t r') := by
  unfold judge
  rw [code, inbox]
  split
  · exact report_unison listener _
  · exact unison_silent _ r r'
  · dsimp only
    split
    · exact unison_silent _ r r'
    · exact report_unison listener _

/-- What a call answers to a message. -/
structure AnswersTo (m : Http.Message) (cap : Int) (r : Reporter) (answer : Except Fault Answer) : Prop where
  fits : (m.body.length : Int) ≤ cap →
    answer = if m.status = 200 then .ok (.ok, m.body) else failed (Outcome.ofStatus m.status) r
  exceeds : cap < (m.body.length : Int) → ∃ text, answer = failed ⟨.connectionUnexpectedError, some text⟩ r

section

variable {cap : Int} {m : Http.Message} {s : Session} {r : Reporter} {w : ScriptedNetwork}

def Sound (s : Session) : Prop := s.closed = false ∧ s.defects = {}

theorem ready_eq (h : Sound s) : ready cap s
    = .ok { s with receiver := some (.capped cap Receiver.abort), collects := true, inbox := {} } := by
  obtain ⟨hclosed, hdefects⟩ := h
  simp [ready, Session.setReceiver, Session.setCollects, Session.whenOpen, hclosed, hdefects, bind, Except.bind, pure,
    Except.pure]

theorem finish_eq {d : Diagnosis} (h : Sound s) (hd : d.isBound = true) (r : Reporter) :
    d.finish s r = (.ok (), { d with isBound := false }, { s with bound := none }, r) := by
  obtain ⟨hclosed, hdefects⟩ := h
  simp only [Diagnosis.finish, Diagnosis.unbind, hd, Session.bind, Session.whenSound, Session.whenOpen, hclosed, hdefects]
  rfl

theorem begin_eq (h : Sound s) (r : Reporter) :
    Diagnosis.begin s r = (.ok { buffer := s.buffers.length },
      { s with buffers := s.buffers ++ [Session.blankBuffer], bound := some s.buffers.length }, r) := by
  obtain ⟨hclosed, hdefects⟩ := h
  have hlength : Session.blankBuffer.length = Session.leastBuffer := List.length_replicate
  have hleast : Session.leastBuffer ≤ Session.blankBuffer.length := Nat.le_of_eq hlength.symm
  simp [Diagnosis.begin, Session.allocate, Session.bind, Session.whenSound, Session.whenOpen, hclosed, hdefects, hleast]

theorem setUrl_eq {text : String} {u : Url} (h : Sound s) (hp : Url.parse text = .ok u)
    (hs : Session.speaks u.origin.scheme = true) : s.setUrl (.text text) = .ok { s with url := some (text, u) } := by
  obtain ⟨hclosed, -⟩ := h
  simp [Session.setUrl, Session.whenOpen, hclosed, hp, hs]

theorem sound_perform {ν : Type} [Network ν] (h : Sound s) (w : ν) : Sound (s.perform w).2.1 := by
  have ho := Session.options_perform s w
  exact ⟨(Session.closed_of_options ho).trans h.1, (Session.defects_of_options ho).trans h.2⟩

/-- What a reply is answered by its status: its body, or a failure. -/
theorem answer_ofStatus (n : Nat) (body : Bytes) (r : Reporter) :
    (if (Outcome.ofStatus n).isOk then (.ok (Outcome.ofStatus n, body), r) else report (Outcome.ofStatus n) r).1
      = if n = 200 then .ok (.ok, body) else failed (Outcome.ofStatus n) r := by
  have hok := Outcome.ofStatus_isOk (n : Int)
  by_cases h200 : n = 200
  · have hcast : (n : Int) = 200 := by omega
    rw [if_pos (hok.2 hcast), if_pos h200, Outcome.ofStatus, if_pos hcast]
  · rw [if_neg (fun hyes => h200 (by have := hok.1 hyes; omega)), if_neg h200, report_fst]

theorem judge_fst {t : Session} (h : Sound t) (hstatus : t.status = some m.status) (hbody : t.inbox.content = m.body)
    (r : Reporter) :
    (judge t r).1 = if m.status = 200 then .ok (.ok, m.body) else failed (Outcome.ofStatus m.status) r := by
  obtain ⟨-, hdefects⟩ := h
  have hcode : t.responseCode = .ok m.status := by simp [Session.responseCode, hdefects, hstatus]
  unfold judge
  simp only [hcode, hbody]
  exact answer_ofStatus m.status m.body r

/-- **A transfer that a server answers with a message is answered as the message and the cap tell.** -/
theorem transferWith_message {d : Diagnosis} {text : String} {u : Url} (h : Sound s) (hd : d.isBound = true)
    (hurl : s.url = some (text, u)) (hopen : s.hasOpenStream w = false) (hs : s.Sends u)
    (hw : Answers (u.origin.scheme == "https") m.bytes w) (hcap : 0 ≤ cap) :
    AnswersTo m cap r (transferWith cap d s r w).1 ∧ FilledWithin cap m.letters (transferWith cap d s r w).2.1.inbox := by
  unfold transferWith
  rw [ready_eq h]
  dsimp only
  have hready : Sound { s with receiver := some (.capped cap Receiver.abort), collects := true, inbox := {} } := h
  have hsound := sound_perform hready w
  obtain ⟨hfilled, hwhole, hexcess⟩ := Session.perform_message
    (s := { s with receiver := some (.capped cap Receiver.abort), collects := true, inbox := {} }) h.1 hurl hopen hs hw
    ⟨rfl, rfl⟩ hcap rfl
  generalize Session.perform _ w = a at hsound hfilled hwhole hexcess
  obtain ⟨code, t, w'⟩ := a
  dsimp only at hsound hfilled hwhole hexcess
  have hsettled : Sound (settled t) := hsound
  by_cases hle : (m.body.length : Int) ≤ cap
  · obtain ⟨rfl, hstatus, hbody⟩ := hwhole hle
    have hunbound : Sound { settled t with bound := none } := hsound
    simp only [finish_eq hsettled hd, BEq.rfl, if_true]
    refine ⟨⟨fun _ => judge_fst hunbound hstatus hbody r, fun hlt => ?_⟩, hfilled⟩
    omega
  · obtain rfl := hexcess (Int.not_le.1 hle)
    have hno : (TransferCode.writeError == TransferCode.ok) = false := rfl
    simp only [hno, Bool.false_eq_true, if_false, conclude, finish_eq hsettled hd]
    refine ⟨⟨fun h => absurd h hle, fun _ => ⟨_, report_fst _ r⟩⟩, hfilled⟩

theorem transfer_message {text : String} {u : Url} (h : Sound s) (hparse : Url.parse text = .ok u)
    (hspeaks : Session.speaks u.origin.scheme = true) (hopen : s.hasOpenStream w = false) (hs : s.Sends u)
    (hw : Answers (u.origin.scheme == "https") m.bytes w) (hcap : 0 ≤ cap) :
    AnswersTo m cap r (transfer cap (.text text) s r w).1
      ∧ FilledWithin cap m.letters (transfer cap (.text text) s r w).2.1.inbox := by
  have hsound : Sound { s with url := some (text, u) } := h
  unfold transfer
  rw [setUrl_eq h hparse hspeaks]
  dsimp only
  rw [begin_eq hsound]
  exact transferWith_message hsound rfl rfl hopen hs hw hcap

/-! ## Calls -/

/-- A URL that a session accepts and a request can name. -/
structure Requestable (text : String) (u : Url) : Prop where
  parses : Url.parse text = .ok u
  speaks : Session.speaks u.origin.scheme = true
  writable : Http.Request.Writable u.origin.hostField u.target

/-- A text that is understood as a URL is not empty. -/
theorem truth_of_parses {text : String} {u : Url} (h : Url.parse text = .ok u) : (Value.text text).truth = true := by
  have hne : text ≠ "" := by
    rintro rfl
    have hno : Url.parse "" = .error (.noScheme "") := by rfl
    rw [hno] at h
    cases h
  simpa [Value.truth] using hne

theorem Requestable.truth {text : String} {u : Url} (h : Requestable text u) : (Value.text text).truth = true :=
  truth_of_parses h.parses

/-- A call to a URL, with a body whose length a request can declare. -/
inductive Requests (text : String) : Call → Prop
  | get : Requests text (.get (.text text))
  | post {body : Body} {b : Bytes} (bytes : bodyBytes? body = .ok (some b))
    (short : (Bytes.decimal b.length).length ≤ 20) : Requests text (.post (.text text) body)

theorem get_message {text : String} {u : Url} (h : Sound s) (hu : Requestable text u)
    (hopen : s.hasOpenStream w = false) (hw : Answers (u.origin.scheme == "https") m.bytes w) (hcap : 0 ≤ cap) :
    let a := configured (fun s => do (← s.setMethodGet).setHeaders none) (transfer cap (.text text)) s r w
    AnswersTo m cap r a.1 ∧ FilledWithin cap m.letters a.2.1.inbox := by
  have hset : (do (← s.setMethodGet).setHeaders none : Except Fault Session)
      = .ok { s with method := .get, body := [], attached := none } := by
    simp [Session.setMethodGet, Session.setHeaders, Session.whenOpen, h.1, bind, Except.bind]
  have hsound : Sound { s with method := .get, body := [], attached := none } := h
  have hsends : Sends u { s with method := .get, body := [], attached := none } :=
    Http.Request.write_get hu.writable rfl rfl rfl
  unfold configured
  simp only [hset]
  exact transfer_message hsound hu.parses hu.speaks hopen hsends hw hcap

/-- The field that every posted body has, as a request writes it. -/
def contentLine : Http.Field := ⟨Bytes.ofText "Content-Type", Bytes.ofText "application/json"⟩

theorem field?_contentType : HeaderList.field? contentType.1 contentType.2 = some contentLine := by decide +kernel

theorem contentLine_ok : Http.checkField contentLine = .ok () ∧ contentLine.frames = false
    ∧ contentLine.isNamed "host" = false := by
  refine ⟨Http.Request.checkField_ok ?_ ?_, ?_, ?_⟩ <;> decide +kernel

/-- The session with a new header list attached, which holds the one field. -/
def posting (s : Session) : Session :=
  { s with lists := s.lists ++ [⟨some [contentLine], true, 0⟩], attached := some s.lists.length }

theorem attach_eq (h : s.closed = false) :
    (s.newList.2.addFields s.lists.length [contentType]).attach s.lists.length = .ok (posting s) := by
  have hadd : s.newList.2.addFields s.lists.length [contentType]
      = { s with lists := s.lists ++ [⟨some [contentLine], false, 0⟩] } := by
    simp [Session.addFields, Session.addField, Session.list?, HeaderList.add, field?_contentType, Session.putList,
      Session.newList]
  rw [hadd]
  simp [Session.attach, Session.setHeaders, Session.whenOpen, h, bind, Except.bind, pure, Except.pure, posting,
    List.modify_eq_take_drop]

theorem release_inbox (id : ListId) (s : Session) : (s.release id).inbox = s.inbox := by
  unfold Session.release
  split <;> rfl

theorem post_message {text : String} {u : Url} {b : Bytes} (h : Sound s) (hu : Requestable text u)
    (hb : (Bytes.decimal b.length).length ≤ 20) (hopen : s.hasOpenStream w = false)
    (hw : Answers (u.origin.scheme == "https") m.bytes w) (hcap : 0 ≤ cap) :
    let a := configured (·.setMethodPost (.bytes b)) (postWith cap (.text text)) s r w
    AnswersTo m cap r a.1 ∧ FilledWithin cap m.letters a.2.1.inbox := by
  have hset : s.setMethodPost (.bytes b) = .ok { s with method := .post, body := b } := by
    simp [Session.setMethodPost, Session.whenOpen, h.1, Value.bytes?]
  have hsound : Sound (posting { s with method := .post, body := b }) := h
  have hfields : (posting { s with method := .post, body := b }).extraFields = [contentLine] := by
    simp [Session.extraFields, posting, HeaderList.fields]
  have hsends : Sends u (posting { s with method := .post, body := b }) := by
    refine Http.Request.write_post hu.writable rfl (fun f hf => ?_) hb
    have hmem : f ∈ (posting { s with method := .post, body := b }).extraFields := hf
    rw [hfields, List.mem_singleton] at hmem
    exact hmem ▸ contentLine_ok
  have hpost := transfer_message (r := r) hsound hu.parses hu.speaks hopen hsends hw hcap
  unfold configured postWith
  simp only [hset]
  have hattach := attach_eq (s := { s with method := .post, body := b }) h.1
  simp only [Session.newList] at hattach ⊢
  simp only [hattach, release_inbox]
  exact hpost

end

/-- A connection that is open, does what it is told, and has no open stream. -/
structure Idle (s : Session) (c : Connection ScriptedNetwork) : Prop where
  session : c.session = some s
  sound : Sound s
  takesFields : c.refusesFields = false
  unlinked : s.hasOpenStream c.network = false

/-- **A body arrives whole, or not at all.**  A call to a server that answers with a message gives the outcome of its
status, with exactly its body if that is 200, unless the body exceeds the cap: then the call is a failure without a
body.  The inbox never holds more than the cap. -/
theorem body_whole_or_refused {c : Connection ScriptedNetwork} {s : Session} {k : Call} {text : String} {u : Url}
    {m : Http.Message} (hc : c.Idle s) (hk : Requests text k) (hu : Requestable text u)
    (hw : Answers (u.origin.scheme == "https") m.bytes c.network) :
    AnswersTo m c.settings.cap.toInt c.reporter (c.call k).1
      ∧ ∃ t, (c.call k).2.session = some t ∧ FilledWithin c.settings.cap.toInt m.letters t.inbox := by
  have htruth := hu.truth
  cases hk with
  | get =>
    obtain ⟨hanswer, hfilled⟩ := get_message (r := c.reporter) hc.sound hu hc.unlinked hw c.settings.cap_nonneg
    simp only [call, get, htruth, withSession, hc.session, Bool.not_true, Bool.false_eq_true, if_false]
    exact ⟨hanswer, _, rfl, hfilled⟩
  | @post body b bytes short =>
    obtain ⟨hanswer, hfilled⟩ := post_message (r := c.reporter) hc.sound hu short hc.unlinked hw c.settings.cap_nonneg
    simp only [call, post, htruth, withSession, hc.session, bytes, hc.takesFields, Option.isSome_some, Bool.not_true,
      Bool.false_eq_true, if_false, if_true]
    exact ⟨hanswer, _, rfl, hfilled⟩

section

open Http

/-! A reply that tells the client to go on, and then comes in two chunks, one of them with an extension. -/

def codingLine : FieldLine :=
  ⟨⟨Bytes.ofText "Transfer-Encoding", Bytes.ofText "Chunked"⟩, [Bytes.space], [], by decide, by decide, rfl, rfl⟩

def goOn : HeadBlock where
  version := (49, 49)
  status := 100
  reason := some (Bytes.ofText "Continue")
  fields := []
  framing := .untilEnd
  version_isDigit := by decide
  status_three := by decide
  reason_isLine := by decide
  declares := .untilEnd nofun
  short := by decide +kernel

def success : HeadBlock where
  version := (49, 49)
  status := 200
  reason := none
  fields := [codingLine]
  framing := .chunked
  version_isDigit := by decide
  status_three := by decide
  reason_isLine := by decide
  declares := @Declares.chunked [] [] codingLine.field nofun (by decide) (by decide)
  short := by decide +kernel

def chunkLine (digits extension : String) (h : (Bytes.ofText digits).all Bytes.isHex = true)
    (hs : Bytes.ofText digits ≠ []) (hf : (Bytes.ofText digits).length ≤ Reader.mostChunkDigits)
    (he : (Bytes.ofText extension).all Bytes.isInline = true ∨ (Bytes.ofText extension).head? = some 59)
    (hl : (Bytes.ofText extension).all isLineByte = true)
    (hlen : (Bytes.ofText digits).length + (Bytes.ofText extension).length + 2 ≤ Reader.longest) : ChunkLine :=
  ⟨Bytes.ofText digits, Bytes.ofText extension, h, hs, hf, he, hl, hlen⟩

def hello : ChunkedBody where
  chunks := [⟨chunkLine "3" ";a=b" (by decide) (by decide) (by decide) (by decide) (by decide) (by decide),
      Bytes.ofText "hel", by decide, by decide⟩,
    ⟨chunkLine "02" "" (by decide) (by decide) (by decide) (by decide) (by decide) (by decide),
      Bytes.ofText "lo", by decide, by decide⟩]
  last := chunkLine "0" "" (by decide) (by decide) (by decide) (by decide) (by decide) (by decide)
  trailer := []
  framing := .untilEnd
  last_size := by decide
  declares := .untilEnd nofun
  short := by decide

def greeting : Message where
  informing := [goOn]
  head := success
  content := .chunked hello
  informs := by decide
  isFinal := by decide
  fits := trivial
  bodiless := nofun

/-- A connection that takes five bytes, to a network that gives one byte with each read. -/
def narrow : Connection ScriptedNetwork where
  settings := ⟨.whole 1, .number 5, true, .number 7, by decide, by decide⟩
  session := some { readSize := 7, readSize_pos := by decide }
  reporter := {}
  network := { replies := [⟨greeting.bytes, some 1, none⟩] }

theorem narrow_takes_hello :
    Answers true greeting.bytes narrow.network
      ∧ (narrow.call (.post (.text "https://h/p") (.value (.text "b")))).1 = .ok (.ok, Bytes.ofText "hello") := by
  have hw : Answers true greeting.bytes narrow.network :=
    ⟨rfl, fun _ => rfl, nofun, some 1, [], rfl, fun l hl => by cases hl; decide⟩
  have hu : Requestable "https://h/p" ⟨⟨"https", "h", 443⟩, "/p"⟩ :=
    ⟨by rfl, by decide, Bytes.ofText "h", Bytes.ofText "/p", by rfl, by decide, by rfl, by decide⟩
  have hc : narrow.Idle { readSize := 7, readSize_pos := by decide } := ⟨rfl, ⟨rfl, rfl⟩, rfl, rfl⟩
  have hbody : bodyBytes? (.value (.text "b")) = .ok (some (Bytes.ofText "b")) := rfl
  exact ⟨hw, (body_whole_or_refused hc (.post hbody (by decide +kernel)) hu hw).1.fits (by decide)⟩

end

end Connection
end Transport
