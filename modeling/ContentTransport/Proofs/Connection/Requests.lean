import ContentTransport.Proofs.Connection.Calls
import ContentTransport.Proofs.Connection.Making
import ContentTransport.Proofs.Session.Reuse
import ContentTransport.Proofs.Session.Written
/-!
# Requests — a request says what its call gives, and nothing else

What a call writes is determined by the call alone, whatever calls came before it and however they ended
(`requests_are_their_own`).  Its lines are those that a get or a post has, one for each, so that no URL adds a line or a
second request; behind the blank line stands the body as it was given.  A call that comes to a status has written the
whole of that.
-/
namespace Transport

open ScriptedNetwork

namespace Connection

open Http (crlf Unbroken)

/-! ## The text of a request -/

/-- The lines of the head of a request, which has a body if it is a post. -/
def headLines (host target : Bytes) : Option Bytes → List Bytes
  | none => [Bytes.ofText "GET " ++ target ++ Bytes.ofText " HTTP/1.1", Bytes.ofText "Host: " ++ host]
  | some b => [Bytes.ofText "POST " ++ target ++ Bytes.ofText " HTTP/1.1", Bytes.ofText "Host: " ++ host,
      Bytes.ofText "Content-Type: application/json", Bytes.ofText "Content-Length: " ++ Bytes.decimal b.length]

/-- The head of a request: its lines, and a blank one. -/
def headText (host target : Bytes) (body : Option Bytes) : Bytes :=
  (headLines host target body).flatMap (· ++ crlf) ++ crlf

/-- The writes of a request: its head, and then its body if that is not empty. -/
def requestText (host target : Bytes) (body : Option Bytes) : List Bytes :=
  headText host target body :: body.toList.filter (!·.isEmpty)

theorem unbroken_headLines {host target : Bytes} (hhost : Http.isFieldValue host = true)
    (htarget : target.all (fun b => 0x21 ≤ b && b ≤ 0x7e) = true) (body : Option Bytes) :
    ∀ line ∈ headLines host target body, Unbroken line := by
  have hhost : Unbroken host := Http.unbroken_of_isFieldValue hhost
  have htarget : Unbroken target := Http.unbroken_of_all htarget rfl rfl
  have hdecimal (n : Nat) : Unbroken (Bytes.decimal n) := Http.unbroken_of_all (Bytes.all_isDigit_decimal n) rfl rfl
  have htext {text : String} (h : (Bytes.ofText text).all (fun b => 0x20 ≤ b) = true) : Unbroken (Bytes.ofText text) :=
    Http.unbroken_of_all h rfl rfl
  have hlast : Unbroken (Bytes.ofText " HTTP/1.1") := htext (by decide)
  have hname : Unbroken (Bytes.ofText "Host: " ++ host) := (htext (by decide)).append hhost
  intro line hline
  cases body with
  | none =>
    simp only [headLines, List.mem_cons, List.not_mem_nil, or_false] at hline
    rcases hline with rfl | rfl
    · exact ((htext (by decide)).append htarget).append hlast
    · exact hname
  | some b =>
    simp only [headLines, List.mem_cons, List.not_mem_nil, or_false] at hline
    rcases hline with rfl | rfl | rfl | rfl
    · exact ((htext (by decide)).append htarget).append hlast
    · exact hname
    · exact htext (by decide)
    · exact (htext (by decide)).append (hdecimal _)

/-- The host and the target of a URL, as a request writes them. -/
structure Addressed (u : Url) (host target : Bytes) : Prop where
  host : HostName.toAscii u.origin.hostField.toList = .ok host
  target : Bytes.ascii? u.target.toList = some target

section

variable {u : Url} {body : Option Bytes} {host target : Bytes}

theorem ascii?_of_targetBytes {text : List Char} (h : Http.targetBytes text = .ok target) :
    Bytes.ascii? text = some target := by
  unfold Http.targetBytes at h
  split at h
  · rename_i hascii
    cases h
    exact hascii
  · cases h

theorem line_hostLine (host : Bytes) : (Http.Request.hostLine host).line = Bytes.ofText "Host: " ++ host ++ Http.crlf := by
  have hname : Bytes.ofText "Host: " = Bytes.ofText "Host" ++ Bytes.ofText ": " := by decide
  rw [hname]
  rfl

theorem line_lengthLine (b : Bytes) : (Http.Request.lengthLine b).line
    = Bytes.ofText "Content-Length: " ++ Bytes.decimal b.length ++ Http.crlf := by
  have hname : Bytes.ofText "Content-Length: " = Bytes.ofText "Content-Length" ++ Bytes.ofText ": " := by decide
  rw [hname]
  rfl

theorem line_contentLine : contentLine.line = Bytes.ofText "Content-Type: application/json" ++ Http.crlf := by decide

theorem head_get (host target : Bytes) :
    Http.headBytes .get target [Http.Request.hostLine host] = headText host target none := by
  have hmethod : Bytes.ofText "GET " = Bytes.ofText Http.Method.get.text ++ [Bytes.space] := by decide
  rw [Http.Request.headBytes_host .get target host (List.forall_mem_nil _), line_hostLine, ← hmethod]
  simp only [headText, headLines, List.flatMap_cons, List.flatMap_nil, List.append_assoc, List.append_nil]

theorem head_post (host target b : Bytes) :
    Http.headBytes .post target (Http.Request.postFields host [contentLine] b) = headText host target (some b) := by
  have hmethod : Bytes.ofText "POST " = Bytes.ofText Http.Method.post.text ++ [Bytes.space] := by decide
  have hothers : ∀ f ∈ [contentLine, Http.Request.lengthLine b], f.isNamed "host" = false := by
    intro f hf
    simp only [List.mem_cons, List.not_mem_nil, or_false] at hf
    rcases hf with rfl | rfl
    · exact contentLine_ok.2.2
    · exact Http.not_named_of_named (Http.Request.lengthLine_isNamed b) (by decide)
  have hfields : Http.Request.postFields host [contentLine] b
      = Http.Request.hostLine host :: [contentLine, Http.Request.lengthLine b] := rfl
  rw [hfields, Http.Request.headBytes_host .post target host hothers, line_hostLine, ← hmethod]
  simp only [headText, headLines, List.flatMap_cons, List.flatMap_nil, line_contentLine, line_lengthLine,
    List.append_assoc, List.append_nil]

/-- **What is written of a request that passes is its text.** -/
theorem written_requested {fields : List Http.Field} (h : (requested u body).Passed host target fields) :
    ((requested u body).written target fields).pieces = requestText host target body
      ∧ Http.isFieldValue host = true := by
  cases body with
  | none =>
    obtain ⟨rfl, hvalue⟩ := h.get rfl rfl
    refine ⟨?_, hvalue⟩
    rw [Http.Request.pieces_written rfl rfl, requestText, ← head_get]
    rfl
  | some b =>
    have hplain : ∀ f ∈ [contentLine], Http.checkField f = .ok () ∧ f.frames = false := by
      intro f hf
      rw [List.mem_singleton.1 hf]
      exact ⟨contentLine_ok.1, contentLine_ok.2.1⟩
    obtain ⟨hfields, hvalue⟩ := h.post rfl hplain
    obtain rfl : fields = Http.Request.postFields host [contentLine] b := hfields
    have hframing : Http.isChunked (Http.Request.postFields host [contentLine] b) = false
        ∧ (Http.contentLength? (Http.Request.postFields host [contentLine] b)).getD 0 = b.length :=
      Http.Request.framing_post host b fun f hf => (hplain f hf).2
    refine ⟨?_, hvalue⟩
    rw [requestText, ← head_post]
    exact Http.Request.pieces_written (r := requested u (some b)) hframing.1 hframing.2

/-- The pieces of the request of a call are its text, unless it is refused. -/
theorem pieces_requested {s : Session} (h : s.request u = requested u body) (hne : s.pieces u ≠ []) :
    ∃ host target, Addressed u host target ∧ s.pieces u = requestText host target body
      ∧ ∀ line ∈ headLines host target body, Unbroken line := by
  cases hw : (s.request u).write with
  | error f => exact absurd (Session.pieces_of_error hw) hne
  | ok out =>
    obtain ⟨host, target, fields, hpassed, rfl⟩ := Http.Request.passed_of_write hw
    have hpieces := Session.pieces_of_ok hw
    rw [h] at hpassed hpieces
    obtain ⟨htext, hvalue⟩ := written_requested hpassed
    refine ⟨host, target, ⟨?_, ?_⟩, hpieces.trans htext, unbroken_headLines hvalue hpassed.graphic body⟩
    · cases body <;> exact hpassed.hostText
    · cases body <;> exact ascii?_of_targetBytes hpassed.targetText

/-! ## What a call writes -/

/-- What a call writes, if its URL and its body are these and it comes to such a status.  It writes nothing, or else to
each stream a beginning of the text of its request; and if it comes to a status, then the whole text last. -/
inductive Requested (u : Url) (body : Option Bytes) (status : Option Nat) (es : List WireEvent) : Prop
  | unwritten (quiet : Unwritten es) (silent : status = none)
  | written {host target : Bytes} (addressed : Addressed u host target)
    (unbroken : ∀ line ∈ headLines host target body, Unbroken line)
    (within : ∀ id, (WireEvent.writesTo id es).map Prod.fst <+: requestText host target body)
    (whole : status ≠ none → WrittenLast (requestText host target body) es ∨ Falters es)

/-- What a transfer adds to the record, if it makes the request of a call. -/
structure Wired (u : Url) (body : Option Bytes) (status : Option Nat) (w w' : Recorded ScriptedNetwork)
    (es : List WireEvent) : Prop where
  wire : w'.wire = w.wire ++ es
  requested : Requested u body status es
  faultless : Unfaulted w.network → Unfaulted w'.network ∧ Unfailing es

theorem perform_wired {s : Session} {w : Recorded ScriptedNetwork} {text : String} (steady : Scene.Steady ⟨s, w⟩)
    (opened : s.closed = false) (url : s.url = some (text, u)) (request : s.request u = requested u body) :
    ∃ es, Wired u body (s.perform w).2.1.status w (s.perform w).2.2 es := by
  obtain ⟨es, hwire, houtcome, hfaultless⟩ := Session.perform_wrote (w := w) opened url
  have hwired : (Scene.mk s w).wired = es := Scene.wired_eq hwire
  have honce (id : StreamId) : (WireEvent.writesTo id es).map Prod.fst <+: s.pieces u :=
    hwired ▸ steady.transferred.once text u id url
  refine ⟨es, hwire, ?_, hfaultless⟩
  -- a request that is refused has no pieces: nothing is written for it, and so it comes to no status
  by_cases hrefused : s.pieces u = []
  · have hquiet : Unwritten es := by
      refine unwritten_of_none fun id => ?_
      have hnone := honce id
      rw [hrefused] at hnone
      exact List.map_eq_nil_iff.1 (List.prefix_nil.1 hnone)
    refine .unwritten hquiet ?_
    rcases houtcome with ⟨hne, -⟩ | ⟨id, p, f, before, after, rfl, -⟩ | ⟨hstatus, -⟩
    · exact absurd hrefused hne
    · exact absurd (by simp) (hquiet id p (.error f))
    · exact hstatus
  · obtain ⟨host, target, haddressed, hpieces, hunbroken⟩ := pieces_requested request hrefused
    rw [hpieces] at honce houtcome
    refine .written haddressed hunbroken honce fun hstatus => ?_
    rcases houtcome with hwhole | hfalters | ⟨hnone, -⟩
    · exact .inl hwhole
    · exact .inr hfalters
    · exact absurd hnone hstatus

end

/-! ## A run of calls -/

/-- What is done with a connection, or with the script of its network. -/
inductive Use
  | call (k : Call)
  | close
  | reply (r : Reply)
  | connectFault (f : NetworkFault)
  | tlsFault (f : NetworkFault)
  | writeFault (f : Option NetworkFault)
  | reset

section

variable {c : Connection (Recorded ScriptedNetwork)} {k : Call}

def scripted (f : ScriptedNetwork → ScriptedNetwork) (c : Connection (Recorded ScriptedNetwork)) :
    Connection (Recorded ScriptedNetwork) :=
  { c with network := { c.network with network := f c.network.network } }

def after (c : Connection (Recorded ScriptedNetwork)) : Use → Connection (Recorded ScriptedNetwork)
  | .call k => (c.call k).2
  | .close => c.close
  | .reply r => c.scripted (.queueReply r)
  | .connectFault f => c.scripted (.queueConnectFault f)
  | .tlsFault f => c.scripted (.queueTlsFault f)
  | .writeFault f => c.scripted (.queueWriteFault f)
  | .reset => c.scripted .reset

def used (uses : List Use) (c : Connection (Recorded ScriptedNetwork)) : Connection (Recorded ScriptedNetwork) :=
  uses.foldl after c

/-- The status of the last transfer, if the connection is open and the transfer got that far. -/
def status? (c : Connection (Recorded ScriptedNetwork)) : Option Nat := c.session.bind (·.status)

/-- What holds between two uses. -/
structure Orderly (c : Connection (Recorded ScriptedNetwork)) : Prop where
  takesFields : c.refusesFields = false
  sound : ∀ s, c.session = some s → Sound s
  steady : ∀ s, c.session = some s → Scene.Steady ⟨s, c.network⟩

theorem Orderly.scripted (h : Orderly c) {f : ScriptedNetwork → ScriptedNetwork}
    (streams : (f c.network.network).streams = c.network.network.streams) : Orderly (c.scripted f) where
  takesFields := h.takesFields
  sound := h.sound
  steady s hs := (h.steady s hs).same rfl rfl streams

theorem Orderly.close (h : Orderly c) : Orderly c.close := by
  unfold Connection.close
  split
  · exact h
  · refine ⟨h.takesFields, fun s hs => ?_, fun s hs => ?_⟩
    · cases hs
    · cases hs

/-- What a call adds to the record, between two states of a connection. -/
structure Spoken (k : Call) (c d : Connection (Recorded ScriptedNetwork)) (es : List WireEvent) : Prop where
  wire : d.network.wire = c.network.wire ++ es
  requested : ∀ text u body, k.Accepted text u body → Requested u body d.status? es
  refused : (∀ text u body, ¬k.Accepted text u body) → es = []
  faultless : Unfaulted c.network.network → Unfaulted d.network.network ∧ Unfailing es

theorem Orderly.call_closed (h : Orderly c) (hc : c.session = none) (k : Call) :
    Orderly (c.call k).2 ∧ ∃ es, Spoken k c (c.call k).2 es := by
  obtain ⟨hsession, hnetwork, hfields⟩ := Connection.call_closed hc k
  have hquiet : Unwritten [] := fun _ _ _ hm => nomatch hm
  constructor
  · refine ⟨hfields.trans h.takesFields, fun s hs => ?_, fun s hs => ?_⟩
    · rw [hsession] at hs
      cases hs
    · rw [hsession] at hs
      cases hs
  · refine ⟨[], by rw [hnetwork, List.append_nil], fun text u body _ => .unwritten hquiet ?_, fun _ => rfl,
      fun hcalm => ⟨?_, ?_⟩⟩
    · rw [status?, hsession]
      rfl
    · rwa [hnetwork]
    · exact hquiet.unfailing

theorem Orderly.of_called (h : Orderly c) {s t : Session} {d : Connection (Recorded ScriptedNetwork)}
    (fields : d.refusesFields = false) (hc : c.session = some s) (hd : d.session = some t)
    (called : Called k s c.network t d.network) : Orderly d ∧ ∃ es, Spoken k c d es := by
  have hsound := h.sound s hc
  have hsteady := h.steady s hc
  have hstatus : d.status? = t.status := by rw [status?, hd]; rfl
  have horderly (sound : Sound t) (steady : Scene.Steady ⟨t, d.network⟩) : Orderly d := by
    refine ⟨fields, fun t' ht => ?_, fun t' ht => ?_⟩
    · cases hd.symm.trans ht
      exact sound
    · cases hd.symm.trans ht
      exact steady
  generalize hw : d.network = w at called horderly
  cases called with
  | refused hno same =>
    refine ⟨horderly (hsound.same same) (hsteady.same same.link rfl rfl), [], ?_, ?_, fun _ => rfl, ?_⟩
    · rw [hw, List.append_nil]
    · intro text u body accepted
      exact absurd accepted (hno text u body)
    · intro hcalm
      exact ⟨hw ▸ hcalm, fun id p f hm => nomatch hm⟩
  | @made text u body t' t accepted same url request left status =>
    have hsteady : Scene.Steady ⟨t', c.network⟩ := hsteady.same same.link rfl rfl
    have hsound := hsound.same same
    have hperformed := hsteady.after .perform
    refine ⟨horderly ((sound_perform hsound _).same left) (hperformed.same left.link rfl rfl), ?_⟩
    -- the transfer is one of a session that may hold anything that earlier calls have set, but its request is that of `k`
    obtain ⟨es, hwire, hrequested, hfaultless⟩ := perform_wired hsteady hsound.1 url request
    refine ⟨es, hw ▸ hwire, fun text' u' body' accepted' => ?_, fun hno => ?_, hw ▸ hfaultless⟩
    · obtain ⟨-, rfl, rfl⟩ := accepted.unique accepted'
      rw [hstatus, status]
      exact hrequested
    · exact absurd accepted (hno text u body)

theorem Orderly.call (h : Orderly c) (k : Call) : Orderly (c.call k).2 ∧ ∃ es, Spoken k c (c.call k).2 es := by
  cases hc : c.session with
  | none => exact h.call_closed hc k
  | some s =>
    obtain ⟨hfields, t, hsession, hcalled⟩ := called hc (h.sound s hc) h.takesFields k
    exact h.of_called hfields hc hsession hcalled

theorem unfaulted_close (hcalm : Unfaulted c.network.network) : Unfaulted c.close.network.network := by
  unfold Connection.close
  split
  · exact hcalm
  · unfold Session.close
    split
    · exact hcalm
    · exact Session.unfaulted_drop hcalm _

theorem unfaulted_queue {w : ScriptedNetwork} {f : Option NetworkFault} (hcalm : Unfaulted w) (hf : f = none) :
    Unfaulted (w.queueWriteFault f) := by
  intro g hg
  rcases List.mem_append.1 hg with hg | hg
  · exact hcalm g hg
  · rw [List.mem_singleton.1 hg, hf]

/-- A use keeps the connection in order, and only a fault of a write brings one into the script. -/
theorem Orderly.after (h : Orderly c) (x : Use) : Orderly (c.after x)
    ∧ ((∀ f, x ≠ .writeFault (some f)) → Unfaulted c.network.network → Unfaulted (c.after x).network.network) := by
  cases x with
  | call k =>
    obtain ⟨horderly, es, hspoken⟩ := h.call k
    exact ⟨horderly, fun _ hcalm => (hspoken.faultless hcalm).1⟩
  | close => exact ⟨h.close, fun _ hcalm => unfaulted_close hcalm⟩
  | reply r => exact ⟨h.scripted rfl, fun _ hcalm => hcalm⟩
  | connectFault f => exact ⟨h.scripted rfl, fun _ hcalm => hcalm⟩
  | tlsFault f => exact ⟨h.scripted rfl, fun _ hcalm => hcalm⟩
  | writeFault f =>
    refine ⟨h.scripted rfl, fun hf hcalm => unfaulted_queue hcalm ?_⟩
    cases f with
    | none => rfl
    | some f => exact absurd rfl (hf f)
  | reset => exact ⟨h.scripted rfl, fun _ hcalm => hcalm⟩

theorem orderly_used (h : Orderly c) (uses : List Use) : Orderly (c.used uses)
    ∧ ((∀ f, .writeFault (some f) ∉ uses) → Unfaulted c.network.network → Unfaulted (c.used uses).network.network) := by
  induction uses generalizing c with
  | nil => exact ⟨h, fun _ hcalm => hcalm⟩
  | cons x uses ih =>
    obtain ⟨hafter, hcalm⟩ := h.after x
    obtain ⟨hused, hcalm'⟩ := ih hafter
    refine ⟨hused, fun hno hw => hcalm' (fun f hf => hno f (List.mem_cons_of_mem x hf)) (hcalm (fun f hf => ?_) hw)⟩
    exact hno f (hf ▸ List.mem_cons_self)

/-- A session that has just been made differs from a new one in nothing but its settings. -/
theorem sameStream_sessionFor {settings : Settings} {s : Session} (h : sessionFor settings = .ok s) :
    Session.SameStream Scene.new.session s := by
  obtain ⟨t, v, htimeout, hverify, hsize⟩ := sessionFor_steps h
  have hfirst := Session.sameStream_apply (x := .timeout settings.timeout.toValue) htimeout
  have hsecond := Session.sameStream_apply (x := .verifyTls (.bool settings.verifyTls)) hverify
  exact (hfirst.trans hsecond).trans (Session.sameStream_apply (x := .readSize settings.readSize.toValue) hsize)

theorem sound_sessionFor {settings : Settings} {s : Session} (h : sessionFor settings = .ok s) : Sound s :=
  (show Sound Scene.new.session from ⟨rfl, rfl⟩).same (sameStream_sessionFor h)

theorem orderly_of_make {settings : Settings} {creation : Option Fault} {r : Reporter} {o : Outcome}
    (made : (make settings creation r ({ network := {} } : Recorded ScriptedNetwork)).1 = .ok (o, some c)) :
    Orderly c ∧ c.network = { network := {} } := by
  obtain ⟨s, hs, rfl⟩ := make_ok made
  refine ⟨⟨rfl, fun t ht => ?_, fun t ht => ?_⟩, rfl⟩
  · cases ht
    exact sound_sessionFor hs
  · cases ht
    exact (Scene.steady_run []).same (sameStream_sessionFor hs).link rfl rfl

/-- **A request says what its call gives, and nothing else.**  Whatever has been done with a connection before, a call
that is accepted writes to each stream a beginning of the text of its own request, one line for each line that the text
has; and if it comes to a status, then the whole text last, to one stream.  The one way around that is a last write that
fails, which takes a fault of a write in the script.  A call that is not accepted writes nothing. -/
theorem requests_are_their_own {settings : Settings} {creation : Option Fault} {r : Reporter} {o : Outcome}
    (made : (make settings creation r ({ network := {} } : Recorded ScriptedNetwork)).1 = .ok (o, some c))
    (uses : List Use) (k : Call) : ∃ es, ((c.used uses).call k).2.network.wire = (c.used uses).network.wire ++ es
      ∧ (∀ text u body, k.Accepted text u body → Requested u body ((c.used uses).call k).2.status? es)
      ∧ ((∀ text u body, ¬k.Accepted text u body) → es = [])
      ∧ ((∀ f, .writeFault (some f) ∉ uses) → ¬Falters es) := by
  obtain ⟨horderly, hnetwork⟩ := orderly_of_make made
  obtain ⟨hused, hcalm⟩ := orderly_used horderly uses
  obtain ⟨-, es, hspoken⟩ := hused.call k
  refine ⟨es, hspoken.wire, hspoken.requested, hspoken.refused, fun hno => ?_⟩
  have hunfaulted : Unfaulted c.network.network := by
    rw [hnetwork]
    intro f hf
    cases hf
  exact (hspoken.faultless (hcalm hno hunfaulted)).2.not_falters

def fresh : Connection (Recorded ScriptedNetwork) where
  settings := .default
  session := some Scene.new.session
  reporter := {}
  network := { network := {} }

def found : Bytes := Bytes.ofText "HTTP/1.1 200 OK\r\nContent-Length: 0\r\n\r\n"

/-- A server that answers a post, and then leaves the next request without an answer. -/
def history : List Use :=
  [.reply { data := found }, .call (.post (.text "http://h/a") (.value (.text "secret"))), .reply { data := [] },
    .reply { data := found }]

def twoLines : Call := .get (.text "http://h/b\r\nX?y")

/-- A get after a post, to a URL with an end of a line in it, which dies on the stream of the post: it writes its own
request to another stream, in two lines. -/
theorem request_after_post : (make .default none {} ({ network := {} } : Recorded ScriptedNetwork)).1 = .ok (.ok, some fresh)
    ∧ ∃ es, ((fresh.used history).call twoLines).2.network.wire = (fresh.used history).network.wire ++ es
      ∧ WrittenLast [Bytes.ofText "GET /bX?y HTTP/1.1\r\nHost: h\r\n\r\n"] es := by
  have hmade : (make .default none {} ({ network := {} } : Recorded ScriptedNetwork)).1 = .ok (.ok, some fresh) := rfl
  have haccepted : twoLines.Accepted "http://h/b\r\nX?y" ⟨⟨"http", "h", 80⟩, "/bX?y"⟩ none :=
    .get ⟨rfl, by rfl, by decide⟩
  have hstatus : ((fresh.used history).call twoLines).2.status? = some 200 := by decide +kernel
  obtain ⟨es, hwire, hrequested, -, hfaultless⟩ := requests_are_their_own hmade history twoLines
  refine ⟨hmade, es, hwire, ?_⟩
  have hfaultless : ¬Falters es := hfaultless (fun f hf => by simp [history] at hf)
  cases hrequested _ _ _ haccepted with
  | unwritten _ silent =>
    rw [hstatus] at silent
    cases silent
  | @written host target addressed _ _ whole =>
    have hhost : HostName.toAscii (Origin.hostField ⟨"http", "h", 80⟩).toList = .ok (Bytes.ofText "h") := by rfl
    have htarget : Bytes.ascii? "/bX?y".toList = some (Bytes.ofText "/bX?y") := by decide
    obtain rfl : Bytes.ofText "h" = host := Except.ok.inj (hhost.symm.trans addressed.host)
    obtain rfl : Bytes.ofText "/bX?y" = target := Option.some.inj (htarget.symm.trans addressed.target)
    exact (whole (by rw [hstatus]; exact Option.some_ne_none _)).resolve_right hfaultless

end
end Connection
end Transport
