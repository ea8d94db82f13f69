import ContentTransport.Proofs.Connection.Requests
import ContentTransport.Proofs.Session.Framed
/-!
# Served — the answer of a call, and what it leaves

A call that is accepted does what one transfer from the session that it sets up does, and answers as that ends
(`call_served`).  A call that is not accepted is answered by its arguments alone (`call_refused`).
-/
namespace Transport
namespace Connection

section

variable {ν : Type} [Network ν] {cap : Int} {s t : Session} {r : Reporter} {w : ν}

/-! ## A transfer -/

/-- What a call reads back of the description of a failure. -/
def wording (message : Text.Points) : String :=
  String.ofList (Text.ofUtf8 ((Session.describe message Session.blankBuffer).takeWhile (· != 0)))

theorem text_fail {bs : List Bytes} (buffers : t.buffers = bs ++ [Session.blankBuffer]) (bound : t.bound = some bs.length)
    (code : TransferCode) (m : Text.Points) :
    ({ buffer := bs.length } : Diagnosis).text (settled (t.fail code m).2) = wording m := by
  have hfail : (t.fail code m).2.buffers = t.buffers.modify bs.length (Session.describe m) := by
    unfold Session.fail
    rw [bound]
  have hread : ((settled (t.fail code m).2).buffers[bs.length]?).getD [] = Session.describe m Session.blankBuffer := by
    change ((t.fail code m).2.buffers[bs.length]?).getD [] = _
    rw [hfail, buffers, List.getElem?_modify]
    simp
  unfold Diagnosis.text Session.described wording
  rw [hread]

/-- How a call goes on from a transfer: what it answers, the session after it, what is reported, and the network. -/
def concluded (r : Reporter) : Option Break × Session × ν → Except Fault Answer × Session × Reporter × ν
  | (none, t, w) => ((judge (released t) r).1, released t, (judge (released t) r).2, w)
  | (some (.escaped f), t, w) => (.error f, released t, r, w)
  | (some (.failed code m), t, w) =>
    let (answer, r) := report (Outcome.ofTransfer code (wording m)) r
    (answer, released ({ t with link := none }.fail code m).2, r, (t.drop w).2)

/-- **A call goes on from its transfer as that ends.** -/
theorem transfer_served {url : Value} {text : String} {u : Url} (hs : Sound s) (aims : Aims url text u) (cap : Int)
    (r : Reporter) (w : ν) :
    transfer cap url s r w = concluded r ((prepared cap text u s).started.attempt u w) := by
  have hset : s.setUrl url = .ok { s with url := some (text, u) } := by
    rw [aims.given]
    exact setUrl_eq hs aims.parses aims.speaks
  have hsound : Sound (diagnosed { s with url := some (text, u) }) := hs
  have hopen : (prepared cap text u s).closed = false := hs.1
  have hperform := Session.perform_of_open (w := w) hopen (show (prepared cap text u s).url = some (text, u) from rfl)
  have hfails := Session.attempt_spec u (prepared cap text u s).started w
  have hkeeps := Session.attempt_keeps (prepared cap text u s).started u w
  have hprepared : readied cap (diagnosed { s with url := some (text, u) }) = prepared cap text u s := rfl
  rw [transfer_ok hs hset, transferWith_eq hsound rfl, hprepared, hperform]
  generalize (prepared cap text u s).started.attempt u w = a at hfails hkeeps
  obtain ⟨_ | ⟨code, m⟩ | f, t, v⟩ := a
  · rfl
  · have hcode : (code == TransferCode.ok) = false := by
      refine beq_eq_false_iff_ne.2 ?_
      rintro rfl
      exact hfails.fails rfl m rfl
    have hframe : t.buffers = s.buffers ++ [Session.blankBuffer] ∧ t.bound = some s.buffers.length :=
      ⟨congrArg Session.buffers hkeeps, congrArg Session.bound hkeeps⟩
    have htext := text_fail (t := { t with link := none }) hframe.1 hframe.2 code m
    dsimp only [concluded]
    rw [hcode, if_neg Bool.false_ne_true]
    change ((report (Outcome.ofTransfer code (({ buffer := s.buffers.length } : Diagnosis).text _)) r).1, _) = _
    rw [htext]
  · rfl

/-! ## An accepted call -/

/-- The session as the transfer of an accepted call finds it. -/
def arranged (cap : Int) (text : String) (u : Url) (s : Session) : Option Bytes → Session
  | none => prepared cap text u (getting s)
  | some b => prepared cap text u (posted b s)

/-- The session after an accepted call that began with list number `l` free: a post releases the list that it made. -/
def dismissed (l : ListId) : Option Bytes → Session → Session
  | none, t => t
  | some _, t => t.release l

/-- **An accepted call is served as its transfer ends.** -/
theorem call_served {c : Connection ν} (hc : c.session = some s) (hs : Sound s) (takes : c.refusesFields = false) {k : Call}
    {text : String} {u : Url} {body : Option Bytes} (accepted : k.Accepted text u body) :
    let a := concluded c.reporter ((arranged c.settings.cap.toInt text u s body).started.attempt u c.network)
    c.call k = (a.1, { c with
      session := some (dismissed s.lists.length body a.2.1), reporter := a.2.2.1, network := a.2.2.2 }) := by
  cases accepted with
  | get aims =>
    change c.get _ = _
    rw [get_eq hc hs aims.truth, transfer_served (s := getting s) hs aims]
    rfl
  | @post url body b aims bytes =>
    change c.post _ _ = _
    rw [post_eq hc hs takes aims.truth bytes, transfer_served (s := posted b s) hs aims]
    rfl

/-! ## A call that is not accepted -/

/-- Why a session does not take a URL. -/
def urlRefusal (url : Value) : String :=
  match ({ readSize_pos := Session.readSize_new_pos } : Session).setUrl url with
  | .error (.refused _ reason) => reason
  | _ => ""

theorem setUrl_refused {url : Value} (hs : Sound s) (hno : ∀ text u, ¬Aims url text u) :
    ∃ code, s.setUrl url = .error (.refused code (urlRefusal url)) := by
  unfold urlRefusal Session.setUrl Session.whenOpen
  simp only [hs.1, Bool.false_eq_true, if_false]
  cases url with
  | text text =>
    dsimp only
    cases hparses : Url.parse text with
    | error f => exact ⟨_, rfl⟩
    | ok u =>
      dsimp only
      cases hspeaks : Session.speaks u.origin.scheme with
      | true => exact absurd ⟨rfl, hparses, hspeaks⟩ (hno text u)
      | false => exact ⟨_, rfl⟩
  | _ => exact ⟨_, rfl⟩

/-- What a call is refused with that is not accepted. -/
def Call.refusal : Call → Outcome
  | .get url => if url.truth then setupFailed (urlRefusal url) else noUrl
  | .post url body =>
    if url.truth then
      match bodyBytes? body with
      | .ok (some _) => setupFailed (urlRefusal url)
      | _ => noBody
    else noUrl

/-- What of a session a call leaves as it is, unless it makes a transfer. -/
def lasting (s : Session) : Session :=
  { closed := s.closed, timeout := s.timeout, verifyTls := s.verifyTls, readSize := s.readSize, link := s.link,
    transfers := s.transfers, connects := s.connects, defects := s.defects, readSize_pos := s.readSize_pos }

theorem transfer_refused {url : Value} (hs : Sound s) (hno : ∀ text u, ¬Aims url text u) (cap : Int) (r : Reporter)
    (w : ν) : transfer cap url s r w
      = ((report (setupFailed (urlRefusal url)) r).1, s, (report (setupFailed (urlRefusal url)) r).2, w) := by
  obtain ⟨code, hset⟩ := setUrl_refused hs hno
  rw [transfer_error hset]
  rfl

theorem lasting_release (id : ListId) (s : Session) : lasting (s.release id) = lasting s := by
  unfold Session.release
  split <;> rfl

/-- The session after a call that is not accepted: what the call has set up before it is refused stays, but for the
header list. -/
def Call.rebuffed : Call → Session → Session
  | .get url, s => if url.truth then getting s else s
  | .post url body, s =>
    if url.truth then
      match bodyBytes? body with
      | .ok (some b) => (posted b s).release s.lists.length
      | _ => s
    else s

theorem lasting_rebuffed (k : Call) (s : Session) : lasting (k.rebuffed s) = lasting s := by
  cases k with
  | get url =>
    simp only [Call.rebuffed]
    split <;> rfl
  | post url body =>
    simp only [Call.rebuffed]
    split
    · split
      · exact lasting_release _ _
      · rfl
    · rfl

/-- **A call that is not accepted is answered by its arguments alone**, and makes no transfer. -/
theorem call_rebuffed {c : Connection ν} (hc : c.session = some s) (hs : Sound s) (takes : c.refusesFields = false)
    {k : Call} (refused : ∀ text u body, ¬k.Accepted text u body) : c.call k = ((k.refused k.refusal c.reporter).1,
      { c with session := some (k.rebuffed s), reporter := (k.refused k.refusal c.reporter).2 }) := by
  have hidle {a : Except Fault Answer × Reporter} (h : c.call k = c.answerWith a)
      (ha : k.refused k.refusal c.reporter = a) (hsame : k.rebuffed s = s) :
      c.call k = ((k.refused k.refusal c.reporter).1,
        { c with session := some (k.rebuffed s), reporter := (k.refused k.refusal c.reporter).2 }) := by
    rw [h, ha, hsame, answerWith, ← hc]
  cases k with
  | get url =>
    cases htruth : url.truth with
    | false =>
      exact hidle (a := report noUrl c.reporter) (by simp [call, get, htruth])
        (by simp [Call.refused, Call.garbling?, Call.refusal, htruth]) (by simp [Call.rebuffed, htruth])
    | true =>
      have hno : ∀ text u, ¬Aims url text u := fun text u aims => refused text u none (.get aims)
      change c.get url = _
      rw [get_eq hc hs htruth, transfer_refused (s := getting s) hs hno, Call.refused, Call.garbling?, Call.refusal,
        Call.rebuffed, if_pos htruth, if_pos htruth]
  | post url body =>
    cases htruth : url.truth with
    | false =>
      exact hidle (a := report noUrl c.reporter) (by simp [call, post, htruth])
        (by simp [Call.refused, Call.garbling?, Call.refusal, htruth]) (by simp [Call.rebuffed, htruth])
    | true =>
      rcases hbytes : bodyBytes? body with f | _ | b
      · exact hidle (a := (.error f, c.reporter)) (by simp [call, post, htruth, hbytes, answerWith])
          (by simp [Call.refused, Call.garbling?, htruth, hbytes]) (by simp [Call.rebuffed, htruth, hbytes])
      · exact hidle (a := report noBody c.reporter) (by simp [call, post, htruth, hbytes])
          (by simp [Call.refused, Call.garbling?, Call.refusal, htruth, hbytes])
          (by simp [Call.rebuffed, htruth, hbytes])
      · have hno : ∀ text u, ¬Aims url text u := fun text u aims => refused text u (some b) (.post aims hbytes)
        have hrefused : (Call.post url body).refused (Call.post url body).refusal c.reporter
            = report (setupFailed (urlRefusal url)) c.reporter := by
          simp [Call.refused, Call.garbling?, Call.refusal, htruth, hbytes]
        change c.post url body = _
        rw [post_eq hc hs takes htruth hbytes, transfer_refused (s := posted b s) hs hno, hrefused, Call.rebuffed,
          if_pos htruth, hbytes]

theorem call_refused {c : Connection ν} (hc : c.session = some s) (hs : Sound s) (takes : c.refusesFields = false)
    {k : Call} (refused : ∀ text u body, ¬k.Accepted text u body) :
    ∃ t, lasting t = lasting s ∧ c.call k = ((k.refused k.refusal c.reporter).1,
      { c with session := some t, reporter := (k.refused k.refusal c.reporter).2 }) :=
  ⟨_, lasting_rebuffed k s, call_rebuffed hc hs takes refused⟩

/-! ## Every connection -/

/-- What a session is told when it is made. -/
def config (s : Session) : Session :=
  { closed := s.closed, timeout := s.timeout, verifyTls := s.verifyTls, readSize := s.readSize, defects := s.defects,
    readSize_pos := s.readSize_pos }

theorem config_of_options (h : s.options = t.options) : config s = config t := by
  have hc := congrArg config h
  exact hc

theorem config_of_lasting (h : lasting s = lasting t) : config s = config t := by
  have hc := congrArg config h
  exact hc

theorem Sound.of_config (h : Sound s) (config : config t = config s) : Sound t :=
  ⟨(congrArg Session.closed config).trans h.1, (congrArg Session.defects config).trans h.2⟩

theorem config_arranged (cap : Int) (text : String) (u : Url) (s : Session) (body : Option Bytes) :
    config (arranged cap text u s body).started = config s := by
  cases body <;> rfl

theorem config_dismissed (l : ListId) (body : Option Bytes) (s : Session) : config (dismissed l body s) = config s := by
  cases body with
  | none => rfl
  | some b => exact config_of_lasting (lasting_release l s)

theorem config_concluded (r : Reporter) (a : Option Break × Session × ν) :
    config (concluded r a).2.1 = config a.2.1 := by
  obtain ⟨_ | ⟨code, m⟩ | f, t, w⟩ := a
  · rfl
  · have hsame := config_of_options (Session.options_fail code m { t with link := none })
    exact hsame
  · rfl

/-- **A call leaves what the session is told as it is.** -/
theorem call_config {c : Connection ν} (hc : c.session = some s) (hs : Sound s) (takes : c.refusesFields = false)
    (k : Call) : (c.call k).2.settings = c.settings ∧ (c.call k).2.refusesFields = c.refusesFields
      ∧ ∃ t, (c.call k).2.session = some t ∧ config t = config s := by
  rcases k.accepted_or with ⟨text, u, body, accepted⟩ | hno
  · rw [call_served hc hs takes accepted]
    refine ⟨rfl, rfl, _, rfl, ?_⟩
    have hoptions := (Session.attempt_spec u (arranged c.settings.cap.toInt text u s body).started c.network).options
    rw [config_dismissed, config_concluded, config_of_options hoptions, config_arranged]
  · obtain ⟨t, hlasting, hcall⟩ := call_refused hc hs takes hno
    rw [hcall]
    exact ⟨rfl, rfl, t, rfl, config_of_lasting hlasting⟩

end

section

variable {ν : Type} [Network ν] {c : Connection (Recorded ν)}

/-- The connections that there can be over a network, which may change at any time, like the listener of the reports. -/
inductive Reached : Connection (Recorded ν) → Prop
  | made {settings : Settings} {creation : Option Fault} {r r' : Reporter} {n : ν} {o : Outcome}
      {c : Connection (Recorded ν)} (h : make settings creation r { network := n } = (.ok (o, some c), r')) : Reached c
  | call {c : Connection (Recorded ν)} (h : Reached c) (k : Call) : Reached (c.call k).2
  | close {c : Connection (Recorded ν)} (h : Reached c) : Reached c.close
  | heard {c : Connection (Recorded ν)} (h : Reached c) (l : Listener) :
    Reached { c with reporter := { c.reporter with listener := l } }
  | turn {c : Connection (Recorded ν)} (h : Reached c) (n : ν) :
    Reached { c with network := { c.network with network := n } }

/-- What holds of every connection: its session does what it is told, and is told what the settings say. -/
structure Fit (c : Connection (Recorded ν)) : Prop where
  takesFields : c.refusesFields = false
  sound : ∀ s, c.session = some s → Sound s
  configured : ∀ s, c.session = some s → ∃ t, sessionFor c.settings = .ok t ∧ config s = config t

theorem fit_of_make {settings : Settings} {creation : Option Fault} {r r' : Reporter} {w : Recorded ν} {o : Outcome}
    (h : make settings creation r w = (.ok (o, some c), r')) :
    Fit c ∧ c.network = w ∧ ∃ s, sessionFor settings = .ok s ∧ c.session = some s := by
  obtain ⟨s, hsession, rfl⟩ := make_ok (congrArg Prod.fst h)
  refine ⟨⟨rfl, fun t ht => ?_, fun t ht => ?_⟩, rfl, s, hsession, rfl⟩
  · cases ht
    exact sound_sessionFor hsession
  · cases ht
    exact ⟨s, hsession, rfl⟩

theorem Fit.close (h : Fit c) : Fit c.close := by
  unfold Connection.close
  split
  · exact h
  · refine ⟨h.takesFields, fun s hs => ?_, fun s hs => ?_⟩
    · cases hs
    · cases hs

theorem Fit.call (h : Fit c) (k : Call) : Fit (c.call k).2 := by
  cases hc : c.session with
  | none =>
    obtain ⟨hsession, -, hfields⟩ := call_closed hc k
    refine ⟨hfields.trans h.takesFields, fun s hs => ?_, fun s hs => ?_⟩
    · cases hsession.symm.trans hs
    · cases hsession.symm.trans hs
  | some s =>
    obtain ⟨hsettings, hfields, t, ht, hconfig⟩ := call_config hc (h.sound s hc) h.takesFields k
    obtain ⟨v, hv, hsame⟩ := h.configured s hc
    refine ⟨hfields.trans h.takesFields, fun t' ht' => ?_, fun t' ht' => ?_⟩
    · cases ht.symm.trans ht'
      exact (h.sound s hc).of_config hconfig
    · cases ht.symm.trans ht'
      exact ⟨v, hsettings ▸ hv, hconfig.trans hsame⟩

theorem Reached.fit (h : Reached c) : Fit c := by
  induction h with
  | made h => exact (fit_of_make h).1
  | call _ k ih => exact ih.call k
  | close _ ih => exact ih.close
  | heard _ l ih => exact ⟨ih.takesFields, ih.sound, ih.configured⟩
  | turn _ n ih => exact ⟨ih.takesFields, ih.sound, ih.configured⟩

/-- The transfer of a call fails: it ends with a code that is not that of a success. -/
def TransferFails (k : Call) (c : Connection (Recorded ν)) : Prop :=
  ∃ s text u body code, c.session = some s ∧ k.Accepted text u body
    ∧ ((arranged c.settings.cap.toInt text u s body).perform c.network).1 = .ok code ∧ code ≠ .ok

theorem TransferFails.attempt {k : Call} (h : TransferFails k c) (fit : Fit c) :
    ∃ s text u body code m t w, c.session = some s ∧ k.Accepted text u body
      ∧ (arranged c.settings.cap.toInt text u s body).started.attempt u c.network = (some (.failed code m), t, w) := by
  obtain ⟨s, text, u, body, code, hc, accepted, hperform, hcode⟩ := h
  have hopen : (arranged c.settings.cap.toInt text u s body).closed = false :=
    (congrArg Session.closed (config_arranged c.settings.cap.toInt text u s body)).trans (fit.sound s hc).1
  have hurl : (arranged c.settings.cap.toInt text u s body).url = some (text, u) := by cases body <;> rfl
  rw [Session.perform_of_open hopen hurl] at hperform
  rcases ha : (arranged c.settings.cap.toInt text u s body).started.attempt u c.network with ⟨_ | ⟨code', m⟩ | f, t, w⟩
  · rw [ha] at hperform
    cases hperform
    exact absurd rfl hcode
  · exact ⟨s, text, u, body, code', m, t, w, hc, accepted, ha⟩
  · rw [ha] at hperform
    cases hperform

theorem link_dismissed (l : ListId) (body : Option Bytes) (s : Session) : (dismissed l body s).link = s.link := by
  cases body with
  | none => rfl
  | some b => exact (Session.sameStream_release l s).link

/-- A transfer that has failed leaves no stream. -/
theorem unlinked_of_attempt {s t : Session} {text : String} {u : Url} {body : Option Bytes} {code : TransferCode}
    {m : Text.Points} {w : Recorded ν} {k : Call} (fit : Fit c) (hc : c.session = some s) (accepted : k.Accepted text u body)
    (failed : (arranged c.settings.cap.toInt text u s body).started.attempt u c.network = (some (.failed code m), t, w)) :
    ∃ s, (c.call k).2.session = some s ∧ s.link = none := by
  rw [call_served hc (fit.sound s hc) fit.takesFields accepted, failed]
  refine ⟨_, rfl, ?_⟩
  rw [link_dismissed]
  dsimp only [concluded]
  change ({ t with link := none }.fail code m).2.link = none
  rw [Session.fail_snd]

theorem TransferFails.unlinked {k : Call} (h : TransferFails k c) (fit : Fit c) :
    ∃ s, (c.call k).2.session = some s ∧ s.link = none := by
  obtain ⟨s, text, u, body, code, m, t, w, hc, accepted, ha⟩ := h.attempt fit
  exact unlinked_of_attempt fit hc accepted ha

def plainGet : Call := .get (.text "http://h/")

theorem transferFails_plainGet {s : Session} (hc : c.session = some s) (code : TransferCode)
    (ends : (((arranged c.settings.cap.toInt "http://h/" ⟨⟨"http", "h", 80⟩, "/"⟩ s none).perform c.network).1).toOption
      = some code) (hne : code ≠ .ok) : TransferFails plainGet c := by
  have haims : Aims (.text "http://h/") "http://h/" ⟨⟨"http", "h", 80⟩, "/"⟩ := ⟨rfl, by rfl, by decide⟩
  refine ⟨s, _, _, none, code, hc, .get haims, ?_, hne⟩
  generalize Session.perform _ c.network = a at ends ⊢
  obtain ⟨f | code', t, w⟩ := a
  · cases ends
  · exact congrArg Except.ok (Option.some.inj ends)

/-- A new connection over a network whose next calls answer with faults. -/
def facing (connects handshakes : List NetworkFault) : Connection (Recorded ScriptedNetwork) :=
  { fresh with network := { network := { connectFaults := connects, tlsFaults := handshakes } } }

theorem reached_facing (connects handshakes : List NetworkFault) : Reached (facing connects handshakes) :=
  have hmade : make .default none {} ({ network := {} } : Recorded ScriptedNetwork) = (.ok (.ok, some fresh), {}) := rfl
  (Reached.made hmade).turn { connectFaults := connects, tlsFaults := handshakes }

end

end Connection
end Transport
