import ContentTransport.Proofs.Connection.Calls
import ContentTransport.Proofs.Session.Cutting
/-!
# Segmentation — the reads that a reply comes in make no difference

Two calls that differ only in how their reply is cut, by what the session asks for and by what the network gives at a
time, are answered alike, and leave their sessions alike (`cut_unseen`).  The reply may be anything, and a fault may
follow it.  The one thing that the cuts decide is whether a read ends in a line or a head that is too long.
-/
namespace Transport
namespace Connection

open Session (Alike Overruns Runs)

/-- The connection with a session that asks for so much at a time, over a network that gives so much at a time. -/
def cut (x : Cutting) (c : Connection (Recorded ScriptedNetwork)) : Connection (Recorded ScriptedNetwork) where
  settings := { c.settings with
    readSize := .number x.size
    readSize_pos := Int.natCast_pos.2 x.size_pos }
  session := c.session.map (·.cut x)
  reporter := c.reporter
  network := c.network.cut x
  refusesFields := c.refusesFields
  strays := c.strays

/-- What an answer decides by: its code and its body. -/
def decided (a : Except Fault Answer) : Except Fault (Code × Bytes) := a.map fun (o, body) => (o.code, body)

/-- Two transfers that are answered alike, and leave their sessions alike. -/
structure Agree (a b : Except Fault Answer × Session × Reporter × Recorded ScriptedNetwork) : Prop where
  decided : decided a.1 = decided b.1
  kept : a.2.1.hasOpenStream a.2.2.2 = b.2.1.hasOpenStream b.2.2.2
  status : a.2.1.responseCode = b.2.1.responseCode

section

variable {cap : Int} {s t : Session} {r : Reporter} {w : Recorded ScriptedNetwork} {x y : Cutting}

theorem responseCode_eq (hs : Sound s) (ht : Sound t) (h : s.status = t.status) : s.responseCode = t.responseCode := by
  unfold Session.responseCode
  rw [hs.2, ht.2, h]

theorem decided_report (o o' : Outcome) (r : Reporter) (h : o.code = o'.code) :
    decided (report o r).1 = decided (report o' r).1 := by
  rw [report_fst, report_fst, failed, failed]
  cases r.listener.answer with
  | error f => rfl
  | ok u => exact congrArg (fun c => (.ok (c, []) : Except Fault (Code × Bytes))) h

theorem judge_eq (hs : Sound s) (ht : Sound t) (status : s.status = t.status)
    (content : s.inbox.content = t.inbox.content) (r : Reporter) : judge s r = judge t r := by
  unfold judge
  rw [responseCode_eq hs ht status, content]

theorem transferWith_agree {d : Diagnosis} {v : Recorded ScriptedNetwork} (hs : Sound s) (ht : Sound t)
    (hd : d.isBound = true) (alike : Alike ((readied cap s).perform w) ((readied cap t).perform v)) (r : Reporter) :
    Agree (transferWith cap d s r w) (transferWith cap d t r v) := by
  rw [transferWith_eq hs hd, transferWith_eq ht hd]
  have hsound : Sound (released ((readied cap s).perform w).2.1) := sound_perform (s := readied cap s) hs w
  have hsound' : Sound (released ((readied cap t).perform v).2.1) := sound_perform (s := readied cap t) ht v
  generalize (readied cap s).perform w = a at alike hsound ⊢
  generalize (readied cap t).perform v = b at alike hsound' ⊢
  obtain ⟨code, t, v⟩ := a
  obtain ⟨code', t', v'⟩ := b
  obtain ⟨hcode, hstatus, hcontent, hkept⟩ := alike
  obtain rfl : code = code' := hcode
  have hresponse := responseCode_eq hsound hsound' hstatus
  cases code with
  | error f => exact ⟨rfl, hkept, hresponse⟩
  | ok code =>
    refine ⟨?_, hkept, hresponse⟩
    by_cases hok : code = .ok
    · subst hok
      exact congrArg (decided ·.1) (judge_eq hsound hsound' hstatus (hcontent rfl) r)
    · simp only [beq_eq_false_iff_ne.2 hok, Bool.false_eq_true, if_false]
      exact decided_report _ _ r rfl

theorem setUrl_cut (x : Cutting) (url : Value) (s : Session) :
    (s.cut x).setUrl url = (s.setUrl url).map (·.cut x) := by
  have hclosed : (s.cut x).closed = s.closed := rfl
  unfold Session.setUrl Session.whenOpen
  rw [hclosed]
  cases s.closed with
  | true => rfl
  | false =>
    cases url with
    | text text =>
      dsimp only
      cases Url.parse text with
      | error f => rfl
      | ok u =>
        dsimp only
        cases Session.speaks u.origin.scheme <;> rfl
    | _ => rfl

theorem request_getting {u : Url} {out : Http.Written} (hm : s.method = .get) (ha : s.attached = none)
    (h : (s.request u).write = .ok out) : out.proposes = false := by
  have hfields : (s.request u).fields = [] := by simp [Session.request, Session.extraFields, ha]
  obtain ⟨host, target, fields, passed, rfl⟩ := Http.Request.passed_of_write h
  obtain ⟨rfl, -⟩ := passed.get hm hfields
  rfl

/-- A read between two states of a network ends in a line or a head that is too long, in a reply to a get. -/
def Overlong (cap : Int) (w w' : Recorded ScriptedNetwork) : Prop :=
  Overruns (fun n => decide (cap < n)) false (WireEvent.given (w'.wire.drop w.wire.length))

theorem runs_of_not_overlong {u : Url} {v : Recorded ScriptedNetwork} (hm : s.method = .get) (ha : s.attached = none)
    (h : ¬Overlong cap w v) : Runs cap u s w v := by
  intro out hout es hes
  rw [request_getting hm ha hout]
  rwa [Overlong, hes, List.drop_left] at h

theorem transfer_cut (x : Cutting) (hs : Sound s) (url : Value) (r : Reporter) :
    transfer cap url (s.cut x) r (w.cut x) = match s.setUrl url with
      | .error f => ((reportRefusal f r).1, s.cut x, (reportRefusal f r).2, w.cut x)
      | .ok t => transferWith cap { buffer := t.buffers.length } ((diagnosed t).cut x) r (w.cut x) := by
  have hset' : (s.cut x).setUrl url = (s.setUrl url).map (·.cut x) := setUrl_cut x url s
  cases hset : s.setUrl url with
  | error f =>
    rw [hset] at hset'
    exact transfer_error hset' r (w.cut x)
  | ok t =>
    rw [hset] at hset'
    exact transfer_ok (s := s.cut x) hs hset' r (w.cut x)

theorem transfer_agree (url : Value) (hs : Sound s) (hm : s.method = .get) (ha : s.attached = none)
    (unlinked : s.hasOpenStream w = false) (hcap : 0 ≤ cap) (r : Reporter)
    (hx : ¬Overlong cap w (transfer cap url (s.cut x) r (w.cut x)).2.2.2)
    (hy : ¬Overlong cap w (transfer cap url (s.cut y) r (w.cut y)).2.2.2) :
    Agree (transfer cap url (s.cut x) r (w.cut x)) (transfer cap url (s.cut y) r (w.cut y)) := by
  rw [transfer_cut x hs] at hx ⊢
  rw [transfer_cut y hs] at hy ⊢
  cases hset : s.setUrl url with
  | error f => exact ⟨rfl, rfl, rfl⟩
  | ok t =>
    obtain ⟨text, u, -, rfl⟩ := setUrl_aims hset
    rw [hset] at hx hy
    have hsound (z : Cutting) : Sound (Session.cut z (diagnosed { s with url := some (text, u) })) := hs
    dsimp only at hx hy ⊢
    rw [(transferWith_after (hsound x) rfl r).2] at hx
    rw [(transferWith_after (hsound y) rfl r).2] at hy
    refine transferWith_agree (hsound x) (hsound y) rfl ?_ r
    exact Session.perform_alike (s := readied cap (diagnosed { s with url := some (text, u) })) hs.1 rfl unlinked
      ⟨rfl, rfl⟩ hcap rfl (runs_of_not_overlong hm ha hx) (runs_of_not_overlong hm ha hy)

/-- **The reads that a reply comes in make no difference.**  Whatever the reply is and whatever follows it, two gets that
differ in nothing but the cuts are answered with the same code and the same body, and leave the same stream and the same
status behind, unless a read ends in a line or a head that is too long. -/
theorem cut_unseen {c : Connection (Recorded ScriptedNetwork)}
    (idle : ∀ s, c.session = some s → Sound s ∧ s.hasOpenStream c.network = false) (url : Value) (x y : Cutting)
    (hx : ¬Overlong c.settings.cap.toInt c.network ((c.cut x).get url).2.network)
    (hy : ¬Overlong c.settings.cap.toInt c.network ((c.cut y).get url).2.network) :
    let a := (c.cut x).get url
    let b := (c.cut y).get url
    decided a.1 = decided b.1
      ∧ a.2.session.map (·.hasOpenStream a.2.network) = b.2.session.map (·.hasOpenStream b.2.network)
      ∧ a.2.session.map (·.responseCode) = b.2.session.map (·.responseCode) := by
  have hsession (z : Cutting) : (c.cut z).session = c.session.map (·.cut z) := rfl
  cases htruth : url.truth with
  | false =>
    have hget (z : Cutting) : (c.cut z).get url = (c.cut z).answerWith (report noUrl c.reporter) := by
      unfold get
      rw [htruth]
      rfl
    rw [hget, hget]
    refine ⟨rfl, ?_, ?_⟩
    · simp only [answerWith, hsession]
      cases c.session <;> rfl
    · simp only [answerWith, hsession]
      cases c.session <;> rfl
  | true =>
    cases hc : c.session with
    | none =>
      have hget (z : Cutting) : (c.cut z).get url
          = (c.cut z).answerWith (report (setupFailed "Connection is closed") c.reporter) := by
        unfold get withSession
        rw [htruth, hsession, hc]
        rfl
      rw [hget, hget]
      refine ⟨rfl, ?_, ?_⟩
      · simp [answerWith, hsession, hc]
      · simp [answerWith, hsession, hc]
    | some s =>
      obtain ⟨hsound, hunlinked⟩ := idle s hc
      have hget (z : Cutting) := get_eq (c := c.cut z) (s := s.cut z) (by rw [hsession, hc]; rfl) hsound htruth
      rw [hget x] at hx ⊢
      rw [hget y] at hy ⊢
      have hagree := transfer_agree (s := getting s) url hsound rfl rfl hunlinked c.settings.cap_nonneg
        c.reporter hx hy
      exact ⟨hagree.decided, congrArg some hagree.kept, congrArg some hagree.status⟩

instance (cap : Int) (w w' : Recorded ScriptedNetwork) : Decidable (Overlong cap w w') :=
  inferInstanceAs (Decidable (_ ∧ _))

/-- A connection to a server that puts something else behind a chunk than the end of its line, and then is gone. -/
def torn : Connection (Recorded ScriptedNetwork) where
  settings := .default
  session := some Scene.new.session
  reporter := {}
  network := { network := { replies := [⟨Bytes.ofText
    "HTTP/1.1 200 OK\r\nTransfer-Encoding: chunked\r\n\r\n2\r\nab\rX", none, some { kind := .reset }⟩] } }

def bytewise : Cutting := ⟨1, none, by decide, nofun⟩

def threewise : Cutting := ⟨65536, some 3, Session.readSize_new_pos, fun l hl => by cases hl; decide⟩

theorem cut_unseen_torn :
    let a := (torn.cut bytewise).get (.text "http://h/")
    let b := (torn.cut threewise).get (.text "http://h/")
    ¬Overlong torn.settings.cap.toInt torn.network a.2.network ∧ ¬Overlong torn.settings.cap.toInt torn.network b.2.network
      ∧ decided a.1 = decided b.1 := by
  have hidle : ∀ s, torn.session = some s → Sound s ∧ s.hasOpenStream torn.network = false := by
    intro s hs
    cases hs
    exact ⟨⟨rfl, rfl⟩, rfl⟩
  have hx : ¬Overlong torn.settings.cap.toInt torn.network ((torn.cut bytewise).get (.text "http://h/")).2.network := by
    decide +kernel
  have hy : ¬Overlong torn.settings.cap.toInt torn.network ((torn.cut threewise).get (.text "http://h/")).2.network := by
    decide +kernel
  exact ⟨hx, hy, (cut_unseen hidle _ bytewise threewise hx hy).1⟩

end

end Connection
end Transport
