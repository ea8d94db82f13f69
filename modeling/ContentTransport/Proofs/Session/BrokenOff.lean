import ContentTransport.Proofs.Http.Truncated
import ContentTransport.Proofs.Session.Fate
/-!
# BrokenOff — transfers whose reply breaks off

A reply that breaks off before the last byte of a message that ends by itself makes its transfer a failure, wherever it
breaks off and however it comes in reads.  The end of the stream is called by how far the message has come, a fault of
the network by its kind (`brokenOff`).  The status stays behind once the final head has come to its end, and no stream
stays open (`cut_is_no_success`).

One fault is not called anything.  A timeout is described in whole milliseconds, and a session whose timeout is infinite
or not a number has none: there the description itself fails, which escapes, and the stream stays open
(`endless_timeout_escapes`).
-/
namespace Transport

open ScriptedNetwork

namespace Session

open Http (statusesOf)

variable {u : Url} {s : Session} {w : Recorded ScriptedNetwork} {a : Option Break × Session × Recorded ScriptedNetwork}

/-! ## Up to the reply -/

/-- A willing network opens a stream. -/
theorem Opening.granted {o : Origin} {a : Except Break StreamId × Session × Recorded ScriptedNetwork}
    (c : Opening o s w a) (h : Willing (o.scheme == "https") w.network) :
    (∃ id, a.1 = .ok id) ∧ Willing (o.scheme == "https") a.2.2.network := by
  have hdropped := drop_keeps (fun id hw => Willing.close hw id) h s
  cases c with
  | unconnected connect =>
    obtain ⟨⟨_, he⟩, -⟩ := hdropped.connect (Recorded.connect_eq connect).1
    cases he
  | plain _ connect => exact ⟨⟨_, rfl⟩, (hdropped.connect (Recorded.connect_eq connect).1).2⟩
  | secured scheme connect secure =>
    have hmid := (hdropped.connect (Recorded.connect_eq connect).1).2
    rw [beq_iff_eq.2 scheme] at hmid ⊢
    exact ⟨⟨_, rfl⟩, (hmid.secure (Recorded.secure_eq secure).1).2⟩
  | unsecured scheme connect secure =>
    have hmid := (hdropped.connect (Recorded.connect_eq connect).1).2
    rw [beq_iff_eq.2 scheme] at hmid
    obtain ⟨⟨_, he⟩, -⟩ := hmid.secure (Recorded.secure_eq secure).1
    cases he
  | abandoned scheme connect secure =>
    have hmid := (hdropped.connect (Recorded.connect_eq connect).1).2
    rw [beq_iff_eq.2 scheme] at hmid
    obtain ⟨⟨_, he⟩, -⟩ := hmid.secure (Recorded.secure_eq secure).1
    cases he

/-- **A willing network takes the request**, and what remains is the reply. -/
theorem Anew.answered (c : Anew u s w a) (sends : s.Sends u)
    (willing : Willing (u.origin.scheme == "https") w.network) :
    ∃ id out v mid, (s.request u).write = .ok out ∧ Opening u.origin s w (.ok id, s.linked u.origin id, v)
      ∧ Writes id v out.pieces mid
      ∧ Receipt id out.keepAlive false { proposed := out.proposes } ((s.linked u.origin id).stand .busy) mid a := by
  obtain ⟨out, hout, hfault⟩ := sends
  cases c with
  | unopened opening =>
    obtain ⟨⟨_, he⟩, -⟩ := opening.granted willing
    cases he
  | @opened id t v a opening course =>
    obtain ⟨rfl, hblank, -⟩ := opening.blank
    have hopen : ScriptedNetwork.isOpen id v.network = true := hblank.isOpen
    have hwrites : Unfaulted v.network := (opening.granted willing).2.writes
    have hrequest : (s.linked u.origin id).request u = s.request u := rfl
    cases course with
    | refused request =>
      rw [hrequest, hout] at request
      cases request
    | unsent _ _ path last => exact (hwrites.unsent hopen path.network (Recorded.write_eq last).1).elim
    | withdrawn request _ fault =>
      rw [hrequest, hout] at request
      cases request
      rw [hfault] at fault
      cases fault
    | answered request path _ receipt =>
      rw [hrequest, hout] at request
      cases request
      exact ⟨id, out, v, _, hout, opening, path, receipt⟩

/-! ## The open streams -/

theorem Opening.isOpen {o : Origin} {id : StreamId} {t : Session} {v : Recorded ScriptedNetwork}
    (c : Opening o s w (.ok id, t, v)) {other : StreamId} (h : ScriptedNetwork.isOpen other v.network = true) :
    other = id ∨ ScriptedNetwork.isOpen other w.network = true := by
  have hdrop : ScriptedNetwork.isOpen other (s.drop w).2.network = true →
      ScriptedNetwork.isOpen other w.network = true := by
    refine drop_keeps (P := fun v => ScriptedNetwork.isOpen other v = true → ScriptedNetwork.isOpen other w.network = true)
      (fun closed _ hopen => ?_) (fun hopen => hopen) s
    rw [isOpen_close, Bool.and_eq_true] at hopen
    exact hopen.1
  have hconnected {id : StreamId} {mid : Recorded ScriptedNetwork}
      (connect : Network.connect o.host (.int o.port) (.float s.timeout) (s.drop w).2 = (.ok id, mid))
      (hmid : ScriptedNetwork.isOpen other mid.network = true) :
      other = id ∨ ScriptedNetwork.isOpen other w.network = true := by
    rw [isOpen_connect (Recorded.connect_eq connect).1, Bool.or_eq_true, beq_iff_eq] at hmid
    exact hmid.symm.imp_right hdrop
  cases c with
  | plain _ connect => exact hconnected connect h
  | secured _ connect secure =>
    obtain ⟨halike, -, ⟨_, -, he⟩ | he⟩ := secure_spec (Recorded.secure_eq secure).1
    · cases he
    · cases he
      exact hconnected connect (halike.isOpen other ▸ h)

/-- A reception that breaks off leaves the session its stream, and the streams as they were. -/
theorem Receipt.broken {l : Link} {keep ended : Bool} {r : Http.Reader} (c : Receipt l.stream keep ended r s w a)
    (link : s.link = some l) (h : a.1 ≠ none) : a.2.1.link = some l ∧ Alike w.network a.2.2.network := by
  cases c with
  | @interrupted reads mid b t path _ _ obeyed =>
    exact ⟨(link_of_obey obeyed link : t.link = some l), path.network.alike⟩
  | @heard reads mid t a path _ _ obeyed ending =>
    have hlink : (t.counting reads.flatten.length).link = some l := (link_of_obey obeyed link : t.link = some l)
    have halike := path.network.alike
    generalize (r.hear reads).2.2 = st at ending
    generalize t.counting reads.flatten.length = v at ending hlink
    have hend {w' : Recorded ScriptedNetwork} (hw : Alike mid.network w'.network)
        (hb : (finishAtEnd keep (r.hear reads).2.1 v w').1 ≠ none) :
        (finishAtEnd keep (r.hear reads).2.1 v w').2.1.link = some l
          ∧ Alike w.network (finishAtEnd keep (r.hear reads).2.1 v w').2.2.network := by
      unfold finishAtEnd at hb ⊢
      cases hf : (r.hear reads).2.1.atEnd with
      | none =>
        rw [hf] at hb
        exact absurd rfl hb
      | some f => exact ⟨hlink, halike.trans hw⟩
    cases ending with
    | complete => exact absurd rfl h
    | switched => exact ⟨hlink, halike⟩
    | broken => exact ⟨hlink, halike⟩
    | silent => exact hend (.refl _) h
    | closed _ read => exact hend (alike_read (Recorded.read_eq read).1) h
    | failed _ read => exact ⟨hlink, halike.trans (alike_read (Recorded.read_eq read).1)⟩

/-! ## The failure -/

/-- What a transfer is called whose reply breaks off after a part of a message, with a fault or with the end of the
stream. -/
def brokenOff (m : Http.Message) (cut : Bytes) (timeout : Float) : Option NetworkFault → Except Fault TransferCode
  | none =>
    .ok (if cut = [] then .gotNothing else if cut.length < m.heading.length then .weirdServerReply else .recvError)
  | some f =>
    if f.kind = .timedOut then (milliseconds timeout).map fun _ => .operationTimedout
    else if f.isSystem || f.kind == .runtime then .ok .recvError
    else .error (.network f)

/-- How a transfer ends whose reply breaks off after a part of a message. -/
structure BrokenOff (m : Http.Message) (cut : Bytes) (fault : Option NetworkFault) (s : Session)
    (w : Recorded ScriptedNetwork) (a : Except Fault TransferCode × Session × Recorded ScriptedNetwork) : Prop where
  failed : a.1 ≠ .ok .ok
  code : a.1 = brokenOff m cut s.timeout fault
  status : a.2.1.responseCode
    = if cut.length < m.heading.length then .error (refuse "No response code available") else .ok m.status
  kept : a.2.1.hasOpenStream a.2.2 = !a.1.isOk
  closed : a.1.isOk = true → ∀ id, isOpen id a.2.2.network = true → isOpen id w.network = true

theorem kind_readBreak_network (timeout : Float) (n : Nat) (f : NetworkFault) :
    (readBreak timeout n (.network f)).kind = if f.kind = .timedOut then (milliseconds timeout).map fun _ => .operationTimedout
      else if f.isSystem || f.kind == .runtime then .ok .recvError else .error (.network f) := by
  unfold readBreak timedOut Fault.isTimeout
  by_cases ht : f.kind = .timedOut
  · rw [if_pos (beq_iff_eq.2 ht), if_pos ht]
    cases milliseconds timeout <;> rfl
  · rw [if_neg (fun hb => ht (beq_iff_eq.1 hb)), if_neg ht]
    unfold Fault.isSystem Fault.isRuntime
    by_cases hs : (f.isSystem || f.kind == .runtime) = true
    · rw [if_pos hs, if_pos hs]
      rfl
    · rw [if_neg hs, if_neg hs]
      rfl

section

variable {m : Http.Message} {cut rest : Bytes} {fault : Option NetworkFault}

theorem fate_cut (framed : m.Framed) (split : m.bytes = cut ++ rest) (short : rest ≠ []) (timeout : Float)
    (proposed : Bool) : fate (fun _ => false) timeout proposed cut fault = brokenOff m cut timeout fault := by
  have hstatus := Http.Message.statusesOf_cut split proposed
  unfold fate
  rw [if_neg Bool.false_ne_true, Http.Message.closing_of_cut framed split short]
  cases fault with
  | none =>
    have hnone : statusesOf (({ proposed := proposed } : Http.Reader).feed cut).letters = []
        ↔ cut.length < m.heading.length := by
      rw [hstatus]
      split
      · exact ⟨fun _ => ‹_›, fun _ => rfl⟩
      · exact ⟨nofun, fun h => absurd h ‹_›⟩
    simp only [verdict, shortfall, brokenOff, hnone, Bool.false_eq_true, if_false]
  | some f => exact kind_readBreak_network timeout 0 f

theorem brokenOff_ne_ok (m : Http.Message) (cut : Bytes) (timeout : Float) (fault : Option NetworkFault) :
    brokenOff m cut timeout fault ≠ .ok .ok := by
  intro h
  cases fault with
  | none =>
    simp only [brokenOff, Except.ok.injEq] at h
    split at h
    · cases h
    · split at h <;> cases h
  | some f =>
    simp only [brokenOff] at h
    split at h
    · cases ht : milliseconds timeout <;> simp [ht, Except.map] at h
    · split at h <;> cases h

theorem attempt_brokenOff (unlinked : s.hasOpenStream w = false) (receiver : s.receiver = some .collecting)
    (sends : s.Sends u) (offers : Offers (u.origin.scheme == "https") cut fault w.network) (framed : m.Framed)
    (split : m.bytes = cut ++ rest) (short : rest ≠ []) (unread : s.received = 0) (unsaid : s.status = none) :
    let a := s.attempt u w
    called a.1 = brokenOff m cut s.timeout fault
      ∧ a.2.1.status = (if cut.length < m.heading.length then none else some m.status)
      ∧ ∃ l, a.2.1.link = some l ∧ isOpen l.stream a.2.2.network = true
        ∧ ∀ id, isOpen id a.2.2.network = true → id = l.stream ∨ isOpen id w.network = true := by
  intro a
  have hanew := exchangeAnew_spec u s w
  rw [← attempt_of_unlinked unlinked] at hanew
  obtain ⟨hforward, hdata, hfault⟩ := offers.next
  obtain ⟨id, out, v, mid, hout, hopening, hpath, hreceipt⟩ := hanew.answered sends offers.toWilling
  obtain ⟨target, fields, body, hpieces⟩ := Http.Request.head_of_write hout
  have hfated := hopening.fated hpath (by rw [hpieces]; exact List.cons_ne_nil _ _) hreceipt hforward
    (receiver ▸ judges_collecting s.collects s.inbox) unread unsaid fun es more _ hgiven hover =>
      Http.Message.unbroken (by rw [split, ← hdata, hgiven, List.append_assoc]) out.proposes _ hover.1
  rw [hdata, hfault] at hfated
  have hcode : called a.1 = brokenOff m cut s.timeout fault :=
    hfated.code.trans (fate_cut framed split short s.timeout out.proposes)
  have hsome : a.1 ≠ none := by
    intro hnone
    rw [hnone] at hcode
    exact brokenOff_ne_ok _ _ _ _ hcode.symm
  refine ⟨hcode, ?_, ?_⟩
  · rw [hfated.status, Http.Message.statusesOf_cut split]
    split <;> rfl
  · obtain ⟨hlink, halike⟩ := Receipt.broken (l := ⟨id, u.origin, .busy⟩) hreceipt rfl hsome
    refine ⟨_, hlink, ?_, fun other hopen => ?_⟩
    · have hkept := hfated.kept
      rw [Option.isSome_iff_ne_none.2 hsome, Bool.true_or, hasOpenStream_of_link (congrArg _ hlink)] at hkept
      exact hkept
    · rw [halike.isOpen, hpath.network.alike.isOpen] at hopen
      exact hopening.isOpen hopen

/-- **A message that is cut short is no success**, wherever it is cut and however it comes in reads. -/
theorem cut_is_no_success {text : String} (opened : s.closed = false) (url : s.url = some (text, u))
    (unlinked : s.hasOpenStream w = false) (receiver : s.receiver = some .collecting) (sound : s.defects = {})
    (sends : s.Sends u) (offers : Offers (u.origin.scheme == "https") cut fault w.network) (framed : m.Framed)
    (split : m.bytes = cut ++ rest) (short : rest ≠ []) : BrokenOff m cut fault s w (s.perform w) := by
  obtain ⟨hcode, hstatus, l, hlink, hopen, hothers⟩ :=
    attempt_brokenOff (s := s.started) unlinked receiver sends offers framed split short rfl rfl
  have hconcluded := perform_concluded (s := s) (w := w) opened url
  have hdefects := (defects_of_options (options_perform s w)).trans sound
  have hfinal : (s.perform w).1 = brokenOff m cut s.timeout fault := hconcluded.code.trans hcode
  have hfailed : (s.perform w).1 ≠ .ok .ok := hfinal ▸ brokenOff_ne_ok _ _ _ _
  refine ⟨hfailed, hfinal, ?_, ?_, fun hok id hid => ?_⟩
  · rw [responseCode, hdefects, hconcluded.status, hstatus]
    by_cases hlt : cut.length < m.heading.length
    · rw [if_pos hlt, if_pos hlt]
      rfl
    · rw [if_neg hlt, if_neg hlt]
      rfl
  · rw [hconcluded.kept, hasOpenStream_of_link (congrArg _ hlink), hopen, Bool.and_true]
    cases hb : (s.perform w).1 with
    | error f => rfl
    | ok code => exact beq_eq_false_iff_ne.2 fun he => hfailed (hb.trans (congrArg _ he))
  · rw [perform_of_open opened url] at hok hid
    generalize s.started.attempt u w = b at hok hid hlink hothers hcode
    obtain ⟨_ | ⟨code, msg⟩ | f, t, v⟩ := b
    · exact absurd hcode.symm (brokenOff_ne_ok _ _ _ _)
    · dsimp only at hid hlink hothers
      rw [drop_of_some hlink] at hid
      have hid : isOpen id (ScriptedNetwork.close l.stream v.network) = true := hid
      rw [isOpen_close, Bool.and_eq_true, bne_iff_ne] at hid
      exact (hothers id hid.1).resolve_left hid.2
    · cases hok

end

section

open Http

def fiveLine : FieldLine :=
  ⟨⟨Bytes.ofText "Content-Length", Bytes.ofText "5"⟩, [Bytes.tab], [Bytes.tab], by decide, by decide, rfl, rfl⟩

theorem gone_short : (blockBytes [statusLine (49, 48) 410 (some (Bytes.ofText "Gone")), fiveLine.bytes]).length
    ≤ Reader.longest := by decide +kernel

def gone : HeadBlock where
  version := (49, 48)
  status := 410
  reason := some (Bytes.ofText "Gone")
  fields := [fiveLine]
  framing := .counted 5
  version_isDigit := by decide
  status_three := by decide
  reason_isLine := by decide
  declares := @Declares.counted [] [] _ nofun (by decide) (by decide) (by decide) (by decide)
  short := gone_short

/-- A message of the older version that declares five bytes, with tabs around their number. -/
def pledge : Message where
  informing := []
  head := gone
  content := .plain (Bytes.ofText "hello")
  informs := List.forall_mem_nil _
  isFinal := by decide
  fits := (by decide : (Bytes.ofText "hello").length = 5)
  bodiless h := by rcases h with h | h <;> cases h

theorem framed_pledge : pledge.Framed := ⟨by decide, nofun⟩

/-- A new session with a URL and a receiver. -/
def asking : Session where
  url := some ("http://h/", ⟨⟨"http", "h", 80⟩, "/"⟩)
  receiver := some .collecting
  readSize_pos := readSize_new_pos

theorem sends_asking : asking.Sends ⟨⟨"http", "h", 80⟩, "/"⟩ :=
  Request.write_get ⟨Bytes.ofText "h", Bytes.ofText "/", by rfl, by decide, by rfl, by decide⟩ rfl rfl rfl

/-- A network that sends the message up to its third byte of five, one byte at a time, and then resets the stream. -/
def resetting : Recorded ScriptedNetwork where
  network := { replies := [⟨pledge.bytes.take 44, some 1, some { kind := .reset }⟩] }

theorem cut_pledge_fails : BrokenOff pledge (pledge.bytes.take 44) (some { kind := .reset }) asking resetting
    (asking.perform resetting) ∧ (asking.perform resetting).1 = .ok .recvError := by
  have hoffers : Offers false (pledge.bytes.take 44) (some { kind := .reset }) resetting.network :=
    ⟨⟨rfl, nofun, nofun⟩, some 1, rfl, fun l hl => by cases hl; decide⟩
  have h := cut_is_no_success (u := ⟨⟨"http", "h", 80⟩, "/"⟩) (w := resetting) rfl rfl rfl rfl rfl sends_asking hoffers
    framed_pledge (List.take_append_drop 44 _).symm (by decide +kernel)
  exact ⟨h, h.code⟩

end

end Session

namespace Scene

/-- A timeout that is infinite is accepted, but cannot be described: the fault of the description escapes, and the stream
stays open. -/
theorem endless_timeout_escapes :
    let acts : List Act := [.set (.timeout (.float (1.0 / 0.0))), .set (.url (.text "http://h/")),
      .set (.receiver (some .collecting)), .reply { data := [], fault := some { kind := .timedOut } }]
    let c := run acts new
    c.session.hasOpenStream c.network = false
      ∧ (∃ f, c.answer = .error f ∧ f.message = "cannot convert float infinity to integer")
      ∧ c.performed.session.hasOpenStream c.performed.network = true := by
  intro acts c
  have hmessage : (match c.answer with
      | .error f => f.message
      | .ok _ => []) = Text.points "cannot convert float infinity to integer" := by decide +kernel
  refine ⟨by decide +kernel, ?_, by decide +kernel⟩
  cases ha : c.answer with
  | error f =>
    rw [ha] at hmessage
    exact ⟨f, rfl, hmessage⟩
  | ok code =>
    rw [ha] at hmessage
    have hempty : [] = Text.points "cannot convert float infinity to integer" := hmessage
    exact absurd hempty (by decide)

end Scene
end Transport
