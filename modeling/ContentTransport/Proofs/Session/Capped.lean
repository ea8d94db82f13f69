import ContentTransport.Proofs.Http.Message
import ContentTransport.Proofs.Http.Request
import ContentTransport.Proofs.Network.Delivery
import ContentTransport.Proofs.Session.Exchange
/-!
# Capped — what a session keeps under a cap

A session that collects within a cap keeps the whole body of a reply, or breaks off at the first piece that does not fit.
Which of the two depends on the length of the body alone, and the inbox never holds more than the cap (`obey_capped`).
-/
namespace Transport

@[simp] theorem Inbox.content_add (p : Bytes) (i : Inbox) : (i.add p).content = i.content ++ p := by
  simp [Inbox.content, Inbox.add]

namespace Session

open Http (spell bodyOf statusesOf)

/-- A session that collects within a cap. -/
def CollectsWithin (cap : Int) (s : Session) : Prop :=
  s.receiver = some (.capped cap Receiver.abort) ∧ s.collects = true

/-- An inbox within a cap, which knows its size. -/
def Fits (cap : Int) (i : Inbox) : Prop := (i.size : Int) ≤ cap ∧ i.content.length = i.size

/-- What obeying events comes to under a cap. -/
structure Obeyed (cap : Int) (s : Session) (es : List Http.Event) (b : Option Break) (t : Session) : Prop where
  fits : Fits cap t.inbox
  whole : b = none → t.inbox.content = s.inbox.content ++ bodyOf (spell es)
    ∧ t.status = (statusesOf (spell es)).getLast?.or s.status
  excess : ∀ k, b = some k → (∃ m, k = .failed .writeError m)
    ∧ cap < ((s.inbox.content ++ bodyOf (spell es)).length : Nat)

theorem deliver_fitting {cap : Int} {s : Session} {p : Bytes} (h : CollectsWithin cap s)
    (hp : ((s.inbox.size + p.length : Nat) : Int) ≤ cap) :
    s.deliver p = (none, s.told s.status (p :: s.passed) (s.inbox.add p)) := by
  rw [deliver_of_some h.1]
  have hjudge : (Receiver.capped cap Receiver.abort).judge s.passed s.inbox.size p = .ok (Receiver.keeping p) := by
    simp only [Receiver.capped, Int.not_lt.2 hp, if_false]
  simp [taking, hjudge, Receiver.keeping, h.2]

theorem deliver_excess {cap : Int} {s : Session} {p : Bytes} (h : CollectsWithin cap s)
    (hp : cap < ((s.inbox.size + p.length : Nat) : Int)) :
    ∃ m, s.deliver p = (some (.failed .writeError m), s.told s.status (p :: s.passed) s.inbox) := by
  rw [deliver_of_some h.1]
  have hjudge : (Receiver.capped cap Receiver.abort).judge s.passed s.inbox.size p = .ok ⟨Receiver.abort, false⟩ := by
    simp only [Receiver.capped, gt_iff_lt, hp, if_true]
  have hne : Receiver.abort ≠ (p.length : Int) := by
    have habort : Receiver.abort = -1 := rfl
    omega
  simp [taking, hjudge, hne]

/-- **A session keeps all that it is told, or breaks off where the cap is exceeded.** -/
theorem obey_capped {cap : Int} {es : List Http.Event} {s t : Session} {b : Option Break} (h : CollectsWithin cap s)
    (hs : Fits cap s.inbox) (ho : s.obey es = (b, t)) : Obeyed cap s es b t := by
  induction es generalizing s with
  | nil =>
    cases ho
    exact ⟨hs, fun _ => by simp [bodyOf, statusesOf], fun k hk => by cases hk⟩
  | cons e es ih =>
    cases e with
    | status n =>
      obtain ⟨hfits, hwhole, hexcess⟩ := ih (s := { s with status := some n }) h hs ho
      refine ⟨hfits, fun hb => ?_, fun k hk => ?_⟩
      · obtain ⟨hcontent, hstatus⟩ := hwhole hb
        refine ⟨by rw [Http.bodyOf_status]; exact hcontent, ?_⟩
        rw [hstatus, Http.statusesOf_status, List.getLast?_cons]
        cases (statusesOf (spell es)).getLast? <;> rfl
      · rw [Http.bodyOf_status]
        exact hexcess k hk
    | piece p =>
      have hspell := Http.bodyOf_piece p es
      have hstatuses := Http.statusesOf_piece p es
      by_cases hp : ((s.inbox.size + p.length : Nat) : Int) ≤ cap
      · simp only [obey, deliver_fitting h hp] at ho
        have hadd : Fits cap (s.inbox.add p) := ⟨hp, by rw [Inbox.content_add, List.length_append, hs.2]; rfl⟩
        obtain ⟨hfits, hwhole, hexcess⟩ := ih (s := s.told s.status (p :: s.passed) (s.inbox.add p)) h hadd ho
        have hcontent : (s.told s.status (p :: s.passed) (s.inbox.add p)).inbox.content = s.inbox.content ++ p :=
          Inbox.content_add p s.inbox
        rw [hcontent, List.append_assoc, ← hspell] at hwhole hexcess
        rw [← hstatuses] at hwhole
        exact ⟨hfits, hwhole, hexcess⟩
      · obtain ⟨m, hd⟩ := deliver_excess h (Int.not_le.1 hp)
        simp only [obey, hd] at ho
        cases ho
        refine ⟨hs, fun hb => absurd hb (Option.some_ne_none _), fun k hk => ?_⟩
        cases hk
        refine ⟨⟨m, rfl⟩, ?_⟩
        rw [hspell, List.length_append, List.length_append, hs.2]
        omega

/-! ## A message under a cap -/

/-- The inbox has filled with what a message says, from its beginning, and never held more than the cap. -/
def FilledWithin (cap : Int) (letters : List Http.Letter) (i : Inbox) : Prop :=
  ∃ (s : Session) (said : List Http.Event), CollectsWithin cap s ∧ s.inbox = {} ∧ spell said <+: letters
    ∧ i = (s.obey said).2.inbox ∧ ∀ k, (((s.obey (said.take k)).2.inbox.size : Nat) : Int) ≤ cap

/-- How the reception of a message ends: with its status and its body if the body fits, and with a refusal if not. -/
structure Taken (cap : Int) (m : Http.Message) (b : Option Break) (t : Session) : Prop where
  filled : FilledWithin cap m.letters t.inbox
  whole : (m.body.length : Int) ≤ cap → b = none ∧ t.status = some m.status ∧ t.inbox.content = m.body
  excess : cap < (m.body.length : Int) → ∃ text, b = some (.failed .writeError text)

theorem taken_of_obey {cap : Int} {m : Http.Message} {said : List Http.Event} {s t u : Session} {b c : Option Break}
    (h : CollectsWithin cap s) (hcap : 0 ≤ cap) (hempty : s.inbox = {}) (hstatus : s.status = none)
    (ho : s.obey said = (b, t)) (hsaid : spell said <+: m.letters) (hall : b = none → spell said = m.letters)
    (hinbox : u.inbox = t.inbox) (hcode : u.status = t.status) (hbreak : c = b) : Taken cap m c u := by
  subst hbreak
  have hnew : Fits cap s.inbox := by
    rw [hempty]
    exact ⟨hcap, rfl⟩
  have hpre (k : Nat) : (((s.obey (said.take k)).2.inbox.size : Nat) : Int) ≤ cap :=
    (obey_capped h hnew rfl).fits.1
  have hcontent : s.inbox.content = [] := by
    rw [hempty]
    rfl
  obtain ⟨hfits, hwhole, hexcess⟩ := obey_capped h hnew ho
  rw [hcontent, List.nil_append] at hwhole hexcess
  have hbody := m.bodyOf_letters
  have hcodes := m.statusesOf_letters
  have hlength : (bodyOf (spell said)).length ≤ m.body.length := by
    obtain ⟨more, hmore⟩ := hsaid
    rw [← hbody, ← hmore, Http.bodyOf_append, List.length_append]
    omega
  refine ⟨⟨s, said, h, hempty, hsaid, by rw [hinbox, ho], hpre⟩, fun hle => ?_, fun hlt => ?_⟩
  · cases c with
    | some k =>
      have hover := (hexcess k rfl).2
      omega
    | none =>
      obtain ⟨hin, hst⟩ := hwhole rfl
      rw [hall rfl, hbody] at hin
      rw [hall rfl, hcodes, hstatus] at hst
      exact ⟨rfl, hcode.trans hst, by rw [hinbox, hin]⟩
  · cases c with
    | some k =>
      obtain ⟨text, rfl⟩ := (hexcess k rfl).1
      exact ⟨text, rfl⟩
    | none =>
      have hin := (hwhole rfl).1
      rw [hall rfl, hbody] at hin
      have hsize := hfits.2
      have hle := hfits.1
      rw [hin] at hsize
      omega

section

open ScriptedNetwork

variable {cap : Int} {m : Http.Message} {s : Session} {w : ScriptedNetwork} {a : Option Break × Session × ScriptedNetwork}

/-- **A message that a stream delivers is taken, however it is cut into reads.** -/
theorem Receipt.taken {stream : StreamId} {keep proposed : Bool}
    (r : Receipt stream keep false { proposed := proposed } s w a) (hd : Delivers stream m.bytes w)
    (h : CollectsWithin cap s) (hcap : 0 ≤ cap) (hempty : s.inbox = {}) (hstatus : s.status = none) :
    Taken cap m a.1 a.2.1 := by
  cases r with
  | @interrupted reads mid b t path hungry _ obeyed =>
    obtain ⟨rest, hrest, -⟩ := path.delivered s.readSize_pos hd
    exact taken_of_obey h hcap hempty hstatus obeyed (Http.Message.heard_some proposed hrest) nofun rfl rfl rfl
  | @heard reads mid t a path hungry _ obeyed ending =>
    obtain ⟨rest, hrest, hd'⟩ := path.delivered s.readSize_pos hd
    have hsize : t.readSize = s.readSize := by
      rw [told_of_obey obeyed]
      rfl
    have hfinal (hend : rest = [] ∨ (({ proposed := proposed } : Http.Reader).hear reads).2.2 ≠ .hungry)
        {u : Session} {b : Option Break} (hb : b = none) (hu : ∃ l, u = { t.counting reads.flatten.length with link := l }) :
        Taken cap m b u := by
      obtain ⟨l, rfl⟩ := hu
      exact taken_of_obey h hcap hempty hstatus obeyed (Http.Message.heard_some proposed hrest)
        (fun _ => (Http.Message.heard_all proposed hrest hend).1) rfl rfl hb
    have hstands := fun hend => (Http.Message.heard_all proposed hrest hend).2
    generalize ({ proposed := proposed } : Http.Reader).hear reads = heard at ending hfinal hstands
    obtain ⟨es, reader, standing⟩ := heard
    dsimp only at ending hfinal hstands
    cases ending with
    | complete => exact hfinal (.inr nofun) rfl (finish_fst _ _ _ _ _)
    | switched =>
      rcases hstands (.inr nofun) with ⟨_, hst⟩ | ⟨hst, -⟩
      · cases hst
      · cases hst
    | broken =>
      rcases hstands (.inr nofun) with ⟨_, hst⟩ | ⟨hst, -⟩
      · cases hst
      · cases hst
    | silent hno => cases hno
    | closed _ read =>
      rcases hd'.read (show 0 < (t.counting reads.flatten.length).readSize from hsize ▸ s.readSize_pos) read with
        ⟨rfl, -⟩ | ⟨p, _, hne, hp, -⟩
      · rcases hstands (.inl rfl) with ⟨_, hst⟩ | ⟨-, hend⟩
        · cases hst
        · unfold finishAtEnd
          rw [hend]
          exact hfinal (.inl rfl) rfl (finish_fst _ _ _ _ _)
      · cases hp
        exact absurd rfl hne
    | failed _ read =>
      rcases hd'.read (show 0 < (t.counting reads.flatten.length).readSize from hsize ▸ s.readSize_pos) read with
        ⟨-, ha⟩ | ⟨p, _, -, ha, -⟩
      · cases ha
      · cases ha

/-- A request that is written, to its end. -/
def Sends (u : Url) (s : Session) : Prop := ∃ out, (s.request u).write = .ok out ∧ out.fault = none

theorem Course.taken {u : Url} {stream : StreamId} (c : Course u stream [] false s w a) (hs : s.Sends u)
    (hr : Ready stream m.bytes w) (h : CollectsWithin cap s) (hcap : 0 ≤ cap) (hempty : s.inbox = {})
    (hstatus : s.status = none) : Taken cap m a.1 a.2.1 := by
  obtain ⟨out, hout, hfault⟩ := hs
  cases c with
  | refused request =>
    rw [hout] at request
    cases request
  | unsent request pieces path last =>
    have hready := (hr.after_writes path).1
    obtain ⟨hok, -⟩ := hready.write last
    cases hok
  | withdrawn request path fault =>
    rw [hout] at request
    cases request
    rw [hfault] at fault
    cases fault
  | answered request path fault receipt =>
    obtain ⟨target, fields, body, hpieces⟩ := Http.Request.head_of_write request
    have hdelivers := (hr.after_writes path).2 (by rw [hpieces]; exact List.cons_ne_nil _ _)
    exact receipt.taken hdelivers h hcap hempty hstatus

theorem Opening.ready {o : Origin} {data : Bytes} {a : Except Break StreamId × Session × ScriptedNetwork}
    (c : Opening o s w a) (hw : Answers (o.scheme == "https") data w) :
    ∃ id, a.1 = .ok id ∧ a.2.1 = s.linked o id ∧ Ready id data a.2.2 := by
  have hdropped : Answers (o.scheme == "https") data (s.drop w).2 := by
    cases hl : s.link with
    | none =>
      rw [drop_of_none hl]
      exact hw
    | some l =>
      rw [drop_of_some hl]
      exact hw.close l.stream
  cases c with
  | unconnected connect =>
    obtain ⟨_, ha, -⟩ := hdropped.connect connect
    cases ha
  | plain scheme connect =>
    obtain ⟨_, ha, hready, -⟩ := hdropped.connect connect
    cases ha
    exact ⟨_, rfl, rfl, hready⟩
  | secured scheme connect secure =>
    obtain ⟨_, ha, hready, htls⟩ := hdropped.connect connect
    cases ha
    obtain ⟨ha, hready'⟩ := hready.secure (htls (by simpa using scheme)) secure
    cases ha
    exact ⟨_, rfl, rfl, hready'⟩
  | unsecured scheme connect secure =>
    obtain ⟨_, ha, hready, htls⟩ := hdropped.connect connect
    cases ha
    obtain ⟨ha, -⟩ := hready.secure (htls (by simpa using scheme)) secure
    cases ha
  | abandoned scheme connect secure =>
    obtain ⟨_, ha, hready, htls⟩ := hdropped.connect connect
    cases ha
    obtain ⟨ha, -⟩ := hready.secure (htls (by simpa using scheme)) secure
    cases ha

theorem Anew.taken {u : Url} (c : Anew u s w a) (hs : s.Sends u)
    (hw : Answers (u.origin.scheme == "https") m.bytes w) (h : CollectsWithin cap s) (hcap : 0 ≤ cap)
    (hempty : s.inbox = {}) (hstatus : s.status = none) : Taken cap m a.1 a.2.1 := by
  cases c with
  | unopened opening =>
    obtain ⟨_, ha, -⟩ := opening.ready hw
    cases ha
  | opened opening course =>
    obtain ⟨id, ha, hsession, hready⟩ := opening.ready hw
    cases ha
    dsimp only at hsession hready
    subst hsession
    exact course.taken hs hready h hcap hempty hstatus

/-- How a transfer of a message ends. -/
structure Transmitted (cap : Int) (m : Http.Message) (a : Except Fault TransferCode × Session × ScriptedNetwork) : Prop where
  filled : FilledWithin cap m.letters a.2.1.inbox
  whole : (m.body.length : Int) ≤ cap →
    a.1 = .ok .ok ∧ a.2.1.status = some m.status ∧ a.2.1.inbox.content = m.body
  excess : cap < (m.body.length : Int) → a.1 = .ok .writeError

/-- **A transfer over a network that answers with a message ends as the message and the cap tell.** -/
theorem perform_message {text : String} {u : Url} (hclosed : s.closed = false) (hurl : s.url = some (text, u))
    (hopen : s.hasOpenStream w = false) (hs : s.Sends u) (hw : Answers (u.origin.scheme == "https") m.bytes w)
    (h : CollectsWithin cap s) (hcap : 0 ≤ cap) (hempty : s.inbox = {}) : Transmitted cap m (s.perform w) := by
  have hattempt {u' : Url} {text' : String} (hu : s.url = some (text', u'))
      {b : Option Break × Session × ScriptedNetwork} (c : Attempt u' s.started w b) : Taken cap m b.1 b.2.1 := by
    rw [hurl, Option.some.injEq, Prod.mk.injEq] at hu
    obtain ⟨-, rfl⟩ := hu
    have hnone : s.started.reusable? u.origin w = none := reusable?_eq_none hopen
    cases c with
    | fresh _ anew => exact anew.taken hs hw h hcap hempty rfl
    | reused usable =>
      rw [hnone] at usable
      cases usable
    | repeated usable =>
      rw [hnone] at usable
      cases usable
  have hc := perform_spec s w
  generalize s.perform w = b at hc ⊢
  cases hc with
  | closed hyes =>
    rw [hclosed] at hyes
    cases hyes
  | aimless _ url =>
    rw [hurl] at url
    cases url
  | done _ url attempt =>
    obtain ⟨hfilled, hwhole, hexcess⟩ := hattempt url attempt
    refine ⟨hfilled, fun hle => ⟨rfl, (hwhole hle).2⟩, fun hlt => ?_⟩
    obtain ⟨_, hb⟩ := hexcess hlt
    cases hb
  | @failed _ _ code msg t w' _ url attempt =>
    obtain ⟨hfilled, hwhole, hexcess⟩ := hattempt url attempt
    refine ⟨?_, fun hle => ?_, fun hlt => ?_⟩
    · dsimp only
      rw [fail_snd]
      exact hfilled
    · have hb := (hwhole hle).1
      cases hb
    · obtain ⟨_, hb⟩ := hexcess hlt
      cases hb
      rfl
  | escaped _ url attempt =>
    obtain ⟨hfilled, hwhole, hexcess⟩ := hattempt url attempt
    refine ⟨hfilled, fun hle => ?_, fun hlt => ?_⟩
    · have hb := (hwhole hle).1
      cases hb
    · obtain ⟨_, hb⟩ := hexcess hlt
      cases hb

end

end Session
end Transport
