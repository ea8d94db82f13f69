import ContentTransport.Proofs.Connection.Segmentation
import ContentTransport.Proofs.Connection.Served
import ContentTransport.Proofs.Session.Resting
import ContentTransport.ScriptedConnection
/-!
# Double — a scripted connection answers as a connection does

A connection to a server and a scripted connection may be given the same replies: the one as the bytes that the server
sends, the other as statuses and bodies (`Stands`).  Then every call is answered alike by both, and takes the next reply
from both (`double_answers_alike`).  Only the words differ in which a body beyond the cap is refused.  A garbled call
breaks off alike on both, and takes nothing from either.
-/
namespace Transport
namespace Connection

open ScriptedNetwork
open Session (Rests Passed Taken CollectsWithin)

/-! ## A scripted reply -/

theorem flatten_cut (n : Nat) (body : Bytes) : (ScriptedReply.cut n body).flatten = body := by
  fun_induction ScriptedReply.cut n body with
  | case1 => rfl
  | case2 b rest ih => rw [List.flatten_cons, ih, List.take_append_drop]

/-- Pieces are gathered into one body if they fit, and refused if they do not. -/
theorem gather_eq {cap : Int} (pieces : List Bytes) {i : Inbox} (fits : (i.size : Int) ≤ cap) :
    ScriptedConnection.gather cap pieces i
      = if ((i.size + pieces.flatten.length : Nat) : Int) ≤ cap then some (pieces.foldl (fun i p => i.add p) i)
        else none := by
  induction pieces generalizing i with
  | nil => simpa [ScriptedConnection.gather] using fits
  | cons p pieces ih =>
    have hsize : (i.add p).size = i.size + p.length := rfl
    have hall : i.size + (p :: pieces).flatten.length = (i.add p).size + pieces.flatten.length := by
      rw [List.flatten_cons, List.length_append, hsize, Nat.add_assoc]
    rw [ScriptedConnection.gather, hall]
    by_cases hp : ((i.size + p.length : Nat) : Int) > cap
    · rw [if_pos hp, if_neg (by omega)]
    · rw [if_neg hp, ih (by omega), List.foldl_cons]

theorem content_foldl_add (pieces : List Bytes) (i : Inbox) :
    (pieces.foldl (fun i p => i.add p) i).content = i.content ++ pieces.flatten := by
  induction pieces generalizing i with
  | nil => simp
  | cons p pieces ih => rw [List.foldl_cons, ih, Inbox.content_add, List.flatten_cons, List.append_assoc]

/-- A scripted reply is answered as a message with its status and its body is. -/
theorem answersTo_answerTo {cap : Int} {p : ScriptedReply} {m : Http.Message} (succeeds : p.failure = none)
    (pieces : 1 ≤ p.pieceSize) (status : p.status = m.status) (body : p.body = m.body) (hcap : 0 ≤ cap) (r : Reporter) :
    AnswersTo m cap r (ScriptedConnection.answerTo cap p r).1 := by
  have hpieces : ∃ n, p.pieces = .ok (ScriptedReply.cut n p.body) := by
    unfold ScriptedReply.pieces
    match hn : p.pieceSize with
    | .ofNat 0 =>
      rw [hn] at pieces
      cases pieces
    | .ofNat (n + 1) => exact ⟨n, rfl⟩
    | .negSucc n => omega
  obtain ⟨n, hpieces⟩ := hpieces
  have hgather := gather_eq (ScriptedReply.cut n p.body) (i := {}) hcap
  have hzero : ({} : Inbox).size = 0 := rfl
  rw [flatten_cut, hzero, Nat.zero_add] at hgather
  unfold ScriptedConnection.answerTo
  rw [succeeds, hpieces]
  dsimp only
  rw [hgather, body]
  by_cases hle : (m.body.length : Int) ≤ cap
  · rw [if_pos hle]
    refine ⟨fun _ => ?_, fun hlt => absurd hle (Int.not_le.2 hlt)⟩
    dsimp only
    rw [content_foldl_add, flatten_cut, status]
    exact answer_ofStatus m.status m.body r
  · rw [if_neg hle]
    exact ⟨fun hle' => absurd hle' hle, fun _ => ⟨_, report_fst _ r⟩⟩

/-! ## A transfer that takes the next reply -/

section

variable {cap : Int} {m : Http.Message} {rest : List Reply} {s : Session} {w : ScriptedNetwork} {r : Reporter}
  {a : Option Break × Session × ScriptedNetwork}

/-- A call goes on from a message that has been taken with the answer to it. -/
theorem answersTo_concluded (taken : Taken cap m a.1 a.2.1) (sound : Sound a.2.1) (r : Reporter) :
    AnswersTo m cap r (concluded r a).1 := by
  obtain ⟨b, t, w⟩ := a
  refine ⟨fun hle => ?_, fun hlt => ?_⟩
  · obtain ⟨hb, hstatus, hcontent⟩ := taken.whole hle
    cases hb
    exact judge_fst (t := released t) sound hstatus hcontent r
  · obtain ⟨text, hb⟩ := taken.excess hlt
    cases hb
    exact ⟨_, report_fst _ r⟩

theorem rests_concluded (taken : Taken cap m a.1 a.2.1) (passed : Passed rest a) (r : Reporter) :
    Rests rest (concluded r a).2.1 (concluded r a).2.2.2 := by
  obtain ⟨b, t, w⟩ := a
  by_cases hle : (m.body.length : Int) ≤ cap
  · obtain ⟨hb, -⟩ := taken.whole hle
    cases hb
    exact ⟨passed.queues, (passed.rests rfl).idle⟩
  · obtain ⟨text, hb⟩ := taken.excess (Int.not_le.1 hle)
    cases hb
    refine Session.rests_of_unlinked (Session.queues_drop passed.queues t) ?_
    dsimp only [concluded]
    rw [Session.fail_snd]
    rfl

theorem listener_judge (s : Session) (r : Reporter) : (judge s r).2.listener = r.listener := by
  unfold judge
  split
  · rfl
  · rfl
  · dsimp only
    split <;> rfl

theorem listener_concluded (r : Reporter) (a : Option Break × Session × ScriptedNetwork) :
    (concluded r a).2.2.1.listener = r.listener := by
  obtain ⟨_ | ⟨code, text⟩ | f, t, w⟩ := a
  · exact listener_judge (released t) r
  · rfl
  · rfl

theorem sends_arranged {text : String} {u : Url} {k : Call} {body : Option Bytes} (hu : Requestable text u)
    (hk : Requests text k) (accepted : k.Accepted text u body) (cap : Int) (s : Session) :
    (arranged cap text u s body).started.Sends u := by
  cases hk with
  | get =>
    cases accepted with
    | get aims => exact Http.Request.write_get hu.writable rfl rfl rfl
  | @post body b bytes short =>
    cases accepted with
    | post _ bytes' =>
      cases bytes.symm.trans bytes'
      have hrequest : (arranged cap text u s (some b)).started.request u = requested u (some b) :=
        @request_posted cap s text u b
      unfold Session.Sends
      rw [hrequest]
      exact Http.Request.write_post hu.writable rfl (fun f hf => List.mem_singleton.1 hf ▸ contentLine_ok) short

/-! ## A call -/

theorem accepted_of_requests {text : String} {u : Url} {k : Call} (hu : Requestable text u) (hk : Requests text k) :
    ∃ body, k.Accepted text u body := by
  have haims : Aims (.text text) text u := ⟨rfl, hu.parses, hu.speaks⟩
  cases hk with
  | get => exact ⟨none, .get haims⟩
  | post bytes => exact ⟨some _, .post haims bytes⟩

/-- A connection that is ready for the next of some replies. -/
structure Expects (replies : List Reply) (c : Connection ScriptedNetwork) : Prop where
  takesFields : c.refusesFields = false
  session : ∃ s, c.session = some s ∧ Sound s ∧ Rests replies s c.network

/-- **A call takes the next reply, and answers to it.** -/
theorem Expects.call {c : Connection ScriptedNetwork} {limit : Option Int} {text : String} {u : Url} {k : Call}
    (h : Expects (⟨m.bytes, limit, none⟩ :: rest) c) (hlimit : ∀ l, limit = some l → 1 ≤ l) (closes : m.Closes)
    (hu : Requestable text u) (hk : Requests text k) : AnswersTo m c.settings.cap.toInt c.reporter (c.call k).1
      ∧ Expects rest (c.call k).2 ∧ (c.call k).2.settings = c.settings
      ∧ (c.call k).2.reporter.listener = c.reporter.listener := by
  obtain ⟨s, hc, hsound, hrests⟩ := h.session
  obtain ⟨body, accepted⟩ := accepted_of_requests hu hk
  obtain ⟨-, -, t, ht, hconfig⟩ := call_config hc hsound h.takesFields k
  have hlink : (arranged c.settings.cap.toInt text u s body).started.link = s.link := by cases body <;> rfl
  have hrests' : Rests (⟨m.bytes, limit, none⟩ :: rest) (arranged c.settings.cap.toInt text u s body).started c.network :=
    ⟨hrests.queues, fun l hl => hrests.idle l (hlink ▸ hl)⟩
  have hcollects : CollectsWithin c.settings.cap.toInt (arranged c.settings.cap.toInt text u s body).started := by
    cases body <;> exact ⟨rfl, rfl⟩
  have hspec := Session.attempt_spec u (arranged c.settings.cap.toInt text u s body).started c.network
  obtain ⟨htaken, hpassed⟩ := hspec.succession hrests' hlimit (sends_arranged hu hk accepted _ s) closes hcollects
    c.settings.cap_nonneg (by cases body <;> rfl) (by cases body <;> rfl)
  have hsound' := hsound.of_config ((config_of_options hspec.options).trans (config_arranged _ _ _ _ _))
  rw [call_served hc hsound h.takesFields accepted] at ht ⊢
  refine ⟨answersTo_concluded htaken hsound' _, ⟨h.takesFields, _, rfl, ?_, ?_⟩, rfl, listener_concluded _ _⟩
  · cases ht
    exact hsound.of_config hconfig
  · have hend := rests_concluded htaken hpassed c.reporter
    exact ⟨hend.queues, fun l hl => hend.idle l (link_dismissed _ body _ ▸ hl)⟩

theorem expects_of_make {settings : Settings} {creation : Option Fault} {r r' : Reporter} {o : Outcome}
    {c : Connection ScriptedNetwork} (made : make settings creation r { replies := rest } = (.ok (o, some c), r')) :
    Expects rest c ∧ c.settings = settings ∧ c.reporter = r' := by
  obtain ⟨s, hsession, rfl⟩ := make_ok (congrArg Prod.fst made)
  have hqueues : Queues rest ({ replies := rest } : ScriptedNetwork) := ⟨⟨rfl, fun _ => rfl, nofun⟩, rfl⟩
  have hlink : s.link = none := (sameStream_sessionFor hsession).link
  exact ⟨⟨rfl, s, rfl, sound_sessionFor hsession, Session.rests_of_unlinked hqueues hlink⟩, rfl,
    congrArg Prod.snd made⟩

/-! ## Two answers to one message -/

theorem failed_of_listener {r' : Reporter} (h : r.listener = r'.listener) (o : Outcome) : failed o r = failed o r' := by
  unfold failed
  rw [h]

theorem decided_failed (o o' : Outcome) (r : Reporter) (h : o.code = o'.code) :
    decided (failed o r) = decided (failed o' r) := by
  rw [← report_fst, ← report_fst]
  exact decided_report o o' r h

theorem AnswersTo.agree {r' : Reporter} {x y : Except Fault Answer} (hx : AnswersTo m cap r x) (hy : AnswersTo m cap r' y)
    (listener : r.listener = r'.listener) : decided x = decided y ∧ ((m.body.length : Int) ≤ cap → x = y) := by
  have hfits (hle : (m.body.length : Int) ≤ cap) : x = y := by
    rw [hx.fits hle, hy.fits hle, failed_of_listener listener]
  refine ⟨?_, hfits⟩
  by_cases hle : (m.body.length : Int) ≤ cap
  · rw [hfits hle]
  · obtain ⟨text, rfl⟩ := hx.exceeds (Int.not_le.1 hle)
    obtain ⟨text', rfl⟩ := hy.exceeds (Int.not_le.1 hle)
    rw [failed_of_listener listener]
    exact decided_failed _ _ r' rfl

theorem AnswersTo.returns {x : Except Fault Answer} (h : AnswersTo m cap r x) (taking : r.listener.answer = .ok ()) :
    ∃ answer, x = .ok answer := by
  by_cases hle : (m.body.length : Int) ≤ cap
  · rw [h.fits hle]
    split
    · exact ⟨_, rfl⟩
    · exact ⟨_, failed_of_taking taking _⟩
  · obtain ⟨text, rfl⟩ := h.exceeds (Int.not_le.1 hle)
    exact ⟨_, failed_of_taking taking _⟩

end

end Connection

/-! ## A call on a double -/

namespace ScriptedConnection

open Connection (Requestable Requests)

def call (k : Connection.Call) (c : ScriptedConnection) (r : Reporter) : Except Fault Answer × ScriptedConnection × Reporter :=
  match k with
  | .get url => c.get url r
  | .post url body => c.post url body r

theorem listener_answerTo (cap : Int) (p : ScriptedReply) (r : Reporter) : (answerTo cap p r).2.listener = r.listener := by
  unfold answerTo
  split
  · rfl
  · split
    · rfl
    · split
      · rfl
      · dsimp only
        split <;> rfl

/-- A call takes the next reply of the script, and answers to it. -/
theorem call_cons {c : ScriptedConnection} {p : ScriptedReply} {ps : List ScriptedReply} {text : String} {u : Url}
    {k : Connection.Call} (hc : c.replies = p :: ps) (hu : Requestable text u) (hk : Requests text k) (r : Reporter) :
    ∃ seen, c.call k r = ((answerTo c.cap p r).1, { c with replies := ps, seen := seen }, (answerTo c.cap p r).2) := by
  have htruth := hu.truth
  cases hk with
  | get =>
    refine ⟨c.seen ++ [{ method := .get, url := .text text }], ?_⟩
    simp [call, get, htruth, respond, hc]
  | @post body b bytes short =>
    refine ⟨c.seen ++ [{ method := .post, url := .text text, body := some b }], ?_⟩
    simp [call, post, htruth, bytes, respond, hc]

/-- A garbled call breaks off on a double as well, and takes no reply. -/
theorem call_garbled {k : Connection.Call} {f : Fault} (garbled : k.garbling? = some f) (d : ScriptedConnection)
    (r : Reporter) : d.call k r = (.error f, d, r) := by
  cases k with
  | get url => cases garbled
  | post url body =>
    cases htruth : url.truth with
    | false => simp [Connection.Call.garbling?, htruth] at garbled
    | true =>
      rcases hbytes : Connection.bodyBytes? body with g | b
      · obtain rfl : g = f := by simpa [Connection.Call.garbling?, htruth, hbytes] using garbled
        simp [call, post, htruth, hbytes]
      · simp [Connection.Call.garbling?, htruth, hbytes] at garbled

/-- The answers to calls, one after the other, and the double after them. -/
def calls : List Connection.Call → ScriptedConnection → Reporter → List (Except Fault Answer) × ScriptedConnection
  | [], c, _ => ([], c)
  | k :: ks, c, r =>
    let (answer, c, r) := c.call k r
    let (answers, c) := calls ks c r
    (answer :: answers, c)

end ScriptedConnection

/-! ## Calls on a connection and on its double -/

namespace Connection

/-- The answers to calls, one after the other, and the connection after them. -/
def calls {ν : Type} [Network ν] : List Call → Connection ν → List (Except Fault Answer) × Connection ν
  | [], c => ([], c)
  | k :: ks, c =>
    let (answer, c) := c.call k
    let (answers, c) := calls ks c
    (answer :: answers, c)

/-- What a server sends stands for a scripted reply: it has its status and its body, with any reason, and comes in any
reads. -/
structure Stands (p : ScriptedReply) (q : Reply) : Prop where
  succeeds : p.failure = none
  pieces : 1 ≤ p.pieceSize
  text : ∃ status reason, p.status = (status : Nat) ∧ Http.Repliable status reason p.body
    ∧ q.data = Http.replyText status reason p.body
  limit : ∀ l, q.limit = some l → 1 ≤ l
  fault : q.fault = none

theorem stands_replyText {status : Nat} {reason body : Bytes} (h : Http.Repliable status reason body) {n : Int}
    (hn : 1 ≤ n) {limit : Option Int} (hlimit : ∀ l, limit = some l → 1 ≤ l) :
    Stands { status := status, body := body, pieceSize := n } ⟨Http.replyText status reason body, limit, none⟩ :=
  ⟨rfl, hn, ⟨status, reason, rfl, h, rfl⟩, hlimit, rfl⟩

/-- What comes of `n` calls on a connection over some replies and on a double with their script: the answers decide by
the same code and the same body, and are the same where the body fits; both have taken one reply for each call. -/
structure Doubled (cap : Int) (script : List ScriptedReply) (replies : List Reply) (n : Nat)
    (a : List (Except Fault Answer) × Connection ScriptedNetwork) (b : List (Except Fault Answer) × ScriptedConnection) :
    Prop where
  count : a.1.length = n
  decided : a.1.map decided = b.1.map decided
  same : ∀ (i : Nat) (p : ScriptedReply), script[i]? = some p → (p.body.length : Int) ≤ cap → a.1[i]? = b.1[i]?
  served : a.2.network.replies = replies.drop n
  played : b.2.replies = script.drop n

theorem Doubled.cons {cap : Int} {p : ScriptedReply} {q : Reply} {script : List ScriptedReply} {replies : List Reply}
    {n : Nat} {x y : Except Fault Answer} {xs : List (Except Fault Answer) × Connection ScriptedNetwork}
    {ys : List (Except Fault Answer) × ScriptedConnection} (h : Doubled cap script replies n xs ys)
    (decides : Connection.decided x = Connection.decided y) (same : (p.body.length : Int) ≤ cap → x = y) :
    Doubled cap (p :: script) (q :: replies) (n + 1) (x :: xs.1, xs.2) (y :: ys.1, ys.2) where
  count := by rw [List.length_cons, h.count]
  decided := by rw [List.map_cons, List.map_cons, decides, h.decided]
  same i p' hp' hle := by
    cases i with
    | zero =>
      cases hp'
      rw [List.getElem?_cons_zero, List.getElem?_cons_zero, same hle]
    | succ i =>
      rw [List.getElem?_cons_succ] at hp' ⊢
      exact h.same i p' hp' hle
  served := h.served
  played := h.played

/-- **Calls on a connection that expects the replies are answered as its double answers them.** -/
theorem Expects.doubled (ks : List Call) {script : List ScriptedReply} {replies : List Reply}
    {c : Connection ScriptedNetwork} {d : ScriptedConnection} {r : Reporter} (stands : List.Forall₂ Stands script replies)
    (enough : ks.length ≤ script.length) (requests : ∀ k ∈ ks, ∃ text u, Requestable text u ∧ Requests text k)
    (h : Expects replies c) (hscript : d.replies = script) (hcap : d.cap = c.settings.cap.toInt)
    (listener : c.reporter.listener = r.listener) :
    Doubled c.settings.cap.toInt script replies ks.length (c.calls ks) (d.calls ks r)
      ∧ (r.listener.answer = .ok () → ∀ x ∈ (c.calls ks).1 ++ (d.calls ks r).1, ∃ answer, x = .ok answer) := by
  induction ks generalizing script replies c d r with
  | nil =>
    obtain ⟨s, -, -, hrests⟩ := h.session
    exact ⟨⟨rfl, rfl, fun _ _ _ _ => rfl, hrests.queues.replies, hscript⟩, fun _ _ hx => nomatch hx⟩
  | cons k ks ih =>
    cases stands with
    | nil => cases enough
    | @cons p q script replies hpq stands =>
      obtain ⟨text, u, hu, hk⟩ := requests k List.mem_cons_self
      obtain ⟨status, reason, hstatus, repliable, hdata⟩ := hpq.text
      have hq : q = ⟨repliable.message.bytes, q.limit, none⟩ := by
        rw [repliable.bytes_message, ← hdata, ← hpq.fault]
      rw [hq] at h
      obtain ⟨hanswer, hexpects, hsettings, hlistener⟩ := h.call hpq.limit repliable.closes hu hk
      obtain ⟨seen, hdouble⟩ := ScriptedConnection.call_cons hscript hu hk r
      rw [hcap] at hdouble
      have hanswer' := answersTo_answerTo hpq.succeeds hpq.pieces (m := repliable.message) hstatus rfl
        c.settings.cap_nonneg r
      obtain ⟨hdecided, hsame⟩ := hanswer.agree hanswer' listener
      have hlistener' : (c.call k).2.reporter.listener
          = (ScriptedConnection.answerTo c.settings.cap.toInt p r).2.listener :=
        (hlistener.trans listener).trans (ScriptedConnection.listener_answerTo _ _ _).symm
      obtain ⟨hrest, hreturns⟩ := ih (d := ⟨script, c.settings.cap.toInt, seen, d.closed⟩) stands
        (Nat.le_of_succ_le_succ enough) (fun k' hk' => requests k' (List.mem_cons_of_mem k hk')) hexpects rfl
        (hsettings ▸ rfl) hlistener'
      rw [hsettings] at hrest
      have hcalls : c.calls (k :: ks) = ((c.call k).1 :: ((c.call k).2.calls ks).1, ((c.call k).2.calls ks).2) := rfl
      have hcalls' : d.calls (k :: ks) r = ((d.call k r).1 :: ((d.call k r).2.1.calls ks (d.call k r).2.2).1,
        ((d.call k r).2.1.calls ks (d.call k r).2.2).2) := rfl
      rw [hcalls, hcalls', hdouble]
      dsimp only
      refine ⟨hrest.cons hdecided hsame, fun taking x hx => ?_⟩
      have taking' : (ScriptedConnection.answerTo c.settings.cap.toInt p r).2.listener.answer = .ok () :=
        ScriptedConnection.listener_answerTo c.settings.cap.toInt p r ▸ taking
      rw [List.cons_append, List.mem_cons, List.mem_append, List.mem_cons] at hx
      obtain rfl | hx | rfl | hx := hx
      · exact hanswer.returns (listener ▸ taking)
      · exact hreturns taking' x (List.mem_append_left _ hx)
      · exact hanswer'.returns taking
      · exact hreturns taking' x (List.mem_append_right _ hx)

/-- **Calls on a new connection and on its double are answered alike**, whatever they request and however far the body
of a reply goes beyond the cap; where failures can be reported, every call on either returns an answer.  A call with a
body that UTF-8 cannot write breaks off with the same fault on both, whenever it is made, and takes nothing from
either. -/
theorem double_answers_alike {settings : Settings} {creation : Option Fault} {o : Outcome} {r r' heard : Reporter}
    {c : Connection ScriptedNetwork} {script : List ScriptedReply} {replies : List Reply} {ks : List Call}
    (stands : List.Forall₂ Stands script replies)
    (made : make settings creation r { replies := replies } = (.ok (o, some c), r'))
    (listener : r'.listener = heard.listener) (enough : ks.length ≤ script.length)
    (requests : ∀ k ∈ ks, ∃ text u, Requestable text u ∧ Requests text k) :
    Doubled settings.cap.toInt script replies ks.length (c.calls ks)
        (({ replies := script, cap := settings.cap.toInt } : ScriptedConnection).calls ks heard)
      ∧ (heard.listener.answer = .ok () → ∀ x ∈ (c.calls ks).1
          ++ (({ replies := script, cap := settings.cap.toInt } : ScriptedConnection).calls ks heard).1,
        ∃ answer, x = .ok answer)
      ∧ ∀ (k : Call) (f : Fault), k.garbling? = some f → ∀ (c : Connection ScriptedNetwork) (d : ScriptedConnection)
          (r : Reporter), c.call k = (.error f, c) ∧ d.call k r = (.error f, d, r) := by
  obtain ⟨hexpects, rfl, rfl⟩ := expects_of_make made
  obtain ⟨hdoubled, hreturns⟩ := hexpects.doubled ks (d := { replies := script, cap := c.settings.cap.toInt }) stands
    enough requests rfl rfl listener
  exact ⟨hdoubled, hreturns, fun k f garbled c d r => ⟨call_garbled garbled, d.call_garbled garbled r⟩⟩

/-- Settings whose cap is six bytes. -/
def strict : Settings := { Settings.default with cap := .number 6, cap_nonneg := by decide }

/-- A body that fits, one that does not, a failure, and a reply without a body. -/
def played : List ScriptedReply :=
  [{ body := Bytes.ofText "hello", pieceSize := 2 }, { body := Bytes.ofText "too long", pieceSize := 3 },
    { status := 404, body := Bytes.ofText "no" }, { status := 204 }]

def served : List Reply :=
  [⟨Http.replyText 200 (Bytes.ofText "OK") (Bytes.ofText "hello"), some 1, none⟩,
    ⟨Http.replyText 200 (Bytes.ofText "OK") (Bytes.ofText "too long"), some 4, none⟩,
    ⟨Http.replyText 404 (Bytes.ofText "Not Found") (Bytes.ofText "no"), none, none⟩,
    ⟨Http.replyText 204 [] [], some 7, none⟩]

def asked : List Call :=
  [.get (.text "http://h/"), .post (.text "https://h/p") (.value (.text "b")),
    .get (.text "https://h/p"), .get (.text "http://h/")]

theorem stands_served : List.Forall₂ Stands played served :=
  .cons (stands_replyText ⟨by decide, by decide, by decide, by decide, by decide⟩ (by decide) (by decide))
    (.cons (stands_replyText ⟨by decide, by decide, by decide, by decide, by decide⟩ (by decide) (by decide))
      (.cons (stands_replyText ⟨by decide, by decide, by decide, by decide, by decide⟩ (by decide) (by decide))
        (.cons (stands_replyText ⟨by decide, by decide, by decide, by decide, by decide⟩ (by decide) (by decide))
          .nil)))

theorem requests_asked (k : Call) (hk : k ∈ asked) : ∃ text u, Requestable text u ∧ Requests text k := by
  have hplain : Requestable "http://h/" ⟨⟨"http", "h", 80⟩, "/"⟩ :=
    ⟨by rfl, by decide, Bytes.ofText "h", Bytes.ofText "/", by rfl, by decide, by rfl, by decide⟩
  have hsecure : Requestable "https://h/p" ⟨⟨"https", "h", 443⟩, "/p"⟩ :=
    ⟨by rfl, by decide, Bytes.ofText "h", Bytes.ofText "/p", by rfl, by decide, by rfl, by decide⟩
  have hbody : bodyBytes? (.value (.text "b")) = .ok (some (Bytes.ofText "b")) := by rfl
  simp only [asked, List.mem_cons, List.not_mem_nil, or_false] at hk
  obtain rfl | rfl | rfl | rfl := hk
  · exact ⟨_, _, hplain, .get⟩
  · exact ⟨_, _, hsecure, .post hbody (by decide +kernel)⟩
  · exact ⟨_, _, hsecure, .get⟩
  · exact ⟨_, _, hplain, .get⟩

def newlyMade : Connection ScriptedNetwork where
  settings := strict
  session := some Scene.new.session
  reporter := {}
  network := { replies := served }

/-- Four calls on a connection with that cap are answered as its double foretells. -/
theorem double_answers_four :
    make strict none {} { replies := served } = (.ok (.ok, some newlyMade), {})
      ∧ ((newlyMade.calls asked).1.map decided).map Except.toOption
        = [some (.ok, Bytes.ofText "hello"), some (.connectionUnexpectedError, []), some (.httpNotFound, []),
          some (.httpUnexpected, [])]
      ∧ (newlyMade.calls asked).2.network.replies = [] := by
  have hmade : make strict none {} { replies := served } = (.ok (.ok, some newlyMade), {}) := rfl
  have hears : ({} : Reporter).listener = ({} : Reporter).listener := rfl
  obtain ⟨hdoubled, -⟩ := double_answers_alike stands_served hmade hears (by decide) requests_asked
  refine ⟨hmade, ?_, hdoubled.served⟩
  rw [hdoubled.decided]
  decide +kernel

end Connection
end Transport
