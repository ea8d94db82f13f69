import ContentTransport.Proofs.Http.Cuts
import ContentTransport.Proofs.Network.Supply
import ContentTransport.Proofs.Session.Resend
import ContentTransport.Proofs.Session.Capped
/-!
# Fate — how a transfer on a new stream ends

What becomes of a reply on a new stream depends on its bytes, on what follows them, and on how long a body the receiver
takes (`fate`).  The reads that the reply comes in have no part in it, unless one of them ends in a line or a head that
is too long (`Overruns`): neither in how the transfer is called nor in the status that it leaves, nor in whether its
stream stays open (`Receipt.fated`).
-/
namespace Transport

open ScriptedNetwork

/-- What a break is called, without its words. -/
def Break.kind : Break → Except Fault TransferCode
  | .failed code _ => .ok code
  | .escaped f => .error f

namespace Session

open Http (spell bodyOf statusesOf Letter)
open Http.Reader (reply Closing Standing)

/-- What a transfer is called that ends with a break, or without one. -/
def called : Option Break → Except Fault TransferCode
  | none => .ok .ok
  | some b => b.kind

theorem kind_readBreak (timeout : Float) (n : Nat) (f : Fault) :
    (readBreak timeout n f).kind = (readBreak timeout 0 f).kind := by
  unfold readBreak timedOut
  split
  · split <;> rfl
  · split <;> rfl

/-! ## Receivers that go by the length -/

/-- A receiver, with its inbox, that takes every body but those of certain lengths. -/
structure Judges (beyond : Nat → Bool) (r : Option Receiver) (collects : Bool) (inbox : Inbox) : Prop where
  zero : beyond 0 = false
  mono : ∀ m n, m ≤ n → beyond m = true → beyond n = true
  takes : ∀ s : Session, s.receiver = r → s.collects = collects → s.inbox = inbox →
    ∀ n ps, beyond ps.flatten.length = false → (s.obey (reply n ps)).1 = none
  stops : ∀ s : Session, s.receiver = r → s.collects = collects → s.inbox = inbox →
    ∀ n ps, beyond ps.flatten.length = true → ∃ m, (s.obey (reply n ps)).1 = some (.failed .writeError m)

theorem spell_pieces (ps : List Bytes) : spell (ps.map .piece) = ps.flatten.map .inr := by
  induction ps with
  | nil => rfl
  | cons p ps ih =>
    rw [List.map_cons, List.flatten_cons, List.map_append, ← ih]
    rfl

theorem spell_reply (n : Nat) (ps : List Bytes) : spell (reply n ps) = .inl n :: ps.flatten.map .inr :=
  congrArg (Sum.inl n :: ·) (spell_pieces ps)

theorem bodyOf_reply (n : Nat) (ps : List Bytes) : bodyOf (spell (reply n ps)) = ps.flatten := by
  rw [spell_reply]
  exact Http.bodyOf_bytes _

theorem judges_capped {cap : Int} (h : 0 ≤ cap) :
    Judges (fun n => decide (cap < n)) (some (.capped cap Receiver.abort)) true {} where
  zero := by simpa using h
  mono m n hmn := by
    simp only [decide_eq_true_eq]
    omega
  takes s hr hc hi n ps hno := by
    have hfits : Fits cap s.inbox := by
      rw [hi]
      exact ⟨h, rfl⟩
    rcases hob : s.obey (reply n ps) with ⟨b, t⟩
    cases b with
    | none => rfl
    | some b =>
      obtain ⟨-, hover⟩ := (obey_capped ⟨hr, hc⟩ hfits hob).excess b rfl
      rw [hi, bodyOf_reply] at hover
      simp only [decide_eq_false_iff_not] at hno
      exact absurd hover hno
  stops s hr hc hi n ps hyes := by
    have hfits : Fits cap s.inbox := by
      rw [hi]
      exact ⟨h, rfl⟩
    rcases hob : s.obey (reply n ps) with ⟨b, t⟩
    obtain ⟨⟨hle, hsize⟩, hwhole, hexcess⟩ := obey_capped ⟨hr, hc⟩ hfits hob
    cases b with
    | some b =>
      obtain ⟨⟨m, rfl⟩, -⟩ := hexcess b rfl
      exact ⟨m, rfl⟩
    | none =>
      obtain ⟨hcontent, -⟩ := hwhole rfl
      rw [hi, bodyOf_reply] at hcontent
      rw [hcontent] at hsize
      have hlength : ps.flatten.length = t.inbox.size := hsize
      simp only [decide_eq_true_eq] at hyes
      omega

theorem judges_collecting (collects : Bool) (inbox : Inbox) :
    Judges (fun _ => false) (some .collecting) collects inbox where
  zero := rfl
  mono _ _ _ h := h
  takes s hr _ _ n ps _ := by
    have hall : ∀ (qs : List Bytes) (t : Session), t.receiver = some .collecting → (t.obey (qs.map .piece)).1 = none := by
      intro qs
      induction qs with
      | nil => exact fun _ _ => rfl
      | cons q qs ih =>
        intro t ht
        simp only [List.map_cons, obey, deliver_of_some ht]
        have htake : (t.taking .collecting q).1 = none := by simp [taking, Receiver.collecting, Receiver.keeping]
        rw [htake]
        exact ih _ ht
    exact hall ps { s with status := some n } hr
  stops _ _ _ _ _ _ h := nomatch h

theorem status_obey_reply (n : Nat) (ps : List Bytes) (s : Session) : (s.obey (reply n ps)).2.status = some n := by
  have hall : ∀ (qs : List Bytes) (t : Session), (t.obey (qs.map .piece)).2.status = t.status := by
    intro qs
    induction qs with
    | nil => exact fun _ => rfl
    | cons q qs ih =>
      intro t
      have htold := congrArg Session.status (deliver_told q t)
      simp only [List.map_cons, obey]
      rcases hd : t.deliver q with ⟨b, u⟩
      rw [hd] at htold
      have hu : u.status = t.status := htold
      cases b with
      | none => exact (ih u).trans hu
      | some b => exact hu
  exact hall ps { s with status := some n }

theorem status_of_obeyed {said : List Http.Event} {s : Session} (h : said = [] ∨ ∃ n ps, said = reply n ps)
    (unsaid : s.status = none) : (s.obey said).2.status = (statusesOf (spell said)).head? := by
  rcases h with rfl | ⟨n, ps, rfl⟩
  · exact unsaid
  · rw [status_obey_reply, spell_reply]
    rfl

/-! ## The fate of a reply -/

/-- What a reply is called that is refused, or that ends too early. -/
def shortfall (data : Bytes) (letters : List Letter) : TransferCode :=
  if data = [] then .gotNothing else if statusesOf letters = [] then .weirdServerReply else .recvError

/-- What a transfer is called whose reply has been taken as far as it goes. -/
def verdict (timeout : Float) (fault : Option NetworkFault) (data : Bytes) (letters : List Letter) :
    Closing → Except Fault TransferCode
  | .complete => .ok .ok
  | .switched => .ok .weirdServerReply
  | .refused => .ok (shortfall data letters)
  | .cut completes =>
    match fault with
    | some f => (readBreak timeout 0 (.network f)).kind
    | none => .ok (if completes then .ok else shortfall data letters)

/-- What a transfer is called that is given a reply, and then a fault or the end of the stream. -/
def fate (beyond : Nat → Bool) (timeout : Float) (proposed : Bool) (data : Bytes) (fault : Option NetworkFault) :
    Except Fault TransferCode :=
  let full := ({ proposed := proposed } : Http.Reader).feed data
  if beyond (bodyOf full.letters).length then .ok .writeError
  else verdict timeout fault data full.letters full.closing

/-- A read ends in a line or a head that is too long, and the body that came before that is taken. -/
def Overruns (beyond : Nat → Bool) (proposed : Bool) (reads : List Bytes) : Prop :=
  (({ proposed := proposed } : Http.Reader).hear reads).2.2 = .broken .tooLong
    ∧ beyond (bodyOf (spell (({ proposed := proposed } : Http.Reader).hear reads).1)).length = false

/-- How the reception of a reply ends, as the reply alone tells. -/
structure Fated (beyond : Nat → Bool) (keep proposed : Bool) (data : Bytes) (fault : Option NetworkFault) (s : Session)
    (a : Option Break × Session × Recorded ScriptedNetwork) : Prop where
  code : called a.1 = fate beyond s.timeout proposed data fault
  status : a.2.1.status = (statusesOf (({ proposed := proposed } : Http.Reader).feed data).letters).head?
  heard : a.1 = none → ∃ said, spell said = (({ proposed := proposed } : Http.Reader).feed data).letters
    ∧ (s.obey said).1 = none ∧ a.2.1.inbox = (s.obey said).2.inbox
  kept : a.2.1.hasOpenStream a.2.2
    = (a.1.isSome || keep && (({ proposed := proposed } : Http.Reader).feed data).keepAlive)

section

variable {beyond : Nat → Bool} {keep proposed : Bool} {data : Bytes} {fault : Option NetworkFault} {s : Session}
  {w : Recorded ScriptedNetwork} {a : Option Break × Session × Recorded ScriptedNetwork} {l : Link}

theorem wire_finish (keep ended : Bool) (surplus : Bytes) (s : Session) (w : Recorded ScriptedNetwork) :
    ∃ es, (s.finish keep surplus ended w).2.wire = w.wire ++ es ∧ WireEvent.given es = [] := by
  cases keep with
  | true => exact ⟨[], (List.append_nil _).symm, rfl⟩
  | false =>
    obtain ⟨es, hwire, hcloses⟩ := drop_wire s w
    exact ⟨es, hwire, WireEvent.given_of_closes hcloses⟩

theorem wire_finishAtEnd (keep : Bool) (r : Http.Reader) (s : Session) (w : Recorded ScriptedNetwork) :
    ∃ es, (finishAtEnd keep r s w).2.2.wire = w.wire ++ es ∧ WireEvent.given es = [] := by
  unfold finishAtEnd
  split
  · exact ⟨[], (List.append_nil _).symm, rfl⟩
  · exact wire_finish _ _ _ s w

/-- Once nothing more is obeyed, nothing more is given. -/
theorem Ending.given {stream : StreamId} {ended : Bool} {r : Http.Reader} {st : Standing}
    (h : Ending stream keep ended r st s w a) : ∃ es, a.2.2.wire = w.wire ++ es ∧ WireEvent.given es = [] := by
  cases h with
  | complete => exact wire_finish _ _ _ s w
  | switched => exact ⟨[], (List.append_nil _).symm, rfl⟩
  | broken => exact ⟨[], (List.append_nil _).symm, rfl⟩
  | silent => exact wire_finishAtEnd _ _ s w
  | @closed s w w' _ read =>
    obtain ⟨es, hwire, hgiven⟩ := wire_finishAtEnd keep r s w'
    refine ⟨.read stream s.readSize (.ok []) :: es, ?_, hgiven⟩
    rw [hwire, (Recorded.read_eq read).2, List.append_assoc]
    rfl
  | failed _ read => exact ⟨_, (Recorded.read_eq read).2, rfl⟩

theorem hasOpenStream_of_link {t : Session} (h : t.link.map (·.stream) = some l.stream) (w : Recorded ScriptedNetwork) :
    t.hasOpenStream w = ScriptedNetwork.isOpen l.stream w.network := by
  cases hl : t.link with
  | none => simp [hl] at h
  | some l' =>
    have hs : l'.stream = l.stream := by simpa [hl] using h
    simp only [hasOpenStream, hl, Option.any_some, hs]
    rfl

/-- A stream that is open stays with the session if it may, and is let go of otherwise. -/
theorem hasOpenStream_finish (link : s.link.map (·.stream) = some l.stream)
    (opened : ScriptedNetwork.isOpen l.stream w.network = true) (keep ended : Bool) (surplus : Bytes) :
    (s.finish keep surplus ended w).1.hasOpenStream (s.finish keep surplus ended w).2 = keep := by
  cases keep with
  | true =>
    have hlink : (s.stand (.idle surplus ended)).link.map (·.stream) = some l.stream := by
      simpa [stand] using link
    exact (hasOpenStream_of_link hlink w).trans opened
  | false =>
    simp [finish, hasOpenStream]

theorem kind_replyBreak {t : Session} (f : Http.ReplyFault) {letters : List Letter} (read : t.received = 0 ↔ data = [])
    (status : t.status = (statusesOf letters).head?) : (t.replyBreak f).kind = .ok (shortfall data letters) := by
  unfold replyBreak shortfall
  by_cases hd : data = []
  · simp [hd, read.2 hd, Break.kind]
  · have hr : t.received ≠ 0 := fun h => hd (read.1 h)
    cases hs : statusesOf letters with
    | nil => simp [hd, hr, status, hs, Break.kind]
    | cons n ns => simp [hd, hr, status, hs, Break.kind]

/-- A receiver that breaks off does so because of the body in all. -/
theorem Judges.broken {reads : List Bytes} {rest : Bytes} {b : Break} {t : Session}
    (judges : Judges beyond s.receiver s.collects s.inbox) (fault : Option NetworkFault) (split : data = reads.flatten ++ rest)
    (obeyed : s.obey (({ proposed := proposed } : Http.Reader).hear reads).1 = (some b, t))
    (unsaid : s.status = none) : called (some b) = fate beyond s.timeout proposed data fault
      ∧ t.status = (statusesOf (({ proposed := proposed } : Http.Reader).feed data).letters).head? := by
  have hsaid := Http.Reader.said_in_order proposed reads
  obtain ⟨more, hmore⟩ := Http.Reader.spell_hear_prefix proposed reads rest
  rw [← split] at hmore
  have hstatus := status_of_obeyed hsaid unsaid
  generalize (({ proposed := proposed } : Http.Reader).hear reads).1 = said at obeyed hsaid hmore hstatus
  rcases hsaid with rfl | ⟨n, ps, rfl⟩
  · cases obeyed
  · have hover : beyond ps.flatten.length = true := by
      cases hno : beyond ps.flatten.length with
      | true => rfl
      | false =>
        have htakes := judges.takes s rfl rfl rfl n ps hno
        rw [obeyed] at htakes
        cases htakes
    obtain ⟨m, hm⟩ := judges.stops s rfl rfl rfl n ps hover
    rw [obeyed, Option.some.injEq] at hm
    rw [obeyed] at hstatus
    subst hm
    rw [fate, ← hmore]
    constructor
    · have hall : beyond (bodyOf (spell (reply n ps) ++ more)).length = true := by
        refine judges.mono _ _ ?_ hover
        rw [Http.bodyOf_append, bodyOf_reply, List.length_append]
        omega
      rw [if_pos hall]
      rfl
    · rw [hstatus, spell_reply]
      rfl

/-- A receiver that does not break off takes the body in all. -/
theorem Judges.taken {reads : List Bytes} (judges : Judges beyond s.receiver s.collects s.inbox)
    (obeyed : (s.obey (({ proposed := proposed } : Http.Reader).hear reads).1).1 = none) :
    beyond (bodyOf (spell (({ proposed := proposed } : Http.Reader).hear reads).1)).length = false := by
  rcases Http.Reader.said_in_order proposed reads with hsaid | ⟨n, ps, hsaid⟩
  · rw [hsaid]
    exact judges.zero
  · rw [hsaid] at obeyed ⊢
    rw [bodyOf_reply]
    cases hover : beyond ps.flatten.length with
    | false => rfl
    | true =>
      obtain ⟨m, hm⟩ := judges.stops s rfl rfl rfl n ps hover
      rw [obeyed] at hm
      cases hm

/-- How a reception ends on a stream with so much left to give. -/
structure Finished (keep : Bool) (r : Http.Reader) (data rest : Bytes) (fault : Option NetworkFault) (s : Session)
    (st : Standing) (a : Option Break × Session × Recorded ScriptedNetwork) : Prop where
  all : rest = [] ∨ st ≠ .hungry
  code : ∀ letters, s.status = (statusesOf letters).head? →
    called a.1 = verdict s.timeout fault data letters r.closing
  status : a.2.1.status = s.status
  inbox : a.2.1.inbox = s.inbox
  kept : a.2.1.hasOpenStream a.2.2 = (a.1.isSome || keep && r.keepAlive)
  sound : a.1 = none → ∀ f, st ≠ .broken f

section

variable {r : Http.Reader} {rest : Bytes} {st : Standing}

theorem finished_of_break {b : Break} (link : s.link = some l) (opened : ScriptedNetwork.isOpen l.stream w.network = true)
    (all : rest = [] ∨ st ≠ .hungry)
    (code : ∀ letters, s.status = (statusesOf letters).head? → b.kind = verdict s.timeout fault data letters r.closing) :
    Finished keep r data rest fault s st (some b, s, w) where
  all := all
  code := code
  status := rfl
  inbox := rfl
  kept := (hasOpenStream_of_link (congrArg _ link) w).trans opened
  sound := nofun

theorem finished_of_finish {ended : Bool} {surplus : Bytes} (link : s.link = some l)
    (opened : ScriptedNetwork.isOpen l.stream w.network = true) (all : rest = [] ∨ st ≠ .hungry)
    (code : ∀ letters, .ok .ok = verdict s.timeout fault data letters r.closing) (sound : ∀ f, st ≠ .broken f) :
    Finished keep r data rest fault s st (none, s.finish (keep && r.keepAlive) surplus ended w) := by
  obtain ⟨l', hfinish⟩ := finish_fst (keep && r.keepAlive) ended surplus s w
  refine ⟨all, fun letters _ => code letters, ?_, ?_, ?_, fun _ => sound⟩
  · rw [hfinish]
  · rw [hfinish]
  · exact hasOpenStream_finish (congrArg _ link) opened _ _ _

/-- Each way of ending is called as the reader closes. -/
theorem Ending.finished (h : Ending l.stream keep false r st s w a) (link : s.link = some l)
    (supplies : Supplies l.stream rest fault w.network)
    (read : rest = [] ∨ st ≠ .hungry → (s.received = 0 ↔ data = []))
    (closing : r.closing = st.closing r) : Finished keep r data rest fault s st a := by
  have hopen := supplies.isOpen
  cases h with
  | complete => exact finished_of_finish link hopen (.inr nofun) (fun _ => by rw [closing]; rfl) nofun
  | switched => exact finished_of_break link hopen (.inr nofun) fun _ _ => by rw [closing]; rfl
  | broken =>
    refine finished_of_break link hopen (.inr nofun) fun letters hl => ?_
    rw [closing, kind_replyBreak _ (read (.inr nofun)) hl]
    rfl
  | silent hno => cases hno
  | closed _ hread =>
    have hread := (Recorded.read_eq hread).1
    have hopen := ((alike_read hread).isOpen l.stream).trans hopen
    cases supplies.read s.readSize_pos hread with
    | ended hfault =>
      subst hfault
      unfold finishAtEnd
      cases hend : r.atEnd with
      | none => exact finished_of_finish link hopen (.inl rfl) (fun _ => by rw [closing, Standing.closing, hend]; rfl) nofun
      | some f =>
        refine finished_of_break link hopen (.inl rfl) fun letters hl => ?_
        rw [closing, Standing.closing, hend, kind_replyBreak _ (read (.inl rfl)) hl]
        rfl
    | piece some => exact absurd rfl some
  | failed _ hread =>
    have hread := (Recorded.read_eq hread).1
    have hopen := ((alike_read hread).isOpen l.stream).trans hopen
    cases supplies.read s.readSize_pos hread with
    | broken hfault =>
      refine finished_of_break link hopen (.inl rfl) fun letters _ => ?_
      rw [closing, hfault]
      exact kind_readBreak _ _ _

end

/-- **How a reception ends is told by the reply alone**, however it is cut into reads, unless one of them ends in a line
or a head that is too long. -/
theorem Receipt.fated (r : Receipt l.stream keep false { proposed := proposed } s w a)
    (supplies : Supplies l.stream data fault w.network) (judges : Judges beyond s.receiver s.collects s.inbox)
    (link : s.link = some l) (unread : s.received = 0) (unsaid : s.status = none)
    (short : ∀ es rest, a.2.2.wire = w.wire ++ es → data = (WireEvent.given es).flatten ++ rest →
      ¬Overruns beyond proposed (WireEvent.given es)) :
    Fated beyond keep proposed data fault s a := by
  cases r with
  | @interrupted reads mid b t path _ _ obeyed =>
    obtain ⟨rest, hsplit, hleft⟩ := path.network.supplied s.readSize_pos supplies
    obtain ⟨hcode, hstatus⟩ := judges.broken fault hsplit obeyed unsaid
    have hlink : (t.counting reads.flatten.length).link = some l := (link_of_obey obeyed link : t.link = some l)
    exact ⟨hcode, hstatus, nofun, (hasOpenStream_of_link (congrArg _ hlink) mid).trans hleft.isOpen⟩
  | @heard reads mid t a path _ _ obeyed ending =>
    obtain ⟨rest, hsplit, hleft⟩ := path.network.supplied s.readSize_pos supplies
    have hlink : (t.counting reads.flatten.length).link = some l := (link_of_obey obeyed link : t.link = some l)
    have htime : t.timeout = s.timeout := by
      rw [told_of_obey obeyed]
      rfl
    have hobeyed : (s.obey (({ proposed := proposed } : Http.Reader).hear reads).1).1 = none := by rw [obeyed]
    have htaken := judges.taken hobeyed
    have hshort : (({ proposed := proposed } : Http.Reader).hear reads).2.2 ≠ .broken .tooLong := by
      intro hlong
      obtain ⟨es, hwire, hnone⟩ := ending.given
      have hgiven : WireEvent.given (WireEvent.reads l.stream s.readSize reads ++ es) = reads := by
        rw [WireEvent.given_append, WireEvent.given_reads _ _ path.ne_nil, hnone, List.append_nil]
      have hno := short _ rest (by rw [hwire, path.wire, List.append_assoc]) (hgiven.symm ▸ hsplit)
      rw [hgiven] at hno
      exact hno ⟨hlong, htaken⟩
    have hcount : rest = [] ∨ (({ proposed := proposed } : Http.Reader).hear reads).2.2 ≠ .hungry →
        ((t.counting reads.flatten.length).received = 0 ↔ data = []) := by
      intro hall
      have hreceived : (t.counting reads.flatten.length).received = reads.flatten.length := by
        rw [told_of_obey obeyed]
        simp [counting, told, unread]
      rw [hreceived, hsplit, List.length_eq_zero_iff, List.append_eq_nil_iff]
      refine ⟨fun hnil => ⟨hnil, hall.resolve_right ?_⟩, And.left⟩
      have hnone : reads = [] := List.eq_nil_iff_forall_not_mem.2 fun p hp =>
        path.ne_nil p hp (List.flatten_eq_nil_iff.1 hnil p hp)
      rw [hnone]
      exact fun hne => hne rfl
    obtain ⟨hall, hcode, hstatus, hinbox, hkept, hsound⟩ :=
      ending.finished hlink hleft hcount (Http.Reader.closing_hear _ reads)
    obtain ⟨hsaid, hclosing, hkeep⟩ := Http.Reader.hear_closing hall hshort
    rw [← hsplit] at hsaid hclosing hkeep
    have htold := status_of_obeyed (Http.Reader.said_in_order proposed reads) unsaid
    rw [obeyed, hsaid] at htold
    refine ⟨?_, hstatus.trans htold, fun _ => ⟨_, hsaid, hobeyed, by rw [hinbox, obeyed]; rfl⟩, ?_⟩
    · rw [hsaid] at htaken
      rw [hcode _ htold, hclosing, fate, htaken]
      exact congrArg (verdict · _ _ _ _) htime
    · rw [hkept]
      cases hb : a.1 with
      | some b => rfl
      | none => rw [hkeep (hsound hb)]

/-! ## On a new stream -/

theorem given_of_silent {es : List WireEvent} (h : Silent es) : WireEvent.given es = [] := by
  refine List.filterMap_eq_nil_iff.2 fun e he => ?_
  cases e with
  | read id n x => simpa [WireEvent.readFrom?] using (h _ he id).2
  | _ => rfl

/-- A stream that has been opened takes the replies that there were before. -/
theorem Opening.blank {o : Origin} {id : StreamId} {t : Session} {v : Recorded ScriptedNetwork}
    (c : Opening o s w (.ok id, t, v)) : t = s.linked o id ∧ Blank id v.network ∧ v.network.replies = w.network.replies := by
  have hdrop := (drop_rest s w).2.2.2
  cases c with
  | plain _ connect =>
    obtain ⟨hblank, hreplies⟩ := blank_connect (Recorded.connect_eq connect).1
    exact ⟨rfl, hblank, hreplies.trans hdrop⟩
  | secured _ connect secure =>
    obtain ⟨hblank, hreplies⟩ := blank_connect (Recorded.connect_eq connect).1
    obtain ⟨rfl, hsecured, hsame⟩ := hblank.secure (Recorded.secure_eq secure).1
    exact ⟨rfl, hsecured, hsame.trans (hreplies.trans hdrop)⟩

/-- **How a transfer on a new stream ends, once its request is written, is told by the next reply.** -/
theorem Opening.fated {u : Url} {id : StreamId} {t : Session} {v mid : Recorded ScriptedNetwork} {ps : List Bytes}
    (c : Opening u.origin s w (.ok id, t, v)) (path : Writes id v ps mid) (written : ps ≠ [])
    (r : Receipt id keep false { proposed := proposed } (t.stand .busy) mid a) (forward : w.network.ReadsOn)
    (judges : Judges beyond s.receiver s.collects s.inbox) (unread : s.received = 0) (unsaid : s.status = none)
    (short : ∀ es rest, a.2.2.wire = w.wire ++ es → w.network.nextData = (WireEvent.given es).flatten ++ rest →
      ¬Overruns beyond proposed (WireEvent.given es)) :
    Fated beyond keep proposed w.network.nextData w.network.nextFault ((s.linked u.origin id).stand .busy) a := by
  obtain ⟨es, hdialled⟩ := c.dialled
  obtain ⟨rfl, hblank, hreplies⟩ := c.blank
  have hforward : v.network.ReadsOn := by
    unfold ReadsOn
    rwa [hreplies]
  have hsupplies := hblank.after_writes hforward path.network written
  unfold nextData nextFault at hsupplies
  rw [hreplies] at hsupplies
  refine Receipt.fated (l := { stream := id, origin := u.origin, condition := .busy }) r hsupplies judges rfl unread
    unsaid fun fs rest hfs hsplit => ?_
  have hwire : v.wire = w.wire ++ es := hdialled.wire
  have hgiven : WireEvent.given (es ++ (WireEvent.writes id ps ++ fs)) = WireEvent.given fs := by
    rw [WireEvent.given_append, WireEvent.given_append, given_of_silent hdialled.silent, WireEvent.given_writes]
    rfl
  have hno := short (es ++ (WireEvent.writes id ps ++ fs)) rest (by
    rw [hfs, path.wire, hwire, List.append_assoc, List.append_assoc]) (hgiven.symm ▸ hsplit)
  rwa [hgiven] at hno

/-! ## The whole transfer -/

/-- A transfer breaks off, or is a success. -/
theorem called_eq_ok {b : Option Break} (h : ∀ k, b = some k → Fails k) : called b = .ok .ok ↔ b = none := by
  cases b with
  | none => exact ⟨fun _ => rfl, fun _ => rfl⟩
  | some k =>
    refine ⟨fun hk => ?_, nofun⟩
    cases k with
    | failed code m =>
      cases hk
      exact absurd rfl (h _ rfl m)
    | escaped f => cases hk

/-- Whether a transfer that is called so leaves its stream as the exchange has left it; a failed one closes it. -/
def spares : Except Fault TransferCode → Bool
  | .ok code => code == .ok
  | .error _ => true

/-- What a transfer makes of its attempt. -/
structure Concluded (a : Option Break × Session × Recorded ScriptedNetwork)
    (b : Except Fault TransferCode × Session × Recorded ScriptedNetwork) : Prop where
  code : b.1 = called a.1
  status : b.2.1.status = a.2.1.status
  inbox : b.2.1.inbox = a.2.1.inbox
  kept : b.2.1.hasOpenStream b.2.2 = (spares b.1 && a.2.1.hasOpenStream a.2.2)
  wire : ∃ ds, b.2.2.wire = a.2.2.wire ++ ds ∧ WireEvent.given ds = []

theorem perform_concluded {text : String} {u : Url} (opened : s.closed = false) (url : s.url = some (text, u)) :
    Concluded (s.started.attempt u w) (s.perform w) := by
  have hfails (k : Break) (hk : (s.started.attempt u w).1 = some k) : Fails k := (attempt_spec u s.started w).fails hk
  rw [perform_of_open opened url]
  generalize s.started.attempt u w = a at hfails ⊢
  obtain ⟨_ | ⟨code, m⟩ | f, t, v⟩ := a
  · exact ⟨rfl, rfl, rfl, rfl, [], (List.append_nil _).symm, rfl⟩
  · obtain ⟨ds, hwire, hcloses⟩ := drop_wire t v
    have hcode : code ≠ .ok := by
      rintro rfl
      exact hfails _ rfl m rfl
    refine ⟨rfl, ?_, ?_, ?_, ds, hwire, WireEvent.given_of_closes hcloses⟩
    · dsimp only
      rw [fail_snd]
    · dsimp only
      rw [fail_snd]
    · dsimp only
      rw [fail_snd]
      simp [hasOpenStream, spares, hcode]
  · exact ⟨rfl, rfl, rfl, rfl, [], (List.append_nil _).symm, rfl⟩

end

end Session
end Transport
