import ContentTransport.Proofs.Session.Faults
import ContentTransport.Proofs.Session.Provenance
/-!
# GivenUp — why a transfer gives up the stream that it has kept

A transfer that begins on the stream of its session goes on to a new one if the first fails as a dead stream fails.  A
dead stream is one reason for that: a call on it fails, or it comes to its end, with nothing read.  But a request that
is refused fails in the same way, and so does one whose reply is broken off by what an earlier reply has left over; the
stream is given up then whether it is dead or not (`given_up_exactly`, `refused_request_reconnects`).  These are
statements about every session and every network.
-/
namespace Transport

open WireEvent (connections)

namespace Session

variable {ν : Type} [Network ν]

/-! ## The failures that a dead stream shows -/

theorem writeBreak_isStale (timeout : Float) (f : Fault) : (writeBreak timeout f).isStale
    = ((f.isSystem || f.isRuntime || f.isUnicode) && !f.isTimeout) := by
  unfold writeBreak
  by_cases ht : f.isTimeout = true
  · rw [if_pos ht, timedOut_isStale, ht]
    simp
  · cases hs : f.isSystem <;> cases hr : f.isRuntime <;> cases hu : f.isUnicode <;> simp [ht] <;> rfl

theorem readBreak_isStale (timeout : Float) (received : Nat) (f : Fault) : (readBreak timeout received f).isStale
    = ((f.isSystem || f.isRuntime) && !f.isTimeout) := by
  unfold readBreak
  by_cases ht : f.isTimeout = true
  · rw [if_pos ht, timedOut_isStale, ht]
    simp
  · cases hs : f.isSystem <;> cases hr : f.isRuntime <;> simp [ht] <;> rfl

/-- A break of the receiver is none of the failures that a dead stream shows. -/
theorem obey_isStale {es : List Http.Event} {s t : Session} {b : Break} (h : s.obey es = (some b, t)) :
    b.isStale = false := by
  rcases break_of_obey h with ⟨f, rfl⟩ | ⟨m, rfl⟩ <;> rfl

/-! ## A reply of which nothing is read -/

/-- What is left over breaks the reply to a request off before a read: it is not the beginning of a reply, or the server
has ended its side behind it and it is not a whole one. -/
def Spoilt (u : Url) (s : Session) (left : Bytes) (ended : Bool) : Prop :=
  (∃ f, (s.hearing u left []).2.2 = .broken f)
    ∨ (s.hearing u left []).2.2 = .hungry ∧ ended = true ∧ (s.hearing u left []).2.1.atEnd ≠ none

/-- The receiver takes what is left over. -/
def TakesLeft (u : Url) (s : Session) (left : Bytes) : Prop := ((s.stand .busy).obey (s.hearing u left []).1).1 = none

/-- How the receiving of a reply ends of which nothing is read: what breaks it off, and the calls. -/
inductive Unread (u : Url) (s : Session) (id : StreamId) (left : Bytes) (ended : Bool) :
    Option Break → List WireEvent → Prop
  | untaken {b : Break} (mild : b.isStale = false) (untaken : ¬s.TakesLeft u left ∨ ¬s.Spoilt u left ended) :
    Unread u s id left ended (some b) []
  | spoilt {m : Text.Points} (taken : s.TakesLeft u left) (spoilt : s.Spoilt u left ended) :
    Unread u s id left ended (some (.failed .gotNothing m)) []
  | closed {n : Nat} {m : Text.Points} (unanswered : (s.hearing u left []).2.1.atEnd ≠ none) :
    Unread u s id left ended (some (.failed .gotNothing m)) [.read id n (.ok [])]
  | failed {n : Nat} {f : Fault} : Unread u s id left ended (some (readBreak s.timeout 0 f)) [.read id n (.error f)]
  | done {es : List WireEvent} (faultless : ∀ e ∈ es, e.fault? = none) (sound : ¬s.Spoilt u left ended)
      (whole : ∀ n, .read id n (.ok []) ∈ es → (s.hearing u left []).2.1.atEnd = none) :
    Unread u s id left ended none es

theorem replyBreak_of_uncounted {s : Session} (h : s.received = 0) (f : Http.ReplyFault) :
    s.replyBreak f = .failed .gotNothing "Empty reply from server" := by
  unfold replyBreak
  rw [h]
  rfl

theorem finish_wire (keep ended : Bool) (surplus : Bytes) (s : Session) (w : Recorded ν) :
    ∃ es, (s.finish keep surplus ended w).2.wire = w.wire ++ es ∧ ∀ e ∈ es, ∃ id, e = .close id := by
  unfold finish
  split
  · exact ⟨[], (List.append_nil _).symm, nofun⟩
  · exact drop_wire s w

section

variable {u : Url} {s t : Session} {id : StreamId} {left : Bytes} {ended keep : Bool} {w : Recorded ν}
  {a : Option Break × Session × Recorded ν}

theorem Unread.of_closes {es ds : List WireEvent} (sound : ¬s.Spoilt u left ended)
    (whole : es = [] ∨ (∃ n, es = [.read id n (.ok [])]) ∧ (s.hearing u left []).2.1.atEnd = none)
    (closes : ∀ e ∈ ds, ∃ i, e = .close i) : Unread u s id left ended none (es ++ ds) := by
  refine .done (fun e he => ?_) sound fun n hn => ?_
  · rcases List.mem_append.1 he with he | he
    · rcases whole with rfl | ⟨⟨n, rfl⟩, -⟩
      · cases he
      · rw [List.mem_singleton.1 he]
        rfl
    · obtain ⟨i, rfl⟩ := closes e he
      rfl
  · rcases whole with rfl | ⟨-, ha⟩
    · obtain ⟨i, hi⟩ := closes _ hn
      cases hi
    · exact ha

/-- **How a reply ends of which nothing is read.** -/
theorem Ending.unread
    (c : Ending id keep ended (s.hearing u left []).2.1 (s.hearing u left []).2.2 t w a)
    (taken : s.TakesLeft u left) (received : t.received = 0) (timeout : t.timeout = s.timeout) :
    ∃ es, a.2.2.wire = w.wire ++ es ∧ Unread u s id left ended a.1 es := by
  generalize hst : (s.hearing u left []).2.2 = st at c
  have hsound (h : st = .hungry → ended = false ∨ (s.hearing u left []).2.1.atEnd = none) (hb : ∀ f, st ≠ .broken f) :
      ¬s.Spoilt u left ended := by
    rintro (⟨f, hf⟩ | ⟨hh, he, ha⟩)
    · exact hb f (hst.symm.trans hf)
    · rcases h (hst.symm.trans hh) with h | h
      · exact nomatch he.symm.trans h
      · exact ha h
  cases c with
  | @complete surplus _ _ =>
    obtain ⟨ds, hwire, hds⟩ := finish_wire (keep && (s.hearing u left []).2.1.keepAlive) ended surplus t w
    exact ⟨ds, hwire, .of_closes (hsound nofun nofun) (.inl rfl) hds⟩
  | switched => exact ⟨[], (List.append_nil _).symm, .untaken rfl (.inr (hsound nofun nofun))⟩
  | @broken f =>
    refine ⟨[], (List.append_nil _).symm, ?_⟩
    rw [replyBreak_of_uncounted received]
    exact .spoilt taken (.inl ⟨f, hst⟩)
  | silent h =>
    unfold finishAtEnd
    cases ha : (s.hearing u left []).2.1.atEnd with
    | some f =>
      refine ⟨[], (List.append_nil _).symm, ?_⟩
      dsimp only
      rw [replyBreak_of_uncounted received]
      exact .spoilt taken (.inr ⟨hst, h, ha ▸ nofun⟩)
    | none =>
      obtain ⟨ds, hwire, hds⟩ := finish_wire (keep && (s.hearing u left []).2.1.keepAlive) true [] t w
      exact ⟨ds, hwire, .of_closes (hsound (fun _ => .inr ha) nofun) (.inl rfl) hds⟩
  | closed h read =>
    have hwire := (Recorded.read_eq read).2
    unfold finishAtEnd
    cases ha : (s.hearing u left []).2.1.atEnd with
    | some f =>
      refine ⟨_, hwire, ?_⟩
      dsimp only
      rw [replyBreak_of_uncounted received]
      exact .closed (ha ▸ nofun)
    | none =>
      obtain ⟨ds, hds, hcloses⟩ := finish_wire (keep && (s.hearing u left []).2.1.keepAlive) true [] t (_ : Recorded ν)
      refine ⟨_, by rw [hds, hwire, List.append_assoc], ?_⟩
      exact .of_closes (hsound (fun _ => .inr ha) nofun) (.inr ⟨⟨_, rfl⟩, ha⟩) hcloses
  | failed h read =>
    refine ⟨_, (Recorded.read_eq read).2, ?_⟩
    rw [timeout, received]
    exact .failed

/-- A reply of which nothing is read stands as what is left over makes it stand. -/
theorem Receipt.unread {l : Link} (c : Receipt l.stream keep ended
      (({ proposed := s.proposes u } : Http.Reader).feed left) (s.stand .busy) w a)
    (link : s.link = some l) (received : s.received = 0) (unread : a.2.1.received = 0) :
    ∃ es, a.2.2.wire = w.wire ++ es ∧ Unread u s l.stream left ended a.1 es := by
  have hnone {reads : List Bytes} {mid : Recorded ν} (path : Reads l.stream (s.stand .busy).readSize w reads mid)
      (h : reads.flatten.length = 0) : reads = [] := by
    cases path with
    | nil => rfl
    | cons => simp at h
  cases c with
  | @interrupted reads mid b t path hungry unended obeyed =>
    obtain rfl : reads = [] := by
      refine hnone path ?_
      have h : t.received + reads.flatten.length = 0 := unread
      omega
    cases path
    refine ⟨[], (List.append_nil _).symm, .untaken (obey_isStale obeyed) (.inl fun h => ?_)⟩
    rw [TakesLeft, hearing, obeyed] at h
    cases h
  | @heard reads mid t a path hungry unended obeyed ending =>
    have htold := told_of_obey obeyed
    have hlink : t.link = some { l with condition := .busy } := link_of_obey obeyed (link_stand .busy link)
    obtain rfl : reads = [] := by
      refine hnone path ?_
      obtain ⟨es, hes⟩ := ending.listened (l := { l with condition := .busy }) hlink
      have h := hes.received
      have ht : (t.counting reads.flatten.length).received = t.received + reads.flatten.length := rfl
      omega
    cases path
    have ht : t.received = 0 := by
      rw [htold]
      exact received
    refine ending.unread ?_ ht ?_
    · rw [TakesLeft, hearing, obeyed]
    · rw [htold]
      rfl

/-! ## Giving a stream up -/

/-- The request for a URL is refused, before it is written or once it is. -/
def Refused (u : Url) (s : Session) : Prop := ∀ out, (s.request u).write = .ok out → out.fault ≠ none

/-- Why the kept stream is given up on which some calls are made: a call fails that is handled, other than by a timeout;
the stream ends where a reply is to come; the request is refused; or what is left over breaks the reply off. -/
inductive GivenUp (u : Url) (s : Session) (id : StreamId) (left : Bytes) (ended : Bool) (es : List WireEvent) : Prop
  | failed {e : WireEvent} {f : Fault} (last : es.getLast? = some e) (fault : e.fault? = some f)
      (handled : e.handles f = true) (timely : f.isTimeout = false)
  | closed {n : Nat} (last : es.getLast? = some (.read id n (.ok [])))
      (unanswered : (s.hearing u left []).2.1.atEnd ≠ none)
  | refused (request : s.Refused u) (written : es = WireEvent.writes id (s.pieces u))
  | spoilt (request : ¬s.Refused u) (written : es = WireEvent.writes id (s.pieces u)) (taken : s.TakesLeft u left)
      (spoilt : s.Spoilt u left ended)

/-- The last call of writes that succeed and of some calls after them. -/
theorem last_after_writes {ps : List Bytes} {es : List WireEvent} {e : WireEvent}
    (h : (WireEvent.writes id ps ++ es).getLast? = some e) : (∃ p, e = .write id p (.ok ())) ∨ e ∈ es := by
  rw [List.getLast?_append] at h
  cases hes : es.getLast? with
  | some x =>
    rw [hes] at h
    cases h
    exact .inr (List.mem_of_getLast? hes)
  | none =>
    rw [hes] at h
    obtain ⟨p, -, rfl⟩ := WireEvent.mem_writes (List.mem_of_getLast? h)
    exact .inl ⟨p, rfl⟩

/-- Why a stream is given up whose request is written and not refused: by what comes after the writes. -/
theorem GivenUp.after_writes {es : List WireEvent}
    (h : GivenUp u s id left ended (WireEvent.writes id (s.pieces u) ++ es)) (accepted : ¬s.Refused u) :
    (∃ e ∈ es, ∃ f, e.fault? = some f ∧ e.handles f = true ∧ f.isTimeout = false)
      ∨ (∃ n, .read id n (.ok []) ∈ es) ∧ (s.hearing u left []).2.1.atEnd ≠ none
      ∨ es = [] ∧ s.TakesLeft u left ∧ s.Spoilt u left ended := by
  cases h with
  | failed last fault handled timely =>
    rcases last_after_writes last with ⟨p, rfl⟩ | hm
    · cases fault
    · exact .inl ⟨_, hm, _, fault, handled, timely⟩
  | closed last unanswered =>
    rcases last_after_writes last with ⟨p, hp⟩ | hm
    · cases hp
    · exact .inr (.inl ⟨⟨_, hm⟩, unanswered⟩)
  | refused request => exact absurd request accepted
  | spoilt _ written taken spoilt => exact .inr (.inr ⟨List.append_right_eq_self.1 written, taken, spoilt⟩)

/-- **A request that is written, and of whose reply nothing is read, fails as on a dead stream when the stream is given
up, and only then.** -/
theorem Unread.stale_iff {b : Option Break} {es : List WireEvent} (h : Unread u s id left ended b es)
    (accepted : ¬s.Refused u) :
    b.any Break.isStale = true ↔ GivenUp u s id left ended (WireEvent.writes id (s.pieces u) ++ es) := by
  cases h with
  | untaken mild untaken =>
    refine ⟨fun hs => (nomatch mild.symm.trans hs), fun hg => ?_⟩
    rcases hg.after_writes accepted with ⟨e, he, -⟩ | ⟨⟨n, hn⟩, -⟩ | ⟨-, taken, spoilt⟩
    · cases he
    · cases hn
    · exact (untaken.elim (· taken) (· spoilt)).elim
  | spoilt taken spoilt =>
    exact ⟨fun _ => .spoilt accepted (List.append_nil _) taken spoilt, fun _ => rfl⟩
  | closed unanswered => exact ⟨fun _ => .closed List.getLast?_concat unanswered, fun _ => rfl⟩
  | @failed n f =>
    have hread : (readBreak s.timeout 0 f).isStale = ((f.isSystem || f.isRuntime) && !f.isTimeout) :=
      readBreak_isStale _ _ _
    rw [Option.any_some, hread, Bool.and_eq_true, Bool.not_eq_true']
    constructor
    · rintro ⟨handled, timely⟩
      exact .failed List.getLast?_concat rfl handled timely
    · intro hg
      rcases hg.after_writes accepted with ⟨e, he, f', fault, handled, timely⟩ | ⟨⟨n, hn⟩, -⟩ | ⟨hnil, -⟩
      · cases List.mem_singleton.1 he
        cases fault
        exact ⟨handled, timely⟩
      · cases List.mem_singleton.1 hn
      · cases hnil
  | done faultless sound whole =>
    refine ⟨nofun, fun hg => ?_⟩
    rcases hg.after_writes accepted with ⟨e, he, f, fault, -⟩ | ⟨⟨n, hn⟩, unanswered⟩ | ⟨-, -, spoilt⟩
    · exact nomatch (faultless e he).symm.trans fault
    · exact absurd (whole n hn) unanswered
    · exact absurd spoilt sound

/-- What becomes of an exchange on the kept stream: its calls, and that it fails as on a dead stream, with nothing read,
exactly when the stream is given up. -/
theorem Course.givenUp {l : Link} (c : Course u l.stream left ended s w a) (link : s.link = some l)
    (received : s.received = 0) :
    ∃ es, a.2.2.wire = w.wire ++ es ∧ Talk l.stream es
      ∧ ((a.1.any Break.isStale = true ∧ a.2.1.received = 0)
        ↔ WireEvent.dataFrom l.stream es = [] ∧ GivenUp u s l.stream left ended es) := by
  obtain ⟨es, hc⟩ := c.conversed link
  have hunread : a.2.1.received = 0 ↔ WireEvent.dataFrom l.stream es = [] := by
    rw [hc.received, received, Nat.zero_add]
    exact ⟨WireEvent.dataFrom_of_uncounted, fun h => by rw [h]; rfl⟩
  refine ⟨es, hc.wire, hc.talk, ?_⟩
  rw [← hunread, and_comm]
  refine and_congr_right fun hzero => ?_
  have hes {fs : List WireEvent} (h : a.2.2.wire = w.wire ++ fs) : es = fs :=
    List.append_cancel_left (hc.wire.symm.trans h)
  cases c with
  | refused request =>
    obtain rfl : es = [] := hes (List.append_nil _).symm
    refine ⟨fun _ => .refused (fun out hout => nomatch request.symm.trans hout) ?_, fun _ => rfl⟩
    rw [pieces_of_error request]
    rfl
  | @unsent out done rest p f mid w' request pieces path last =>
    obtain rfl : es = WireEvent.writes l.stream done ++ [.write l.stream p (.error f)] := by
      refine hes ?_
      rw [(Recorded.write_eq last).2, path.wire, List.append_assoc]
    have hunwritten : WireEvent.writes l.stream done ++ [.write l.stream p (.error f)]
        ≠ WireEvent.writes l.stream (s.pieces u) := by
      intro h
      have hm : WireEvent.write l.stream p (.error f) ∈ WireEvent.writes l.stream (s.pieces u) := by
        rw [← h]
        exact List.mem_append_right _ List.mem_cons_self
      obtain ⟨q, -, hq⟩ := WireEvent.mem_writes hm
      cases hq
    rw [Option.any_some, writeBreak_isStale, Bool.and_eq_true, Bool.not_eq_true']
    constructor
    · rintro ⟨handled, timely⟩
      exact .failed List.getLast?_concat rfl handled timely
    · rintro (⟨hlast, fault, handled, timely⟩ | ⟨hlast, -⟩ | ⟨-, written⟩ | ⟨-, written, -, -⟩)
      · rw [List.getLast?_concat] at hlast
        cases hlast
        cases fault
        exact ⟨handled, timely⟩
      · rw [List.getLast?_concat] at hlast
        cases hlast
      · exact absurd written hunwritten
      · exact absurd written hunwritten
  | @withdrawn out f mid request path fault =>
    obtain rfl : es = WireEvent.writes l.stream (s.pieces u) := by
      rw [pieces_of_ok request]
      exact hes path.wire
    refine ⟨fun _ => .refused (fun out' hout => ?_) rfl, fun _ => rfl⟩
    cases request.symm.trans hout
    exact fault ▸ nofun
  | @answered out mid a request path fault receipt =>
    have haccepted : ¬s.Refused u := fun h => h out request fault
    rw [← proposes_of_ok request] at receipt
    obtain ⟨fs, hwire, hread⟩ := receipt.unread link received hzero
    obtain rfl : es = WireEvent.writes l.stream (s.pieces u) ++ fs := by
      refine hes ?_
      rw [hwire, path.wire, pieces_of_ok request, List.append_assoc]
    exact hread.stale_iff haccepted

/-- The calls of a transfer that begins on the kept stream, and whether it goes on to a new one. -/
theorem Attempt.givenUp {l : Link} (c : Attempt u s w a) (usable : s.reusable? u.origin w = some (l, left, ended))
    (received : s.received = 0) :
    ∃ es fs, a.2.2.wire = w.wire ++ (es ++ fs) ∧ Talk l.stream es
      ∧ (WireEvent.dataFrom l.stream es = [] ∧ GivenUp u s l.stream left ended es → connections fs = 1)
      ∧ (¬(WireEvent.dataFrom l.stream es = [] ∧ GivenUp u s l.stream left ended es) → fs = []) := by
  have hlink := (usable_link usable).1
  cases c with
  | fresh unusable => exact nomatch unusable.symm.trans usable
  | @reused l' left' ended' a usable' course final =>
    cases usable.symm.trans usable'
    obtain ⟨es, hwire, htalk, hiff⟩ := course.givenUp hlink received
    refine ⟨es, [], by rw [hwire, List.append_nil], htalk, fun h => ?_, fun _ => rfl⟩
    obtain ⟨hstale, hzero⟩ := hiff.2 h
    obtain ⟨b, hb, hbs⟩ := (Option.any_eq_true _ _).1 hstale
    cases b with
    | failed code m => exact absurd hzero (final code m hb hbs)
    | escaped f => cases hbs
  | @repeated l' left' ended' code m t mid a usable' course stale unread anew =>
    cases usable.symm.trans usable'
    obtain ⟨es, hwire, htalk, hiff⟩ := course.givenUp hlink received
    obtain ⟨id, fs, hagain⟩ := anew.restarted
    have hmid : mid.wire = w.wire ++ es := hwire
    refine ⟨es, fs, by rw [hagain.wire, hmid, List.append_assoc], htalk, fun _ => hagain.one, fun h => ?_⟩
    exact absurd (hiff.1 ⟨stale, unread⟩) h

end

/-- **When a transfer gives the kept stream of its session up.**  A transfer that begins on that stream makes calls on
it, and goes on to a new one exactly if they give nothing and one of four things happens: a call on the stream fails,
other than by a timeout; the stream ends where a reply is to come; the request is refused, before it is written or
after; or what an earlier reply has left over breaks the reply off.  In the last two no call on the stream has failed.
Otherwise the transfer makes no calls but these, and closes the stream at the most. -/
theorem given_up_exactly {s : Session} {w : Recorded ν} {text : String} {u : Url} {l : Link} {left : Bytes}
    {ended : Bool} (opened : s.closed = false) (url : s.url = some (text, u))
    (usable : s.reusable? u.origin w = some (l, left, ended)) :
    ∃ es fs, (s.perform w).2.2.wire = w.wire ++ (es ++ fs) ∧ Talk l.stream es
      ∧ (WireEvent.dataFrom l.stream es = [] ∧ GivenUp u s.started l.stream left ended es → connections fs = 1)
      ∧ (¬(WireEvent.dataFrom l.stream es = [] ∧ GivenUp u s.started l.stream left ended es) →
          ∀ e ∈ fs, ∃ id, e = .close id) := by
  obtain ⟨es, fs, hwire, htalk, hgiven, hkept⟩ := (attempt_spec u s.started w).givenUp usable rfl
  rw [perform_of_open opened url]
  generalize s.started.attempt u w = a at hwire ⊢
  obtain ⟨_ | ⟨code, m⟩ | f, t, w'⟩ := a
  · exact ⟨es, fs, hwire, htalk, hgiven, fun h => hkept h ▸ nofun⟩
  · obtain ⟨ds, hds, hcloses⟩ := drop_wire t w'
    have hw' : w'.wire = w.wire ++ (es ++ fs) := hwire
    refine ⟨es, fs ++ ds, ?_, htalk, fun h => ?_, fun h => ?_⟩
    · rw [hds, hw', List.append_assoc, List.append_assoc]
    · rw [WireEvent.connections_append, hgiven h, WireEvent.connections_of_closes hcloses]
    · rw [hkept h]
      exact hcloses
  · exact ⟨es, fs, hwire, htalk, hgiven, fun h => hkept h ▸ nofun⟩

/-- A session that has kept a stream, and whose next request is refused for its target: it connects again, though
nothing was written to the kept stream and nothing read from it. -/
theorem refused_request_reconnects :
    let acts : List Act := [.set (.url (.text "http://h/")),
      .reply { data := Bytes.ofText "HTTP/1.1 200 OK\r\nContent-Length: 1\r\n\r\na" }, .perform,
      .set (.url (.text "http://h/é"))]
    let c := Scene.run acts .new
    Reached c.session c.network ∧ c.session.closed = false
      ∧ (∃ text u l, c.session.url = some (text, u) ∧ l.stream = 0
        ∧ c.session.reusable? u.origin c.network = some (l, [], false))
      ∧ connections c.wired = 1 ∧ WireEvent.writesTo 0 c.wired = [] ∧ WireEvent.readsFrom 0 c.wired = [] := by
  intro acts c
  refine ⟨reached_run acts, by decide +kernel, ⟨"http://h/é", ⟨⟨"http", "h", 80⟩, "/é"⟩,
    { stream := 0, origin := ⟨"http", "h", 80⟩, condition := .idle [] false }, ?_⟩, ?_⟩
  · exact ⟨by decide +kernel, rfl, by decide +kernel⟩
  · exact ⟨by decide +kernel, by decide +kernel, by decide +kernel⟩

/-- The same transfer gives the kept stream up, and its request is refused. -/
theorem given_up_exactly_refused :
    let acts : List Act := [.set (.url (.text "http://h/")),
      .reply { data := Bytes.ofText "HTTP/1.1 200 OK\r\nContent-Length: 1\r\n\r\na" }, .perform,
      .set (.url (.text "http://h/é"))]
    let c := Scene.run acts .new
    ∃ u l es fs, c.session.reusable? u.origin c.network = some (l, [], false) ∧ c.wired = es ++ fs ∧ Talk l.stream es
      ∧ c.session.started.Refused u ∧ WireEvent.dataFrom l.stream es = []
      ∧ GivenUp u c.session.started l.stream [] false es ∧ connections fs = 1 := by
  intro acts c
  have hopen : c.session.closed = false := by decide +kernel
  have hurl : c.session.url = some ("http://h/é", ⟨⟨"http", "h", 80⟩, "/é"⟩) := by decide +kernel
  have husable : c.session.reusable? ⟨"http", "h", 80⟩ c.network
      = some ({ stream := 0, origin := ⟨"http", "h", 80⟩, condition := .idle [] false }, [], false) := by decide +kernel
  have hrefused : c.session.started.Refused ⟨⟨"http", "h", 80⟩, "/é"⟩ := by
    have herror : (c.session.started.request ⟨⟨"http", "h", 80⟩, "/é"⟩).write.isOk = false := by decide +kernel
    intro out hout
    rw [hout] at herror
    cases herror
  obtain ⟨es, fs, hwire, htalk, hgiven, hkept⟩ := given_up_exactly hopen hurl husable
  have hwired : c.wired = es ++ fs := Scene.wired_eq hwire
  have hone : connections c.wired = 1 := by decide +kernel
  rw [hwired, WireEvent.connections_append, htalk.connections, Nat.zero_add] at hone
  have hreason := Classical.byContradiction fun h => by
    rw [WireEvent.connections_of_closes (hkept h)] at hone
    cases hone
  exact ⟨_, _, es, fs, husable, hwired, htalk, hrefused, hreason.1, hreason.2, hone⟩

/-- A stream is given up for what an earlier reply has left over: the request is written to it, nothing is read, and the
request is written again to a new one. -/
example :
    let c := Scene.run [.set (.url (.text "http://h/")),
      .reply { data := Bytes.ofText "HTTP/1.1 200 OK\r\nContent-Length: 1\r\n\r\na?\r\n\r\n" }, .perform] .new
    WireEvent.writesTo 0 c.wired = WireEvent.writesTo 1 c.wired ∧ WireEvent.writesTo 0 c.wired ≠ []
      ∧ WireEvent.readsFrom 0 c.wired = [] := by
  decide +kernel

end Session
end Transport
