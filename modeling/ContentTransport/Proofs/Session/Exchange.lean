import ContentTransport.Proofs.Http.Hear
import ContentTransport.Proofs.Network.Recorded
import ContentTransport.Session.Transfer
/-!
# Exchange — everything that a transfer can do

One statement for each step of a transfer, from the reply (`receive_spec`) to the whole (`perform_spec`).  Each names all
the ways in which the step can end, with the calls to the network that lead there and what becomes of the session.  What
is proved of transfers elsewhere is proved by cases on these statements.
-/
namespace Transport
namespace Session

variable {ν : Type} [Network ν]

/-! ## The stream -/

@[simp] theorem drop_fst (s : Session) (w : ν) : (s.drop w).1 = { s with link := none } := by
  unfold drop
  cases h : s.link with
  | none => cases s; cases h; rfl
  | some l => rfl

theorem drop_of_none {s : Session} (h : s.link = none) (w : ν) : (s.drop w).2 = w := by
  unfold drop
  rw [h]

theorem drop_of_some {s : Session} {l : Link} (h : s.link = some l) (w : ν) :
    (s.drop w).2 = Network.close l.stream w := by
  unfold drop
  rw [h]

theorem finish_fst (keep ended : Bool) (surplus : Bytes) (s : Session) (w : ν) :
    ∃ l, (s.finish keep surplus ended w).1 = { s with link := l } := by
  unfold finish
  split
  · exact ⟨_, rfl⟩
  · exact ⟨none, drop_fst s w⟩

/-! ## The reply -/

def counting (n : Nat) (s : Session) : Session := { s with received := s.received + n }

/-- The session with what a reply has told it. -/
def told (status : Option Nat) (passed : List Bytes) (inbox : Inbox) (s : Session) : Session :=
  { s with status := status, passed := passed, inbox := inbox }

/-- What a receiver makes of a piece: whether it breaks off, and the inbox after it. -/
def taking (r : Receiver) (piece : Bytes) (s : Session) : Option Break × Inbox :=
  match r.judge s.passed s.inbox.size piece with
  | .error f => (some (.escaped f), s.inbox)
  | .ok v =>
    (if v.consumed = piece.length then none
      else some (.failed .writeError ("Failure writing output to destination, passed " ++ toString piece.length
        ++ " returned " ++ toString v.consumed)),
     if v.kept && s.collects then s.inbox.add piece else s.inbox)

theorem deliver_of_none {s : Session} (h : s.receiver = none) (piece : Bytes) : s.deliver piece = (none, s) := by
  unfold deliver
  rw [h]

theorem deliver_of_some {s : Session} {r : Receiver} (h : s.receiver = some r) (piece : Bytes) :
    s.deliver piece = ((s.taking r piece).1, s.told s.status (piece :: s.passed) (s.taking r piece).2) := by
  unfold deliver
  split
  · rename_i hn
    rw [h] at hn
    cases hn
  · rename_i hr
    rw [h] at hr
    cases hr
    unfold taking
    cases r.judge s.passed s.inbox.size piece with
    | error f => rfl
    | ok v =>
      dsimp only
      by_cases hc : v.consumed = piece.length
      · rw [if_pos hc, if_pos hc]; split <;> rfl
      · rw [if_neg hc, if_neg hc]; split <;> rfl

theorem deliver_told (piece : Bytes) (s : Session) :
    (s.deliver piece).2 = s.told s.status (s.deliver piece).2.passed (s.deliver piece).2.inbox := by
  cases h : s.receiver with
  | none => rw [deliver_of_none h]; rfl
  | some r => rw [deliver_of_some h]; rfl

theorem deliver_counting (n : Nat) (piece : Bytes) (s : Session) :
    (s.counting n).deliver piece = ((s.deliver piece).1, (s.deliver piece).2.counting n) := by
  cases h : s.receiver with
  | none => rw [deliver_of_none h, deliver_of_none (s := s.counting n) h]
  | some r => rw [deliver_of_some h, deliver_of_some (s := s.counting n) h]; rfl

theorem obey_told (es : List Http.Event) (s : Session) :
    (s.obey es).2 = s.told (s.obey es).2.status (s.obey es).2.passed (s.obey es).2.inbox := by
  induction es generalizing s with
  | nil => rfl
  | cons e es ih =>
    cases e with
    | status n =>
      simp only [obey]
      rw [ih]
      rfl
    | piece p =>
      have hd := deliver_told p s
      simp only [obey]
      generalize s.deliver p = r at hd ⊢
      obtain ⟨b, t⟩ := r
      obtain ⟨passed, inbox, rfl⟩ : ∃ passed inbox, t = s.told s.status passed inbox := ⟨_, _, hd⟩
      cases b with
      | none =>
        dsimp only
        rw [ih]
        rfl
      | some b => rfl

theorem told_of_obey {es : List Http.Event} {s t : Session} {b : Option Break} (h : s.obey es = (b, t)) :
    t = s.told t.status t.passed t.inbox := by
  have ht := obey_told es s
  rwa [h] at ht

theorem link_of_obey {es : List Http.Event} {s t : Session} {b : Option Break} {l : Link} (h : s.obey es = (b, t))
    (link : s.link = some l) : t.link = some l := by
  rw [told_of_obey h]
  exact link

theorem obey_counting (n : Nat) (es : List Http.Event) (s : Session) :
    (s.counting n).obey es = ((s.obey es).1, (s.obey es).2.counting n) := by
  induction es generalizing s with
  | nil => rfl
  | cons e es ih =>
    cases e with
    | status m => exact ih { s with status := some m }
    | piece p =>
      simp only [obey, deliver_counting]
      rcases s.deliver p with ⟨b, t⟩
      cases b with
      | none => exact ih t
      | some b => rfl

theorem obey_append (es fs : List Http.Event) (s : Session) :
    s.obey (es ++ fs) = match s.obey es with
      | (none, t) => t.obey fs
      | r => r := by
  induction es generalizing s with
  | nil => rfl
  | cons e es ih =>
    cases e with
    | status m => exact ih { s with status := some m }
    | piece p =>
      simp only [List.cons_append, obey]
      rcases s.deliver p with ⟨b, t⟩
      cases b with
      | none => exact ih t
      | some b => rfl

/-- How the receiving of a reply ends, once all that was read has been obeyed: with the reader, how the reply stands,
the session and the network then. -/
inductive Ending (stream : StreamId) (keep ended : Bool) (r : Http.Reader) :
    Http.Reader.Standing → Session → ν → Option Break × Session × ν → Prop
  | complete {surplus : Bytes} {s : Session} {w : ν} :
    Ending stream keep ended r (.complete surplus) s w (none, s.finish (keep && r.keepAlive) surplus ended w)
  | switched {s : Session} {w : ν} :
    Ending stream keep ended r .switched s w
      (some (.failed .weirdServerReply "Unexpected protocol event: PAUSED"), s, w)
  | broken {f : Http.ReplyFault} {s : Session} {w : ν} :
    Ending stream keep ended r (.broken f) s w (some (s.replyBreak f), s, w)
  /-- The server had ended its side before. -/
  | silent {s : Session} {w : ν} (h : ended = true) :
    Ending stream keep ended r .hungry s w (finishAtEnd keep r s w)
  | closed {s : Session} {w w' : ν} (h : ended = false) (read : Network.read stream s.readSize w = (.ok [], w')) :
    Ending stream keep ended r .hungry s w (finishAtEnd keep r s w')
  | failed {s : Session} {w w' : ν} {f : Fault} (h : ended = false)
      (read : Network.read stream s.readSize w = (.error f, w')) :
    Ending stream keep ended r .hungry s w (some (readBreak s.timeout s.received f), s, w')

/-- How a reply is received: what is read until the reply stands otherwise than hungry, and how it ends then.  A receiver
may break off before. -/
inductive Receipt (stream : StreamId) (keep ended : Bool) (reader : Http.Reader) (s : Session) (w : ν) :
    Option Break × Session × ν → Prop
  | interrupted {reads : List Bytes} {mid : ν} {b : Break} {t : Session}
      (path : Reads stream s.readSize w reads mid) (hungry : reader.HungryBefore reads)
      (unended : reads ≠ [] → ended = false) (obeyed : s.obey (reader.hear reads).1 = (some b, t)) :
    Receipt stream keep ended reader s w (some b, t.counting reads.flatten.length, mid)
  | heard {reads : List Bytes} {mid : ν} {t : Session} {a : Option Break × Session × ν}
      (path : Reads stream s.readSize w reads mid) (hungry : reader.HungryBefore reads)
      (unended : reads ≠ [] → ended = false) (obeyed : s.obey (reader.hear reads).1 = (none, t))
      (ending : Ending stream keep ended (reader.hear reads).2.1 (reader.hear reads).2.2
        (t.counting reads.flatten.length) mid a) :
    Receipt stream keep ended reader s w a

theorem Receipt.of_read {stream : StreamId} {keep : Bool} {reader r : Http.Reader} {es : List Http.Event}
    {s t : Session} {w w' : ν} {b : UInt8} {bs : Bytes} {a : Option Break × Session × ν}
    (settled : reader.settle = (es, r, .hungry)) (obeyed : s.obey es = (none, t))
    (read : Network.read stream t.readSize w = (.ok (b :: bs), w'))
    (rest : Receipt stream keep false (r.feed (b :: bs)) (t.counting (bs.length + 1)) w' a) :
    Receipt stream keep false reader s w a := by
  have hsize : t.readSize = s.readSize := by
    rw [told_of_obey obeyed]
    rfl
  have hhear (ps : List Bytes) : reader.hear ((b :: bs) :: ps) =
      (es ++ ((r.feed (b :: bs)).hear ps).1, ((r.feed (b :: bs)).hear ps).2) := by
    rw [Http.Reader.hear_cons, settled]
  have hobey (fs : List Http.Event) : s.obey (es ++ fs) = t.obey fs := by rw [obey_append, obeyed]
  have hcount (u : Session) (ps : List Bytes) :
      (u.counting (bs.length + 1)).counting ps.flatten.length = u.counting ((b :: bs) :: ps).flatten.length := by
    simp only [counting, List.flatten_cons, List.length_append, List.length_cons, Nat.add_assoc]
  have hhungry {ps : List Bytes} (h : (r.feed (b :: bs)).HungryBefore ps) :
      reader.HungryBefore ((b :: bs) :: ps) := by
    apply Http.Reader.hungryBefore_cons
    · rw [settled]
    · rw [settled]
      exact h
  cases rest with
  | @interrupted reads mid br u path hungry unended obeyed' =>
    rw [obey_counting, Prod.mk.injEq] at obeyed'
    obtain ⟨hbr, rfl⟩ := obeyed'
    rw [hcount]
    refine .interrupted (.cons (hsize ▸ read) (hsize ▸ path)) (hhungry hungry) (fun _ => rfl) ?_
    rw [hhear, hobey]
    exact Prod.ext hbr rfl
  | @heard reads mid u a path hungry unended obeyed' ending =>
    rw [obey_counting, Prod.mk.injEq] at obeyed'
    obtain ⟨hbr, rfl⟩ := obeyed'
    rw [hcount] at ending
    refine .heard (t := (t.obey ((r.feed (b :: bs)).hear reads).1).2) (.cons (hsize ▸ read) (hsize ▸ path))
      (hhungry hungry) (fun _ => rfl) ?_ ?_
    · rw [hhear, hobey]
      exact Prod.ext hbr rfl
    · rw [hhear]
      exact ending

/-- **Everything that receiving a reply can do.** -/
theorem receive_spec (stream : StreamId) (keep ended : Bool) (reader : Http.Reader) (s : Session) (w : ν) :
    Receipt stream keep ended reader s w (receive stream keep ended reader s w) := by
  induction hk : Network.readable stream w using Nat.strongRecOn generalizing ended reader s w with
  | _ k ih =>
  subst hk
  rw [receive]
  rcases hset : reader.settle with ⟨es, r, st⟩
  rcases hob : s.obey es with ⟨br, t⟩
  simp only [hob]
  have hnil {a : Option Break × Session × ν} (hn : br = none) (h : Ending stream keep ended r st t w a) :
      Receipt stream keep ended reader s w a := by
    refine .heard (t := t) (.nil w) (Http.Reader.hungryBefore_nil _) (fun h => absurd rfl h) ?_ ?_
    · rw [Http.Reader.hear_nil, hset, hob, hn]
    · rw [Http.Reader.hear_nil, hset]
      exact h
  cases br with
  | some b =>
    refine .interrupted (t := t) (.nil w) (Http.Reader.hungryBefore_nil _) (fun h => absurd rfl h) ?_
    rw [Http.Reader.hear_nil, hset, hob]
  | none =>
    cases st with
    | complete surplus => exact hnil rfl .complete
    | switched => exact hnil rfl .switched
    | broken f => exact hnil rfl .broken
    | hungry =>
      dsimp only
      cases ended with
      | true => exact hnil rfl (.silent rfl)
      | false =>
        rw [if_neg Bool.false_ne_true]
        split
        · rename_i f w' hread
          exact hnil rfl (.failed rfl hread)
        · rename_i w' hread
          exact hnil rfl (.closed rfl hread)
        · rename_i b bs w' hread
          exact .of_read hset hob hread (ih _ (Network.read_shrinks hread) _ _ _ _ rfl)

/-! ## The request and its reply -/

theorem sendAll_spec (timeout : Float) (stream : StreamId) (ps : List Bytes) (w : ν) :
    (∃ w', sendAll timeout stream ps w = (none, w') ∧ Writes stream w ps w')
      ∨ ∃ done p rest f mid w', ps = done ++ p :: rest ∧ Writes stream w done mid
          ∧ Network.write stream p mid = (.error f, w')
          ∧ sendAll timeout stream ps w = (some (writeBreak timeout f), w') := by
  induction ps generalizing w with
  | nil => exact .inl ⟨w, rfl, .nil w⟩
  | cons p ps ih =>
    simp only [sendAll]
    split
    · rename_i w1 hw
      rcases ih w1 with ⟨w', he, hp⟩ | ⟨done, q, rest, f, mid, w', rfl, hp, hf, he⟩
      · exact .inl ⟨w', he, .cons hw hp⟩
      · exact .inr ⟨p :: done, q, rest, f, mid, w', rfl, .cons hw hp, hf, he⟩
    · rename_i f w1 hw
      exact .inr ⟨[], p, ps, f, w, w1, rfl, .nil w, hw, rfl⟩

/-- How the exchange on a stream goes: the request is refused before it is written, cannot be written to its end, is
refused after it is written, or is written and its reply received. -/
inductive Course (u : Url) (stream : StreamId) (surplus : Bytes) (ended : Bool) (s : Session) (w : ν) :
    Option Break × Session × ν → Prop
  | refused {f : Http.RequestFault} (request : (s.request u).write = .error f) :
    Course u stream surplus ended s w (some (invalidRequest f.message), s, w)
  | unsent {out : Http.Written} {done rest : List Bytes} {p : Bytes} {f : Fault} {mid w' : ν}
      (request : (s.request u).write = .ok out) (pieces : out.pieces = done ++ p :: rest)
      (path : Writes stream w done mid) (last : Network.write stream p mid = (.error f, w')) :
    Course u stream surplus ended s w (some (writeBreak s.timeout f), s.stand .busy, w')
  | withdrawn {out : Http.Written} {f : Http.RequestFault} {mid : ν} (request : (s.request u).write = .ok out)
      (path : Writes stream w out.pieces mid) (fault : out.fault = some f) :
    Course u stream surplus ended s w (some (invalidRequest f.message), s.stand .busy, mid)
  | answered {out : Http.Written} {mid : ν} {a : Option Break × Session × ν}
      (request : (s.request u).write = .ok out) (path : Writes stream w out.pieces mid) (fault : out.fault = none)
      (receipt : Receipt stream out.keepAlive ended (({ proposed := out.proposes } : Http.Reader).feed surplus)
        (s.stand .busy) mid a) :
    Course u stream surplus ended s w a

/-- **Everything that an exchange on a stream can do.** -/
theorem exchange_spec (u : Url) (stream : StreamId) (surplus : Bytes) (ended : Bool) (s : Session) (w : ν) :
    Course u stream surplus ended s w (s.exchange u stream surplus ended w) := by
  unfold exchange
  split
  · rename_i f hf
    exact .refused hf
  · rename_i out hout
    dsimp only
    have htime : (s.stand .busy).timeout = s.timeout := rfl
    rw [htime]
    rcases sendAll_spec s.timeout stream out.pieces w with ⟨w', he, hp⟩ | ⟨done, p, rest, f, mid, w', hps, hp, hf, he⟩
    · rw [he]
      dsimp only
      split
      · rename_i f hfault
        exact .withdrawn hout hp hfault
      · rename_i hfault
        exact .answered hout hp hfault (receive_spec _ _ _ _ _ _)
    · rw [he]
      exact .unsent hout hps hp hf

/-! ## The transfer -/

/-- How a stream to an origin is opened, in place of the one that the session has. -/
inductive Opening (o : Origin) (s : Session) (w : ν) : Except Break StreamId × Session × ν → Prop
  | unconnected {f : Fault} {w' : ν}
      (connect : Network.connect o.host (.int o.port) (.float s.timeout) (s.drop w).2 = (.error f, w')) :
    Opening o s w (.error (connectBreak o s.timeout f), { s with link := none }, w')
  | plain {id : StreamId} {w' : ν} (scheme : o.scheme ≠ "https")
      (connect : Network.connect o.host (.int o.port) (.float s.timeout) (s.drop w).2 = (.ok id, w')) :
    Opening o s w (.ok id, s.linked o id, w')
  | secured {id id' : StreamId} {mid w' : ν} (scheme : o.scheme = "https")
      (connect : Network.connect o.host (.int o.port) (.float s.timeout) (s.drop w).2 = (.ok id, mid))
      (secure : Network.secure id o.host (.float s.timeout) s.verifyTls mid = (.ok id', w')) :
    Opening o s w (.ok id', s.linked o id', w')
  | unsecured {id : StreamId} {mid w' : ν} {f : Fault} {b : Break} (scheme : o.scheme = "https")
      (connect : Network.connect o.host (.int o.port) (.float s.timeout) (s.drop w).2 = (.ok id, mid))
      (secure : Network.secure id o.host (.float s.timeout) s.verifyTls mid = (.error f, w'))
      (fault : tlsBreak? s.timeout f = some b) :
    Opening o s w (.error b, { s with link := none }, Network.close id w')
  | abandoned {id : StreamId} {mid w' : ν} {f : Fault} (scheme : o.scheme = "https")
      (connect : Network.connect o.host (.int o.port) (.float s.timeout) (s.drop w).2 = (.ok id, mid))
      (secure : Network.secure id o.host (.float s.timeout) s.verifyTls mid = (.error f, w'))
      (fault : tlsBreak? s.timeout f = none) :
    Opening o s w (.error (.escaped f), { s with link := none }, w')

theorem openLink_spec (o : Origin) (s : Session) (w : ν) : Opening o s w (s.openLink o w) := by
  unfold openLink
  have hfst := drop_fst s w
  rcases hd : s.drop w with ⟨t, v⟩
  rw [hd] at hfst
  dsimp only at hfst
  subst hfst
  have hv : v = (s.drop w).2 := by rw [hd]
  subst hv
  dsimp only
  split
  · rename_i f w' hc
    exact .unconnected hc
  · rename_i id mid hc
    by_cases hs : o.scheme = "https"
    · rw [if_pos (beq_iff_eq.2 hs)]
      split
      · rename_i id' w' hsec
        exact .secured hs hc hsec
      · rename_i f w' hsec
        split
        · rename_i b hb
          exact .unsecured hs hc hsec hb
        · rename_i hb
          exact .abandoned hs hc hsec hb
    · rw [if_neg (fun h => hs (beq_iff_eq.1 h))]
      exact .plain hs hc

/-- How the exchange on a new stream goes, if there is one. -/
inductive Anew (u : Url) (s : Session) (w : ν) : Option Break × Session × ν → Prop
  | unopened {b : Break} {t : Session} {w' : ν} (opening : Opening u.origin s w (.error b, t, w')) :
    Anew u s w (some b, t, w')
  | opened {id : StreamId} {t : Session} {w' : ν} {a : Option Break × Session × ν}
      (opening : Opening u.origin s w (.ok id, t, w')) (course : Course u id [] false t w' a) :
    Anew u s w a

theorem exchangeAnew_spec (u : Url) (s : Session) (w : ν) : Anew u s w (s.exchangeAnew u w) := by
  have h := openLink_spec u.origin s w
  unfold exchangeAnew
  split
  · rename_i b t w' ho
    rw [ho] at h
    exact .unopened h
  · rename_i id t w' ho
    rw [ho] at h
    exact .opened h (exchange_spec _ _ _ _ _ _)

theorem reusable?_eq_none {o : Origin} {s : Session} {w : ν} (h : s.hasOpenStream w = false) : s.reusable? o w = none := by
  unfold reusable?
  unfold hasOpenStream at h
  cases hl : s.link with
  | none => rfl
  | some l =>
    have hclosed : Network.isOpen l.stream w = false := by simpa [hl] using h
    dsimp only
    split
    · rw [if_neg (by simp [hclosed])]
    · rfl

theorem reusable?_eq_some {o : Origin} {s : Session} {w : ν} {l : Link} {left : Bytes} {ended : Bool} :
    s.reusable? o w = some (l, left, ended) ↔
      s.link = some l ∧ l.condition = .idle left ended ∧ l.origin = o ∧ Network.isOpen l.stream w = true := by
  unfold reusable?
  cases hl : s.link with
  | none => exact ⟨fun h => (nomatch h), fun h => (nomatch h.1)⟩
  | some k =>
    dsimp only
    cases hc : k.condition with
    | busy =>
      refine ⟨fun h => (nomatch h), fun ⟨hk, hi, _⟩ => ?_⟩
      rw [Option.some.injEq] at hk
      rw [← hk, hc] at hi
      cases hi
    | idle left' ended' =>
      dsimp only
      split
      · rename_i hok
        constructor
        · intro h
          cases h
          exact ⟨rfl, hc, hok⟩
        · rintro ⟨hk, hi, -⟩
          cases hk
          rw [hc] at hi
          cases hi
          rfl
      · rename_i hno
        constructor
        · intro h
          cases h
        · rintro ⟨hk, -, hok⟩
          cases hk
          exact absurd hok hno

theorem attempt_of_unlinked {u : Url} {s : Session} {w : ν} (h : s.hasOpenStream w = false) :
    s.attempt u w = s.exchangeAnew u w := by
  unfold attempt
  rw [reusable?_eq_none h]

/-- How a transfer goes: on a new stream, on the stream of the session, or on a new one after that one turned out to be
dead. -/
inductive Attempt (u : Url) (s : Session) (w : ν) : Option Break × Session × ν → Prop
  | fresh {a : Option Break × Session × ν} (unusable : s.reusable? u.origin w = none) (anew : Anew u s w a) :
    Attempt u s w a
  | reused {l : Link} {surplus : Bytes} {ended : Bool} {a : Option Break × Session × ν}
      (usable : s.reusable? u.origin w = some (l, surplus, ended))
      (course : Course u l.stream surplus ended s w a)
      (final : ∀ code m, a.1 = some (.failed code m) → isStale code = true → a.2.1.received ≠ 0) :
    Attempt u s w a
  | repeated {l : Link} {surplus : Bytes} {ended : Bool} {code : TransferCode} {m : Text.Points} {t : Session} {mid : ν}
      {a : Option Break × Session × ν} (usable : s.reusable? u.origin w = some (l, surplus, ended))
      (course : Course u l.stream surplus ended s w (some (.failed code m), t, mid)) (stale : isStale code = true)
      (unread : t.received = 0) (anew : Anew u t mid a) :
    Attempt u s w a

theorem attempt_spec (u : Url) (s : Session) (w : ν) : Attempt u s w (s.attempt u w) := by
  unfold attempt
  split
  · rename_i hu
    exact .fresh hu (exchangeAnew_spec _ _ _)
  · rename_i l surplus ended hu
    have hc := exchange_spec u l.stream surplus ended s w
    split
    · rename_i code m t mid he
      rw [he] at hc
      by_cases hstale : (isStale code && t.received == 0) = true
      · rw [if_pos hstale]
        rw [Bool.and_eq_true, beq_iff_eq] at hstale
        exact .repeated hu hc hstale.1 hstale.2 (exchangeAnew_spec _ _ _)
      · rw [if_neg hstale]
        refine .reused hu hc (fun code' m' hb hs hr => hstale ?_)
        simp only [Option.some.injEq, Break.failed.injEq] at hb
        rw [hb.1, Bool.and_eq_true, beq_iff_eq]
        exact ⟨hs, hr⟩
    · rename_i r hr
      refine .reused hu hc (fun code m hb hs _ => ?_)
      exact hr code m _ _ (Prod.ext hb rfl)

def begun (s : Session) : Session := { s with status := none, received := 0, passed := [] }

/-- The session at the start of a transfer that has somewhere to go. -/
def started (s : Session) : Session := { s.begun with transfers := s.transfers + 1 }

theorem fail_fst (code : TransferCode) (m : Text.Points) (s : Session) : (s.fail code m).1 = code := by
  unfold fail
  split <;> rfl

theorem fail_snd (code : TransferCode) (m : Text.Points) (s : Session) :
    (s.fail code m).2 = { s with buffers := (s.fail code m).2.buffers } := by
  unfold fail
  split <;> rfl

/-- How a call for a transfer ends. -/
inductive Performance (s : Session) (w : ν) : Except Fault TransferCode × Session × ν → Prop
  | closed (h : s.closed = true) :
    Performance s w (.ok .badFunctionArgument, (s.begun.fail .badFunctionArgument "Session is closed").2, w)
  | aimless (h : s.closed = false) (url : s.url = none) :
    Performance s w (.ok .urlMalformat, (s.begun.fail .urlMalformat "No URL set").2, w)
  | done {text : String} {u : Url} {t : Session} {w' : ν} (h : s.closed = false) (url : s.url = some (text, u))
      (attempt : Attempt u s.started w (none, t, w')) :
    Performance s w (.ok .ok, t, w')
  | failed {text : String} {u : Url} {code : TransferCode} {m : Text.Points} {t : Session} {w' : ν} (h : s.closed = false)
      (url : s.url = some (text, u)) (attempt : Attempt u s.started w (some (.failed code m), t, w')) :
    Performance s w (.ok code, ({ t with link := none }.fail code m).2, (t.drop w').2)
  | escaped {text : String} {u : Url} {f : Fault} {t : Session} {w' : ν} (h : s.closed = false)
      (url : s.url = some (text, u)) (attempt : Attempt u s.started w (some (.escaped f), t, w')) :
    Performance s w (.error f, t, w')

/-- **Everything that a transfer can do.** -/
theorem perform_spec (s : Session) (w : ν) : Performance s w (s.perform w) := by
  unfold perform
  dsimp only
  by_cases hc : s.closed = true
  · rw [if_pos hc]
    change Performance s w (.ok (s.begun.fail _ _).1, (s.begun.fail _ _).2, w)
    rw [fail_fst]
    exact .closed hc
  · rw [if_neg hc]
    rw [Bool.not_eq_true] at hc
    split
    · rename_i hu
      change Performance s w (.ok (s.begun.fail _ _).1, (s.begun.fail _ _).2, w)
      rw [fail_fst]
      exact .aimless hc hu
    · rename_i text u hu
      have ha := attempt_spec u s.started w
      split
      · rename_i t w' he
        have he : s.started.attempt u w = _ := he
        rw [he] at ha
        exact .done hc hu ha
      · rename_i f t w' he
        have he : s.started.attempt u w = _ := he
        rw [he] at ha
        exact .escaped hc hu ha
      · rename_i code m t w' he
        have he : s.started.attempt u w = _ := he
        rw [he] at ha
        rw [drop_fst, fail_fst]
        exact .failed hc hu ha

theorem perform_of_aimless {s : Session} (opened : s.closed = false) (url : s.url = none) (w : ν) :
    s.perform w = (.ok .urlMalformat, (s.begun.fail .urlMalformat "No URL set").2, w) := by
  have hspec := perform_spec s w
  generalize s.perform w = a at hspec ⊢
  cases hspec with
  | closed h => exact nomatch opened.symm.trans h
  | aimless => rfl
  | done _ h => exact nomatch url.symm.trans h
  | failed _ h => exact nomatch url.symm.trans h
  | escaped _ h => exact nomatch url.symm.trans h

theorem perform_of_open {text : String} {u : Url} {s : Session} {w : ν} (opened : s.closed = false)
    (url : s.url = some (text, u)) : s.perform w = match s.started.attempt u w with
      | (none, s, w) => (.ok .ok, s, w)
      | (some (.escaped f), s, w) => (.error f, s, w)
      | (some (.failed code m), s, w) => (.ok code, ({ s with link := none }.fail code m).2, (s.drop w).2) := by
  have hopen : ¬s.closed = true := by rw [opened]; exact Bool.false_ne_true
  unfold perform
  dsimp only
  rw [if_neg hopen]
  split
  · rename_i hu
    exact nomatch url.symm.trans hu
  · rename_i text' u' hu
    cases url.symm.trans hu
    change (match s.started.attempt u w with
      | (none, s, w) => _
      | (some (.escaped f), s, w) => _
      | (some (.failed code m), s, w) => _) = _
    rcases s.started.attempt u w with ⟨_ | _ | f, t, w'⟩
    · rfl
    · rename_i code m
      dsimp only
      rw [drop_fst, fail_fst]
    · rfl

/-! ## Failures -/

/-- A break that is not called a success. -/
def Fails (b : Break) : Prop := ∀ m, b ≠ .failed .ok m

theorem fails_timedOut (timeout : Float) (before after : String) : Fails (timedOut timeout before after) := by
  intro m h
  unfold timedOut at h
  split at h
  · cases h
  · cases h

theorem fails_connectBreak (o : Origin) (timeout : Float) (f : Fault) : Fails (connectBreak o timeout f) := by
  unfold connectBreak
  split
  · exact fails_timedOut _ _ _
  · intro m h
    split at h
    · cases h
    · split at h
      · cases h
      · split at h
        · cases h
        · cases h

theorem fails_tlsBreak? {timeout : Float} {f : Fault} {b : Break} (hb : tlsBreak? timeout f = some b) : Fails b := by
  unfold tlsBreak? at hb
  split at hb
  · cases hb
    exact fails_timedOut _ _ _
  · split at hb
    · cases hb
      exact fun m h => nomatch h
    · cases hb

theorem fails_writeBreak (timeout : Float) (f : Fault) : Fails (writeBreak timeout f) := by
  unfold writeBreak
  split
  · exact fails_timedOut _ _ _
  · intro m h
    split at h
    · cases h
    · split at h
      · cases h
      · cases h

theorem fails_readBreak (timeout : Float) (received : Nat) (f : Fault) : Fails (readBreak timeout received f) := by
  unfold readBreak
  split
  · exact fails_timedOut _ _ _
  · intro m h
    split at h
    · cases h
    · cases h

theorem fails_replyBreak (s : Session) (f : Http.ReplyFault) : Fails (s.replyBreak f) := by
  intro m h
  unfold replyBreak at h
  split at h
  · cases h
  · split at h
    · cases h
    · cases h

/-- A receiver breaks off by a fault of its own, or because it has not taken a piece. -/
theorem break_of_taking {r : Receiver} {piece : Bytes} {s : Session} {b : Break} (h : (s.taking r piece).1 = some b) :
    (∃ f, b = .escaped f)
      ∨ ∃ m : Text.Points, b = .failed .writeError ("Failure writing output to destination, passed " ++ m) := by
  unfold taking at h
  split at h
  · cases h
    exact .inl ⟨_, rfl⟩
  · next v _ =>
    dsimp only at h
    split at h
    · cases h
    · cases h
      exact .inr ⟨toString piece.length ++ (" returned " ++ toString v.consumed), by simp only [List.append_assoc]⟩

/-- What breaks the obeying of a reply off is the receiver. -/
theorem break_of_obey {es : List Http.Event} {s t : Session} {b : Break} (h : s.obey es = (some b, t)) :
    (∃ f, b = .escaped f)
      ∨ ∃ m : Text.Points, b = .failed .writeError ("Failure writing output to destination, passed " ++ m) := by
  induction es generalizing s with
  | nil => cases h
  | cons e es ih =>
    cases e with
    | status n => exact ih h
    | piece p =>
      simp only [obey] at h
      cases hr : s.receiver with
      | none =>
        rw [deliver_of_none hr] at h
        exact ih h
      | some r =>
        rw [deliver_of_some hr] at h
        cases hc : (s.taking r p).1 with
        | none =>
          rw [hc] at h
          exact ih h
        | some c =>
          rw [hc] at h
          cases h
          exact break_of_taking hc

/-- What the steps of a transfer make of what goes wrong in them. -/
inductive Handled : Break → Prop
  | connect (o : Origin) (timeout : Float) (f : Fault) : Handled (connectBreak o timeout f)
  | secure {timeout : Float} {f : Fault} {b : Break} (fault : tlsBreak? timeout f = some b) : Handled b
  | write (timeout : Float) (f : Fault) : Handled (writeBreak timeout f)
  | read (timeout : Float) (received : Nat) (f : Fault) : Handled (readBreak timeout received f)
  | reply (s : Session) (f : Http.ReplyFault) : Handled (s.replyBreak f)
  | request (message : Text.Points) : Handled (invalidRequest message)
  | switched : Handled (.failed .weirdServerReply "Unexpected protocol event: PAUSED")
  | untaken (m : Text.Points) : Handled (.failed .writeError ("Failure writing output to destination, passed " ++ m))
  | escaped (f : Fault) : Handled (.escaped f)

theorem Handled.fails {b : Break} (h : Handled b) : Fails b := by
  cases h with
  | connect o timeout f => exact fails_connectBreak o timeout f
  | secure fault => exact fails_tlsBreak? fault
  | write timeout f => exact fails_writeBreak timeout f
  | read timeout received f => exact fails_readBreak timeout received f
  | reply s f => exact fails_replyBreak s f
  | request => exact nofun
  | switched => exact nofun
  | untaken => exact nofun
  | escaped => exact nofun

theorem handled_obey {es : List Http.Event} {s t : Session} {b : Break} (h : s.obey es = (some b, t)) : Handled b := by
  rcases break_of_obey h with ⟨f, rfl⟩ | ⟨m, rfl⟩
  · exact .escaped f
  · exact .untaken m

theorem handled_finishAtEnd {keep : Bool} {r : Http.Reader} {s : Session} {w : ν} {b : Break}
    (h : (finishAtEnd keep r s w).1 = some b) : Handled b := by
  unfold finishAtEnd at h
  split at h
  · cases h
    exact .reply s _
  · cases h

theorem Receipt.handled {stream : StreamId} {keep ended : Bool} {r : Http.Reader} {s : Session} {w : ν}
    {a : Option Break × Session × ν} (c : Receipt stream keep ended r s w a) {b : Break} (h : a.1 = some b) :
    Handled b := by
  cases c with
  | interrupted _ _ _ obeyed =>
    cases h
    exact handled_obey obeyed
  | @heard reads mid t _ _ _ _ obeyed ending =>
    generalize (r.hear reads).2.2 = st at ending
    cases ending with
    | complete => cases h
    | switched =>
      cases h
      exact .switched
    | broken =>
      cases h
      exact .reply _ _
    | silent => exact handled_finishAtEnd h
    | closed => exact handled_finishAtEnd h
    | failed =>
      cases h
      exact .read _ _ _

theorem Course.handled {u : Url} {stream : StreamId} {surplus : Bytes} {ended : Bool} {s : Session} {w : ν}
    {a : Option Break × Session × ν} (c : Course u stream surplus ended s w a) {b : Break} (h : a.1 = some b) :
    Handled b := by
  cases c with
  | refused =>
    cases h
    exact .request _
  | unsent =>
    cases h
    exact .write _ _
  | withdrawn =>
    cases h
    exact .request _
  | answered _ _ _ receipt => exact receipt.handled h

theorem Opening.handled {o : Origin} {s : Session} {w : ν} {a : Except Break StreamId × Session × ν}
    (c : Opening o s w a) {b : Break} (h : a.1 = .error b) : Handled b := by
  cases c with
  | unconnected =>
    cases h
    exact .connect _ _ _
  | plain => cases h
  | secured => cases h
  | unsecured _ _ _ fault =>
    cases h
    exact .secure fault
  | abandoned =>
    cases h
    exact .escaped _

theorem Anew.handled {u : Url} {s : Session} {w : ν} {a : Option Break × Session × ν} (c : Anew u s w a) {b : Break}
    (h : a.1 = some b) : Handled b := by
  cases c with
  | unopened opening =>
    cases h
    exact opening.handled rfl
  | opened _ course => exact course.handled h

/-- **What breaks a transfer off is what one of its steps makes of what goes wrong in it.** -/
theorem Attempt.handled {u : Url} {s : Session} {w : ν} {a : Option Break × Session × ν} (c : Attempt u s w a)
    {b : Break} (h : a.1 = some b) : Handled b := by
  cases c with
  | fresh _ anew => exact anew.handled h
  | reused _ course _ => exact course.handled h
  | repeated _ _ _ _ anew => exact anew.handled h

/-- **A transfer that breaks off is not called a success.** -/
theorem Attempt.fails {u : Url} {s : Session} {w : ν} {a : Option Break × Session × ν} (c : Attempt u s w a) {b : Break}
    (h : a.1 = some b) : Fails b := (c.handled h).fails

/-! ## What a transfer leaves alone -/

def options (s : Session) : Session :=
  { s with link := none, inbox := {}, buffers := [], status := none, received := 0, passed := [], transfers := 0,
           connects := 0 }

theorem closed_of_options {s t : Session} (h : s.options = t.options) : s.closed = t.closed := by
  have hc := congrArg Session.closed h
  exact hc

theorem url_of_options {s t : Session} (h : s.options = t.options) : s.url = t.url := by
  have hu := congrArg Session.url h
  exact hu

theorem defects_of_options {s t : Session} (h : s.options = t.options) : s.defects = t.defects := by
  have hd := congrArg Session.defects h
  exact hd

theorem options_drop (s : Session) (w : ν) : (s.drop w).1.options = s.options := by
  rw [drop_fst]
  rfl

theorem options_finish (keep ended : Bool) (surplus : Bytes) (s : Session) (w : ν) :
    (s.finish keep surplus ended w).1.options = s.options := by
  unfold finish
  split
  · rfl
  · exact options_drop s w

theorem options_finishAtEnd (keep : Bool) (r : Http.Reader) (s : Session) (w : ν) :
    (finishAtEnd keep r s w).2.1.options = s.options := by
  unfold finishAtEnd
  split
  · rfl
  · exact options_finish _ _ _ s w

theorem options_obey {es : List Http.Event} {s t : Session} {b : Option Break} (h : s.obey es = (b, t)) :
    t.options = s.options := by
  rw [told_of_obey h]
  rfl

theorem Ending.options {stream : StreamId} {keep ended : Bool} {r : Http.Reader} {st : Http.Reader.Standing}
    {s : Session} {w : ν} {a : Option Break × Session × ν} (h : Ending stream keep ended r st s w a) :
    a.2.1.options = s.options := by
  cases h with
  | complete => exact options_finish _ _ _ s w
  | switched => rfl
  | broken => rfl
  | silent => exact options_finishAtEnd _ _ s w
  | closed _ read => exact options_finishAtEnd _ _ s _
  | failed => rfl

theorem Receipt.options {stream : StreamId} {keep ended : Bool} {r : Http.Reader} {s : Session} {w : ν}
    {a : Option Break × Session × ν} (h : Receipt stream keep ended r s w a) : a.2.1.options = s.options := by
  cases h with
  | @interrupted reads mid b t _ _ _ obeyed => exact (show _ = t.options from rfl).trans (options_obey obeyed)
  | @heard reads mid t a _ _ _ obeyed ending =>
    exact (ending.options.trans (show _ = t.options from rfl)).trans (options_obey obeyed)

theorem Course.options {u : Url} {stream : StreamId} {surplus : Bytes} {ended : Bool} {s : Session} {w : ν}
    {a : Option Break × Session × ν} (h : Course u stream surplus ended s w a) : a.2.1.options = s.options := by
  cases h with
  | refused => rfl
  | unsent => rfl
  | withdrawn => rfl
  | answered _ _ _ receipt => exact receipt.options

theorem Opening.options {o : Origin} {s : Session} {w : ν} {a : Except Break StreamId × Session × ν}
    (h : Opening o s w a) : a.2.1.options = s.options := by
  cases h <;> rfl

theorem Anew.options {u : Url} {s : Session} {w : ν} {a : Option Break × Session × ν} (h : Anew u s w a) :
    a.2.1.options = s.options := by
  cases h with
  | unopened opening => exact opening.options
  | opened opening course => exact course.options.trans opening.options

theorem Attempt.options {u : Url} {s : Session} {w : ν} {a : Option Break × Session × ν} (h : Attempt u s w a) :
    a.2.1.options = s.options := by
  cases h with
  | fresh _ anew => exact anew.options
  | reused _ course _ => exact course.options
  | repeated _ course _ _ anew => exact anew.options.trans course.options

theorem options_fail (code : TransferCode) (m : Text.Points) (s : Session) : (s.fail code m).2.options = s.options := by
  rw [fail_snd]
  rfl

/-- **A transfer sets nothing.** -/
theorem options_perform (s : Session) (w : ν) : (s.perform w).2.1.options = s.options := by
  have h := perform_spec s w
  generalize s.perform w = a at h ⊢
  cases h with
  | closed => exact options_fail _ _ s.begun
  | aimless => exact options_fail _ _ s.begun
  | done _ _ attempt => exact attempt.options
  | @failed text u code m t w' _ _ attempt =>
    exact (options_fail code m { t with link := none }).trans attempt.options
  | escaped _ _ attempt => exact attempt.options

end Session
end Transport
