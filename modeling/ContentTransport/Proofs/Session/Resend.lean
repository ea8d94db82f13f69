import ContentTransport.Proofs.Session.Traffic
/-!
# Resend — when a request is written a second time

A transfer connects once at most, and begins its request on two streams at most.  It begins it a second time only after
the stream of the session turned out to be dead (`Died`): that stream had served a request before, the exchange on it
failed with one of the codes that a dead stream shows, no byte of a reply came from it, and no call on it timed out.
These are statements about every network, whatever its calls answer (`resent_after_dead_stream`).
-/
namespace Transport

namespace WireEvent

def asksForStream : WireEvent → Bool
  | connect _ _ _ _ => true
  | _ => false

/-- How many streams some calls ask for. -/
def connections (es : List WireEvent) : Nat := es.countP asksForStream

theorem connections_append (es fs : List WireEvent) : connections (es ++ fs) = connections es + connections fs :=
  List.countP_append

theorem connections_of_closes {es : List WireEvent} (h : ∀ e ∈ es, ∃ id, e = .close id) : connections es = 0 := by
  refine List.countP_eq_zero.2 fun e he => ?_
  obtain ⟨id, rfl⟩ := h e he
  exact Bool.false_ne_true

/-- The stream that a call opens, or that it gives in place of one. -/
def gives? : WireEvent → Option StreamId
  | connect _ _ _ (.ok id) => some id
  | secure _ _ _ _ (.ok id) => some id
  | _ => none

/-- The fault that a call answers with. -/
def fault? : WireEvent → Option Fault
  | connect _ _ _ (.error f) => some f
  | secure _ _ _ _ (.error f) => some f
  | read _ _ (.error f) => some f
  | write _ _ (.error f) => some f
  | _ => none

end WireEvent

open WireEvent (connections)

theorem Talk.connections {id : StreamId} {es : List WireEvent} (h : Talk id es) : connections es = 0 := by
  refine List.countP_eq_zero.2 fun e he hc => ?_
  obtain ⟨-, hopens⟩ := h e he
  cases e with
  | connect => cases hopens
  | _ => cases hc

/-- No call answers with a timeout. -/
def InTime (es : List WireEvent) : Prop := ∀ e ∈ es, ∀ f, e.fault? = some f → f.isTimeout = false

theorem InTime.append {es fs : List WireEvent} (h : InTime es) (h' : InTime fs) : InTime (es ++ fs) := by
  intro e he
  rcases List.mem_append.1 he with he | he
  · exact h e he
  · exact h' e he

theorem inTime_of_faultless {es : List WireEvent} (h : ∀ e ∈ es, e.fault? = none) : InTime es := by
  intro e he f hf
  rw [h e he] at hf
  cases hf

theorem inTime_singleton {e : WireEvent} {f : Fault} (he : e.fault? = some f) (hf : f.isTimeout = false) :
    InTime [e] := by
  intro e' he' f' hf'
  rw [List.mem_singleton.1 he', he] at hf'
  cases hf'
  exact hf

theorem inTime_reads (id : StreamId) (n : Nat) (ps : List Bytes) : InTime (WireEvent.reads id n ps) :=
  inTime_of_faultless fun e he => by
    obtain ⟨p, -, rfl⟩ := WireEvent.mem_reads he
    rfl

theorem inTime_writes (id : StreamId) (ps : List Bytes) : InTime (WireEvent.writes id ps) :=
  inTime_of_faultless fun e he => by
    obtain ⟨p, -, rfl⟩ := WireEvent.mem_writes he
    rfl

/-- A failure that a dead stream shows. -/
def Break.isStale : Break → Bool
  | .failed code _ => Session.isStale code
  | .escaped _ => false

namespace Session

variable {ν : Type} [Network ν]

/-! ## Timeouts -/

theorem timedOut_isStale (timeout : Float) (before after : String) : (timedOut timeout before after).isStale = false := by
  unfold timedOut
  split <;> rfl

theorem inTime_of_writeBreak {timeout : Float} {f : Fault} (h : (writeBreak timeout f).isStale = true) :
    f.isTimeout = false := by
  cases ht : f.isTimeout with
  | false => rfl
  | true =>
    rw [writeBreak, if_pos ht, timedOut_isStale] at h
    cases h

theorem inTime_of_readBreak {timeout : Float} {received : Nat} {f : Fault}
    (h : (readBreak timeout received f).isStale = true) : f.isTimeout = false := by
  cases ht : f.isTimeout with
  | false => rfl
  | true =>
    rw [readBreak, if_pos ht, timedOut_isStale] at h
    cases h

/-! ## An exchange -/

def counts (s : Session) : Nat × Nat := (s.transfers, s.connects)

/-- What receiving a reply, or a part of one, does on the stream that the session has. -/
structure Listened (l : Link) (s : Session) (w : Recorded ν) (a : Option Break × Session × Recorded ν)
    (es : List WireEvent) : Prop where
  wire : a.2.2.wire = w.wire ++ es
  talk : Talk l.stream es
  unwritten : WireEvent.writesTo l.stream es = []
  received : a.2.1.received = s.received + (WireEvent.dataFrom l.stream es).flatten.length
  counts : a.2.1.counts = s.counts
  inTime : ∀ b, a.1 = some b → b.isStale = true → InTime es
  link : ∀ l', a.2.1.link = some l' → l'.stream = l.stream ∧ (a.1 ≠ none → l' = l)

omit [Network ν] in
theorem Listened.trans {l : Link} {s t : Session} {w mid : Recorded ν} {a : Option Break × Session × Recorded ν}
    {es fs : List WireEvent} (h : Listened l s w (none, t, mid) es) (timely : InTime es) (h' : Listened l t mid a fs) :
    Listened l s w a (es ++ fs) where
  wire := by
    have hmid : mid.wire = w.wire ++ es := h.wire
    rw [h'.wire, hmid, List.append_assoc]
  talk := h.talk.append h'.talk
  unwritten := by rw [WireEvent.writesTo_append, h.unwritten, h'.unwritten]; rfl
  received := by
    have ht : t.received = _ := h.received
    rw [h'.received, ht, WireEvent.dataFrom_append, List.flatten_append, List.length_append, Nat.add_assoc]
  counts := h'.counts.trans h.counts
  inTime b hb hs := timely.append (h'.inTime b hb hs)
  link := h'.link

theorem listened_reads {l : Link} {n : Nat} {s t : Session} {w mid : Recorded ν} {ps : List Bytes}
    (path : Reads l.stream n w ps mid) (received : t.received = s.received + ps.flatten.length)
    (counts : t.counts = s.counts) (link : t.link = some l) :
    Listened l s w (none, t, mid) (WireEvent.reads l.stream n ps) where
  wire := path.wire
  talk := talk_reads _ _ _
  unwritten := WireEvent.writesTo_reads _ _ _ _
  received := by rw [WireEvent.dataFrom_reads _ _ path.ne_nil]; exact received
  counts := counts
  inTime _ hb := nomatch hb
  link l' hl' := by
    have hl' : t.link = some l' := hl'
    rw [link, Option.some.injEq] at hl'
    exact ⟨hl' ▸ rfl, fun h => absurd rfl h⟩

/-- A read that gives nothing. -/
theorem listened_read {l : Link} {n : Nat} {s : Session} {w w' : Recorded ν} {x : Except Fault Bytes} {b : Option Break}
    (read : Network.read l.stream n w = (x, w')) (empty : WireEvent.data? x = none) (link : s.link = some l)
    (timely : ∀ c, b = some c → c.isStale = true → InTime [.read l.stream n x]) :
    Listened l s w (b, s, w') [.read l.stream n x] where
  wire := (Recorded.read_eq read).2
  talk := talk_read _ _ _
  unwritten := rfl
  received := by rw [WireEvent.dataFrom, WireEvent.readsFrom_read, List.filterMap_cons_none empty]; rfl
  counts := rfl
  inTime := timely
  link l' hl' := by
    have hl' : s.link = some l' := hl'
    rw [link, Option.some.injEq] at hl'
    exact ⟨hl' ▸ rfl, fun _ => hl'.symm⟩

omit [Network ν] in
theorem listened_refl {l : Link} {s : Session} (link : s.link = some l) (b : Option Break) (w : Recorded ν) :
    Listened l s w (b, s, w) [] where
  wire := (List.append_nil _).symm
  talk := talk_nil _
  unwritten := rfl
  received := rfl
  counts := rfl
  inTime _ _ _ := fun _ h => nomatch h
  link l' hl' := by
    have hl' : s.link = some l' := hl'
    rw [link, Option.some.injEq] at hl'
    exact ⟨hl' ▸ rfl, fun _ => hl'.symm⟩

theorem listened_finish {l : Link} {s : Session} (link : s.link = some l) (keep ended : Bool) (surplus : Bytes)
    (w : Recorded ν) : ∃ es, Listened l s w (none, s.finish keep surplus ended w) es := by
  cases keep with
  | true =>
    refine ⟨[], (List.append_nil _).symm, talk_nil _, rfl, rfl, rfl, nofun, fun l' hl' => ⟨?_, fun h => absurd rfl h⟩⟩
    have hl' : (s.stand (.idle surplus ended)).link = some l' := hl'
    rw [link_stand _ link, Option.some.injEq] at hl'
    exact hl' ▸ rfl
  | false =>
    have hfinish : s.finish false surplus ended w = ({ s with link := none }, Network.close l.stream w) :=
      Prod.ext (drop_fst s w) (drop_of_some link w)
    rw [hfinish]
    exact ⟨[.close l.stream], rfl, talk_close _, rfl, rfl, rfl, nofun, nofun⟩

theorem listened_finishAtEnd {l : Link} {s : Session} (link : s.link = some l) (keep : Bool) (r : Http.Reader)
    (w : Recorded ν) : ∃ es, Listened l s w (finishAtEnd keep r s w) es := by
  unfold finishAtEnd
  split
  · exact ⟨[], listened_refl link _ w⟩
  · exact listened_finish link _ _ _ w

theorem Ending.listened {l : Link} {keep ended : Bool} {r : Http.Reader} {st : Http.Reader.Standing} {s : Session}
    {w : Recorded ν} {a : Option Break × Session × Recorded ν} (c : Ending l.stream keep ended r st s w a)
    (link : s.link = some l) : ∃ es, Listened l s w a es := by
  cases c with
  | complete => exact listened_finish link _ _ _ w
  | switched => exact ⟨[], listened_refl link _ w⟩
  | broken => exact ⟨[], listened_refl link _ w⟩
  | silent => exact listened_finishAtEnd link keep r w
  | closed _ read =>
    obtain ⟨es, h⟩ := listened_finishAtEnd link keep r (_ : Recorded ν)
    exact ⟨_, (listened_read read rfl link nofun).trans (inTime_of_faultless (by simp [WireEvent.fault?])) h⟩
  | failed _ read =>
    refine ⟨_, listened_read read rfl link fun c hc hs => ?_⟩
    cases hc
    exact inTime_singleton rfl (inTime_of_readBreak hs)

theorem Receipt.listened {l : Link} {keep ended : Bool} {reader : Http.Reader} {s : Session} {w : Recorded ν}
    {a : Option Break × Session × Recorded ν} (c : Receipt l.stream keep ended reader s w a) (link : s.link = some l) :
    ∃ es, Listened l s w a es := by
  have hreads {b : Option Break} {t : Session} {reads : List Bytes} {mid : Recorded ν} {es : List Http.Event}
      (path : Reads l.stream s.readSize w reads mid) (obeyed : s.obey es = (b, t)) :
      (t.counting reads.flatten.length).link = some l
        ∧ Listened l s w (none, t.counting reads.flatten.length, mid) (WireEvent.reads l.stream s.readSize reads) := by
    have htold := told_of_obey obeyed
    have hlink : t.link = some l := link_of_obey obeyed link
    have hreceived : t.received = s.received := by rw [htold]; rfl
    have hcounts : t.counts = s.counts := by rw [htold]; rfl
    exact ⟨hlink, listened_reads path (congrArg (· + _) hreceived) hcounts hlink⟩
  cases c with
  | interrupted path _ _ obeyed =>
    obtain ⟨hlink, h⟩ := hreads path obeyed
    exact ⟨_, h.trans (inTime_reads _ _ _) (listened_refl hlink _ _)⟩
  | heard path _ _ obeyed ending =>
    obtain ⟨hlink, h⟩ := hreads path obeyed
    obtain ⟨es, h'⟩ := ending.listened hlink
    exact ⟨_, h.trans (inTime_reads _ _ _) h'⟩

/-- Calls that attempt a request on one stream: they write to no other, and nothing but the request, once. -/
structure Tries (u : Url) (s : Session) (id : StreamId) (es : List WireEvent) : Prop where
  here : ∀ other p a, .write other p a ∈ es → other = id
  once : (WireEvent.writesTo id es).map Prod.fst <+: s.pieces u

/-- What an exchange does on the stream that the session has. -/
structure Conversed (u : Url) (l : Link) (s : Session) (w : Recorded ν) (a : Option Break × Session × Recorded ν)
    (es : List WireEvent) : Prop where
  wire : a.2.2.wire = w.wire ++ es
  talk : Talk l.stream es
  once : (WireEvent.writesTo l.stream es).map Prod.fst <+: s.pieces u
  received : a.2.1.received = s.received + (WireEvent.dataFrom l.stream es).flatten.length
  counts : a.2.1.counts = s.counts
  inTime : ∀ b, a.1 = some b → b.isStale = true → InTime es
  kept : ∀ l', a.1 = none → a.2.1.link = some l' → ∃ p, .write l'.stream p (.ok ()) ∈ es
  escaped : ∀ f l', a.1 = some (.escaped f) → a.2.1.link = some l' → l'.condition = .busy

theorem Listened.conversed {u : Url} {l : Link} {s : Session} {w mid : Recorded ν}
    {a : Option Break × Session × Recorded ν} {out : Http.Written} {es : List WireEvent}
    (h : Listened { l with condition := .busy } (s.stand .busy) mid a es) (request : (s.request u).write = .ok out)
    (path : Writes l.stream w out.pieces mid) : Conversed u l s w a (WireEvent.writes l.stream out.pieces ++ es) := by
  have hpieces := pieces_of_ok request
  refine ⟨?_, (talk_writes _ _).append h.talk, ?_, ?_, h.counts, fun b hb hs => ?_, fun l' hn hl' => ?_,
    fun f l' hf hl' => ?_⟩
  · rw [h.wire, path.wire, List.append_assoc]
  · refine ⟨[], ?_⟩
    rw [WireEvent.writesTo_append, WireEvent.writesTo_writes, h.unwritten, List.append_nil, List.append_nil,
      map_fst_true, hpieces]
  · rw [h.received, WireEvent.dataFrom_append, WireEvent.dataFrom_of_none (WireEvent.readsFrom_writes _ _ _)]
    rfl
  · exact (inTime_writes _ _).append (h.inTime b hb hs)
  · obtain ⟨target, fields, body, hbody⟩ := Http.Request.head_of_write request
    refine ⟨Http.headBytes (s.request u).method target fields, List.mem_append_left _ ?_⟩
    rw [(h.link l' hl').1, hbody]
    exact List.mem_cons_self
  · rw [(h.link l' hl').2 (by rw [hf]; exact nofun)]

theorem Course.conversed {u : Url} {l : Link} {surplus : Bytes} {ended : Bool} {s : Session} {w : Recorded ν}
    {a : Option Break × Session × Recorded ν} (c : Course u l.stream surplus ended s w a) (link : s.link = some l) :
    ∃ es, Conversed u l s w a es := by
  cases c with
  | refused =>
    refine ⟨[], (List.append_nil _).symm, talk_nil _, List.nil_prefix, rfl, rfl, fun _ _ _ _ h => (nomatch h), nofun,
      fun f l' hf => absurd hf (invalidRequest_ne _ f)⟩
  | @unsent out done rest p f mid w' request pieces path last =>
    refine ⟨WireEvent.writes l.stream done ++ [.write l.stream p (.error f)], ?_,
      (talk_writes _ _).append (talk_write _ _ _), ?_, ?_, rfl, fun b hb hs => ?_, nofun, fun f l' _ hl' => ?_⟩
    · rw [(Recorded.write_eq last).2, path.wire, List.append_assoc]
    · rw [WireEvent.writesTo_append, WireEvent.writesTo_writes, WireEvent.writesTo_write, List.map_append, map_fst_true,
        pieces_of_ok request, pieces]
      exact ⟨rest, List.append_assoc _ _ _⟩
    · rw [WireEvent.dataFrom_append, WireEvent.dataFrom_of_none (WireEvent.readsFrom_writes _ _ _)]
      rfl
    · cases hb
      exact (inTime_writes _ _).append (inTime_singleton rfl (inTime_of_writeBreak hs))
    · have hl' : (s.stand .busy).link = some l' := hl'
      rw [link_stand _ link, Option.some.injEq] at hl'
      exact hl' ▸ rfl
  | withdrawn request path =>
    exact ⟨_, (listened_refl (link_stand .busy link) _ _).conversed request path⟩
  | answered request path _ receipt =>
    obtain ⟨es, h⟩ := receipt.listened (l := { l with condition := .busy }) (link_stand .busy link)
    exact ⟨_, h.conversed request path⟩

/-! ## A transfer -/

/-- Every write of the calls goes to a stream that they have opened. -/
def Fresh (es : List WireEvent) : Prop :=
  ∀ pre id p a post, es = pre ++ .write id p a :: post → ∃ e ∈ pre, e.gives? = some id

theorem Fresh.opened {es fs : List WireEvent} {id : StreamId} (silent : Silent es) (talk : Talk id fs)
    (gives : fs ≠ [] → ∃ e ∈ es, e.gives? = some id) : Fresh (es ++ fs) := by
  intro pre other p a post he
  rcases List.append_eq_append_iff.1 he with ⟨ms, rfl, hfs⟩ | ⟨ms, rfl, hpost⟩
  · have hm : .write other p a ∈ fs := by rw [hfs]; exact List.mem_append_right _ List.mem_cons_self
    obtain ⟨e, hes, hgives⟩ := gives (List.ne_nil_of_mem hm)
    refine ⟨e, List.mem_append_left _ hes, ?_⟩
    rw [hgives]
    exact (talk _ hm).1.symm
  · cases ms with
    | nil =>
      have hm : .write other p a ∈ fs := by rw [← List.nil_append fs, ← hpost]; exact List.mem_cons_self
      rw [List.append_nil] at gives
      obtain ⟨e, hes, hgives⟩ := gives (List.ne_nil_of_mem hm)
      refine ⟨e, hes, ?_⟩
      rw [hgives]
      exact (talk _ hm).1.symm
    | cons m ms =>
      rw [List.cons_append, List.cons.injEq] at hpost
      rw [← hpost.1] at silent
      exact absurd (List.mem_append_right _ List.mem_cons_self) (silent.write other p a)

/-- The call by which a session lets go of its stream, if it has one. -/
def parting (s : Session) : List WireEvent := s.link.toList.map fun l => .close l.stream

theorem drop_parting (s : Session) (w : Recorded ν) : (s.drop w).2.wire = w.wire ++ s.parting := by
  unfold parting
  cases hl : s.link with
  | none =>
    rw [drop_of_none hl]
    exact (List.append_nil _).symm
  | some l =>
    rw [drop_of_some hl]
    rfl

omit [Network ν] in
theorem silent_parting (s : Session) : Silent s.parting := silent_closes fun e he => by
  obtain ⟨l, -, rfl⟩ := List.mem_map.1 he
  exact ⟨l.stream, rfl⟩

theorem connections_parting (s : Session) : connections s.parting = 0 := WireEvent.connections_of_closes fun e he => by
  obtain ⟨l, -, rfl⟩ := List.mem_map.1 he
  exact ⟨l.stream, rfl⟩

/-- The calls that open a stream to an origin, and what comes of them. -/
inductive Dials (o : Origin) (s : Session) : Except Break StreamId → List WireEvent → Prop
  | unconnected (f : Fault) :
    Dials o s (.error (connectBreak o s.timeout f)) [.connect o.host (.int o.port) (.float s.timeout) (.error f)]
  | plain (id : StreamId) (scheme : o.scheme ≠ "https") :
    Dials o s (.ok id) [.connect o.host (.int o.port) (.float s.timeout) (.ok id)]
  | secured (bare id : StreamId) (scheme : o.scheme = "https") :
    Dials o s (.ok id) [.connect o.host (.int o.port) (.float s.timeout) (.ok bare),
      .secure bare o.host (.float s.timeout) s.verifyTls (.ok id)]
  | unsecured (bare : StreamId) {f : Fault} {b : Break} (fault : tlsBreak? s.timeout f = some b) :
    Dials o s (.error b) [.connect o.host (.int o.port) (.float s.timeout) (.ok bare),
      .secure bare o.host (.float s.timeout) s.verifyTls (.error f), .close bare]
  | abandoned (bare : StreamId) {f : Fault} (fault : tlsBreak? s.timeout f = none) :
    Dials o s (.error (.escaped f)) [.connect o.host (.int o.port) (.float s.timeout) (.ok bare),
      .secure bare o.host (.float s.timeout) s.verifyTls (.error f)]

/-- **What opening a stream calls, and what becomes of the session.** -/
theorem Opening.dials {o : Origin} {s : Session} {w : Recorded ν} {a : Except Break StreamId × Session × Recorded ν}
    (c : Opening o s w a) :
    ∃ es, a.2.2.wire = w.wire ++ (s.parting ++ es) ∧ Dials o s a.1 es
      ∧ (∀ id, a.1 = .ok id → a.2.1 = s.linked o id) ∧ ∀ b, a.1 = .error b → a.2.1 = { s with link := none } := by
  have hdrop := drop_parting s w
  cases c with
  | @unconnected f w' connect =>
    refine ⟨_, ?_, .unconnected f, nofun, fun _ _ => rfl⟩
    rw [(Recorded.connect_eq connect).2, hdrop, List.append_assoc]
  | @plain id w' scheme connect =>
    refine ⟨_, ?_, .plain id scheme, ?_, nofun⟩
    · rw [(Recorded.connect_eq connect).2, hdrop, List.append_assoc]
    · rintro _ ⟨⟩
      rfl
  | @secured id id' mid w' scheme connect secure =>
    refine ⟨_, ?_, .secured id id' scheme, ?_, nofun⟩
    · rw [(Recorded.secure_eq secure).2, (Recorded.connect_eq connect).2, hdrop, List.append_assoc, List.append_assoc]
      rfl
    · rintro _ ⟨⟩
      rfl
  | @unsecured id mid w' f b _ connect secure fault =>
    refine ⟨_, ?_, .unsecured id fault, nofun, fun _ _ => rfl⟩
    rw [Recorded.close_wire, (Recorded.secure_eq secure).2, (Recorded.connect_eq connect).2, hdrop, List.append_assoc,
      List.append_assoc, List.append_assoc]
    rfl
  | @abandoned id mid w' f _ connect secure fault =>
    refine ⟨_, ?_, .abandoned id fault, nofun, fun _ _ => rfl⟩
    rw [(Recorded.secure_eq secure).2, (Recorded.connect_eq connect).2, hdrop, List.append_assoc, List.append_assoc]
    rfl

omit [Network ν] in
theorem Dials.silent {o : Origin} {s : Session} {x : Except Break StreamId} {es : List WireEvent} (h : Dials o s x es) :
    Silent es := by
  cases h with
  | unconnected => exact silent_connect _ _ _ _
  | plain => exact silent_connect _ _ _ _
  | secured => exact (silent_connect _ _ _ _).append (silent_secure _ _ _ _ _)
  | unsecured => exact (silent_connect _ _ _ _).append ((silent_secure _ _ _ _ _).append (silent_close _))
  | abandoned => exact (silent_connect _ _ _ _).append (silent_secure _ _ _ _ _)

omit [Network ν] in
theorem Dials.one {o : Origin} {s : Session} {x : Except Break StreamId} {es : List WireEvent} (h : Dials o s x es) :
    connections es = 1 := by
  cases h <;> rfl

omit [Network ν] in
theorem Dials.gives {o : Origin} {s : Session} {id : StreamId} {es : List WireEvent} (h : Dials o s (.ok id) es) :
    ∃ e ∈ es, e.gives? = some id := by
  cases h with
  | plain => exact ⟨_, List.mem_cons_self, rfl⟩
  | secured => exact ⟨_, List.mem_cons_of_mem _ List.mem_cons_self, rfl⟩

/-- What opening a stream does. -/
structure Dialled (o : Origin) (s : Session) (w : Recorded ν) (a : Except Break StreamId × Session × Recorded ν)
    (es : List WireEvent) : Prop where
  wire : a.2.2.wire = w.wire ++ es
  silent : Silent es
  one : connections es = 1
  transfers : a.2.1.transfers = s.transfers
  connects : a.2.1.connects ≤ s.connects + 1
  gives : ∀ id, a.1 = .ok id → a.2.1.link = some { stream := id, origin := o } ∧ ∃ e ∈ es, e.gives? = some id
  unlinked : ∀ b, a.1 = .error b → a.2.1.link = none

theorem Opening.dialled {o : Origin} {s : Session} {w : Recorded ν} {a : Except Break StreamId × Session × Recorded ν}
    (c : Opening o s w a) : ∃ es, Dialled o s w a es := by
  obtain ⟨es, hwire, hdials, hopened, hfailed⟩ := c.dials
  have hone : connections (s.parting ++ es) = 1 := by
    rw [WireEvent.connections_append, connections_parting, hdials.one]
  have hsession : a.2.1.transfers = s.transfers ∧ a.2.1.connects ≤ s.connects + 1 := by
    cases hx : a.1 with
    | ok id =>
      rw [hopened id hx]
      exact ⟨rfl, Nat.le_refl _⟩
    | error b =>
      rw [hfailed b hx]
      exact ⟨rfl, Nat.le_succ _⟩
  refine ⟨s.parting ++ es, hwire, (silent_parting s).append hdials.silent, hone, hsession.1, hsession.2,
    fun id hid => ⟨?_, ?_⟩, fun b hb => ?_⟩
  · rw [hopened id hid]
    rfl
  · rw [hid] at hdials
    obtain ⟨e, he, hgives⟩ := hdials.gives
    exact ⟨e, List.mem_append_right _ he, hgives⟩
  · rw [hfailed b hb]

theorem Tries.of_talk {u : Url} {s : Session} {id : StreamId} {es fs : List WireEvent} (silent : Silent es)
    (talk : Talk id fs) (once : (WireEvent.writesTo id fs).map Prod.fst <+: s.pieces u) : Tries u s id (es ++ fs) := by
  refine ⟨fun other p a hm => ?_, ?_⟩
  · rcases List.mem_append.1 hm with hm | hm
    · exact absurd hm (silent.write other p a)
    · exact Option.some.inj (talk _ hm).1
  · rw [WireEvent.writesTo_append, silent.writesTo]
    exact once

omit [Network ν] in
theorem Tries.eq_of_writes {u : Url} {s : Session} {id other : StreamId} {es : List WireEvent} (h : Tries u s id es)
    (written : WireEvent.writesTo other es ≠ []) : other = id := by
  obtain ⟨⟨p, b⟩, hm⟩ := List.exists_mem_of_ne_nil _ written
  obtain ⟨a, ha, -⟩ := WireEvent.mem_of_writesTo hm
  exact h.here other p a ha

theorem Tries.of_options {u : Url} {s t : Session} {id : StreamId} {es : List WireEvent} (h : Tries u s id es)
    (options : s.options = t.options) : Tries u t id es :=
  ⟨h.here, pieces_of_options options u ▸ h.once⟩

theorem Tries.append {u : Url} {s : Session} {id : StreamId} {es fs : List WireEvent} (h : Tries u s id es)
    (silent : Silent fs) : Tries u s id (es ++ fs) := by
  refine ⟨fun other p a hm => ?_, ?_⟩
  · rcases List.mem_append.1 hm with hm | hm
    · exact h.here other p a hm
    · exact absurd hm (silent.write other p a)
  · rw [WireEvent.writesTo_append, silent.writesTo, List.append_nil]
    exact h.once

theorem Fresh.append {es fs : List WireEvent} (h : Fresh es) (silent : Silent fs) : Fresh (es ++ fs) := by
  intro pre id p a post he
  rcases List.append_eq_append_iff.1 he with ⟨ms, -, hfs⟩ | ⟨ms, rfl, hpost⟩
  · refine absurd ?_ (silent.write id p a)
    rw [hfs]
    exact List.mem_append_right _ List.mem_cons_self
  · cases ms with
    | nil =>
      refine absurd ?_ (silent.write id p a)
      rw [← List.nil_append fs, ← hpost]
      exact List.mem_cons_self
    | cons m ms =>
      rw [List.cons_append, List.cons.injEq] at hpost
      exact h pre id p a ms (by rw [hpost.1])

/-- The stream that a transfer leaves behind: one that it has written to, if it succeeds, and one that is not to be used
again, if a fault escapes from it. -/
structure Leaves (a : Option Break × Session × Recorded ν) (es : List WireEvent) : Prop where
  kept : ∀ l, a.1 = none → a.2.1.link = some l → ∃ p, .write l.stream p (.ok ()) ∈ es
  escaped : ∀ f l, a.1 = some (.escaped f) → a.2.1.link = some l → l.condition = .busy

/-- What a transfer on a new stream does. -/
structure Restarted (u : Url) (s : Session) (w : Recorded ν) (a : Option Break × Session × Recorded ν) (id : StreamId)
    (es : List WireEvent) : Prop where
  wire : a.2.2.wire = w.wire ++ es
  one : connections es = 1
  tries : Tries u s id es
  fresh : Fresh es
  transfers : a.2.1.transfers = s.transfers
  connects : a.2.1.connects ≤ s.connects + 1
  leaves : Leaves a es

theorem Anew.restarted {u : Url} {s : Session} {w : Recorded ν} {a : Option Break × Session × Recorded ν}
    (c : Anew u s w a) : ∃ id es, Restarted u s w a id es := by
  cases c with
  | @unopened b t w' opening =>
    obtain ⟨es, h⟩ := opening.dialled
    have hlink : t.link = none := h.unlinked b rfl
    have htalk : Talk 0 [] := talk_nil 0
    refine ⟨0, es, h.wire, h.one, ?_, ?_, h.transfers, h.connects, nofun, fun f l _ hl => ?_⟩
    · rw [← List.append_nil es]
      exact .of_talk h.silent htalk List.nil_prefix
    · rw [← List.append_nil es]
      exact .opened h.silent htalk fun hne => absurd rfl hne
    · exact nomatch hlink.symm.trans hl
  | @opened id t w' a opening course =>
    obtain ⟨es, h⟩ := opening.dialled
    obtain ⟨hlink, hgives⟩ := h.gives id rfl
    obtain ⟨fs, hc⟩ := course.conversed (l := { stream := id, origin := u.origin }) hlink
    have hwire : w'.wire = w.wire ++ es := h.wire
    have hcounts : t.transfers = s.transfers ∧ t.connects ≤ s.connects + 1 := ⟨h.transfers, h.connects⟩
    have hsame : a.2.1.transfers = t.transfers ∧ a.2.1.connects = t.connects := Prod.mk.injEq _ _ _ _ ▸ hc.counts
    refine ⟨id, es ++ fs, ?_, ?_, ?_, .opened h.silent hc.talk fun _ => hgives, hsame.1.trans hcounts.1,
      hsame.2 ▸ hcounts.2, fun l hn hl => ?_, hc.escaped⟩
    · rw [hc.wire, hwire, List.append_assoc]
    · rw [WireEvent.connections_append, h.one, hc.talk.connections]
    · exact .of_talk h.silent hc.talk (pieces_of_options opening.options u ▸ hc.once)
    · obtain ⟨p, hp⟩ := hc.kept l hn hl
      exact ⟨p, List.mem_append_right _ hp⟩

/-- **A first attempt after which there is another.**  It is made on the stream of the session, which has served a
request before; it fails as a dead stream fails, with nothing read of a reply and no call timed out. -/
structure Died (u : Url) (s : Session) (w : Recorded ν) (l : Link) (es : List WireEvent) : Prop where
  failed : ∃ surplus ended code m t mid, s.reusable? u.origin w = some (l, surplus, ended)
    ∧ s.started.exchange u l.stream surplus ended w = (some (.failed code m), t, mid)
    ∧ (code = .gotNothing ∨ code = .sendError ∨ code = .recvError) ∧ mid.wire = w.wire ++ es
  used : ∃ p, .write l.stream p (.ok ()) ∈ w.wire
  talk : Talk l.stream es
  unread : WireEvent.dataFrom l.stream es = []
  inTime : InTime es

/-- The calls of a transfer, in one attempt or in two. -/
inductive Sent (u : Url) (s : Session) (w : Recorded ν) (es : List WireEvent) : Prop
  | once (id : StreamId) (h : Tries u s id es)
  | twice {l : Link} {first second : List WireEvent} (id : StreamId) (split : es = first ++ second)
      (died : Died u s w l first) (h : Tries u s l.stream first) (h' : Tries u s id second) (fresh : Fresh second)

/-- A stream that is kept for the next transfer has served a request. -/
def Used (s : Session) (wire : List WireEvent) : Prop :=
  ∀ l surplus ended, s.link = some l → l.condition = .idle surplus ended → ∃ p, .write l.stream p (.ok ()) ∈ wire

/-- What a transfer does that has somewhere to go. -/
structure Undertaken (u : Url) (s : Session) (w : Recorded ν) (a : Option Break × Session × Recorded ν)
    (es : List WireEvent) : Prop where
  wire : a.2.2.wire = w.wire ++ es
  one : connections es ≤ 1
  sent : Sent u s w es
  transfers : a.2.1.transfers = s.transfers + 1
  connects : a.2.1.connects ≤ s.connects + 1
  leaves : Leaves a es

theorem usable_link {o : Origin} {s : Session} {w : ν} {l : Link} {surplus : Bytes} {ended : Bool}
    (h : s.reusable? o w = some (l, surplus, ended)) : s.link = some l ∧ l.condition = .idle surplus ended := by
  unfold reusable? at h
  cases hl : s.link with
  | none =>
    rw [hl] at h
    cases h
  | some k =>
    rw [hl] at h
    dsimp only at h
    cases hc : k.condition with
    | busy =>
      rw [hc] at h
      cases h
    | idle surplus' ended' =>
      rw [hc] at h
      dsimp only at h
      split at h
      · cases h
        exact ⟨rfl, hc⟩
      · cases h

/-- A transfer that makes do with the stream of the session. -/
theorem Conversed.undertaken {u : Url} {l : Link} {s : Session} {w : Recorded ν}
    {a : Option Break × Session × Recorded ν} {es : List WireEvent} (h : Conversed u l s.started w a es) :
    Undertaken u s w a es := by
  have hcounts : (a.2.1.transfers, a.2.1.connects) = (s.transfers + 1, s.connects) := h.counts
  rw [Prod.mk.injEq] at hcounts
  refine ⟨h.wire, ?_, .once l.stream ?_, hcounts.1, ?_, h.kept, h.escaped⟩
  · rw [h.talk.connections]
    exact Nat.zero_le _
  · exact .of_talk silent_nil h.talk h.once
  · rw [hcounts.2]
    exact Nat.le_succ _

theorem Restarted.undertaken {u : Url} {s : Session} {w : Recorded ν} {a : Option Break × Session × Recorded ν}
    {id : StreamId} {es : List WireEvent} (h : Restarted u s.started w a id es) : Undertaken u s w a es :=
  ⟨h.wire, Nat.le_of_eq h.one, .once id (h.tries.of_options rfl), h.transfers, h.connects, h.leaves⟩

/-- A transfer that finds the stream of the session dead. -/
theorem Restarted.again {u : Url} {l : Link} {surplus : Bytes} {ended : Bool} {code : TransferCode} {m : Text.Points}
    {s t : Session} {w mid : Recorded ν} {a : Option Break × Session × Recorded ν} {id : StreamId}
    {es fs : List WireEvent} (h' : Restarted u t mid a id fs)
    (h : Conversed u l s.started w (some (.failed code m), t, mid) es)
    (usable : s.reusable? u.origin w = some (l, surplus, ended))
    (failed : s.started.exchange u l.stream surplus ended w = (some (.failed code m), t, mid))
    (stale : isStale code = true) (unread : t.received = 0) (used : s.Used w.wire) : Undertaken u s w a (es ++ fs) := by
  obtain ⟨hlink, hidle⟩ := usable_link usable
  have hcounts : (t.transfers, t.connects) = (s.transfers + 1, s.connects) := h.counts
  rw [Prod.mk.injEq] at hcounts
  have hmid : mid.wire = w.wire ++ es := h.wire
  have hoptions : t.options = s.options := by
    have hc := (exchange_spec u l.stream surplus ended s.started w).options
    rw [failed] at hc
    exact hc
  have hdata : WireEvent.dataFrom l.stream es = [] := by
    have hcount : t.received = 0 + (WireEvent.dataFrom l.stream es).flatten.length := h.received
    rw [unread, Nat.zero_add] at hcount
    exact WireEvent.dataFrom_of_uncounted hcount.symm
  have hcode : code = .gotNothing ∨ code = .sendError ∨ code = .recvError := by
    simpa [isStale, or_assoc] using stale
  refine ⟨?_, ?_, ?_, h'.transfers.trans hcounts.1, hcounts.2 ▸ h'.connects, fun l' hn hl' => ?_, h'.leaves.escaped⟩
  · rw [h'.wire, hmid, List.append_assoc]
  · have hone : WireEvent.connections (es ++ fs) = 1 := by
      rw [WireEvent.connections_append, h.talk.connections, h'.one]
    exact Nat.le_of_eq hone
  · refine .twice id rfl ⟨⟨surplus, ended, code, m, t, mid, usable, failed, hcode, hmid⟩, used l surplus ended hlink hidle,
      h.talk, hdata, h.inTime _ rfl stale⟩ (.of_talk silent_nil h.talk h.once) (h'.tries.of_options hoptions) h'.fresh
  · obtain ⟨p, hp⟩ := h'.leaves.kept l' hn hl'
    exact ⟨p, List.mem_append_right _ hp⟩

theorem attempt_undertaken (u : Url) {s : Session} {w : Recorded ν} (used : s.Used w.wire) :
    ∃ es, Undertaken u s w (s.started.attempt u w) es := by
  unfold attempt
  split
  · obtain ⟨id, es, h⟩ := (exchangeAnew_spec u s.started w).restarted
    exact ⟨es, h.undertaken⟩
  · rename_i l surplus ended usable
    obtain ⟨es, h⟩ := (exchange_spec u l.stream surplus ended s.started w).conversed (usable_link usable).1
    split
    · rename_i code m t mid failed
      rw [failed] at h
      by_cases hstale : (isStale code && t.received == 0) = true
      · rw [if_pos hstale]
        rw [Bool.and_eq_true, beq_iff_eq] at hstale
        obtain ⟨id, fs, h'⟩ := (exchangeAnew_spec u t mid).restarted
        exact ⟨es ++ fs, h'.again h usable failed hstale.1 hstale.2 used⟩
      · rw [if_neg hstale]
        exact ⟨es, h.undertaken⟩
    · exact ⟨es, h.undertaken⟩

/-- What a call for a transfer does that has somewhere to go. -/
structure Carried (u : Url) (s : Session) (w : Recorded ν) (a : Except Fault TransferCode × Session × Recorded ν)
    (es : List WireEvent) : Prop where
  wire : a.2.2.wire = w.wire ++ es
  one : connections es ≤ 1
  sent : Sent u s w es
  transfers : a.2.1.transfers = s.transfers + 1
  connects : a.2.1.connects ≤ s.connects + 1
  used : a.2.1.Used a.2.2.wire

theorem Sent.closing {u : Url} {s : Session} {w : Recorded ν} {es ds : List WireEvent} (h : Sent u s w es)
    (quiet : Silent ds) : Sent u s w (es ++ ds) := by
  cases h with
  | once id h => exact .once id (h.append quiet)
  | twice id split died h h' fresh =>
    exact .twice id (by rw [split, List.append_assoc]) died h (h'.append quiet) (fresh.append quiet)

theorem Undertaken.used {u : Url} {s t : Session} {w w' : Recorded ν} {b : Option Break} {es : List WireEvent}
    (h : Undertaken u s w (b, t, w') es) (hb : b = none ∨ ∃ f, b = some (.escaped f)) : t.Used w'.wire := by
  intro l surplus ended hl hc
  rcases hb with rfl | ⟨f, rfl⟩
  · obtain ⟨p, hp⟩ := h.leaves.kept l rfl hl
    have hwire : w'.wire = w.wire ++ es := h.wire
    exact ⟨p, by rw [hwire]; exact List.mem_append_right _ hp⟩
  · rw [h.leaves.escaped f l rfl hl] at hc
    cases hc

theorem perform_carried {text : String} {u : Url} {s : Session} {w : Recorded ν} (used : s.Used w.wire)
    (opened : s.closed = false) (url : s.url = some (text, u)) : ∃ es, Carried u s w (s.perform w) es := by
  obtain ⟨es, h⟩ := attempt_undertaken u used
  rw [perform_of_open opened url]
  generalize s.started.attempt u w = a at h ⊢
  obtain ⟨_ | _ | f, t, w'⟩ := a
  · exact ⟨es, h.wire, h.one, h.sent, h.transfers, h.connects, h.used (.inl rfl)⟩
  · rename_i code m
    obtain ⟨ds, hds, hclose⟩ := drop_wire t w'
    have hwire : w'.wire = w.wire ++ es := h.wire
    dsimp only
    rw [fail_snd]
    refine ⟨es ++ ds, ?_, ?_, h.sent.closing (silent_closes hclose), h.transfers, h.connects, nofun⟩
    · rw [hds, hwire, List.append_assoc]
    · rw [WireEvent.connections_append, WireEvent.connections_of_closes hclose]
      exact h.one
  · exact ⟨es, h.wire, h.one, h.sent, h.transfers, h.connects, h.used (.inr ⟨f, rfl⟩)⟩

/-! ## Every session -/

/-- The sessions that there can be over a network, which may change at any time, with the record of their calls. -/
inductive Reached : Session → Recorded ν → Prop
  | new (n : ν) : Reached { readSize_pos := readSize_new_pos } { network := n }
  | set {s t : Session} {w : Recorded ν} (h : Reached s w) (x : Setting) (accepted : x.apply s = .ok t) : Reached t w
  | newList {s : Session} {w : Recorded ν} (h : Reached s w) : Reached s.newList.2 w
  | addField {s : Session} {w : Recorded ν} (h : Reached s w) (l : ListId) (name value : Value) :
    Reached (s.addField l name value).2 w
  | release {s : Session} {w : Recorded ν} (h : Reached s w) (l : ListId) : Reached (s.release l) w
  | perform {s : Session} {w : Recorded ν} (h : Reached s w) : Reached (s.perform w).2.1 (s.perform w).2.2
  | close {s : Session} {w : Recorded ν} (h : Reached s w) : Reached (s.close w).1 (s.close w).2
  | turn {s : Session} {w : Recorded ν} (h : Reached s w) (n : ν) : Reached s { w with network := n }

/-- What holds of every session: it has connected no more often than it has made transfers. -/
structure Counted (s : Session) (w : Recorded ν) : Prop where
  connects : s.connects ≤ s.transfers
  used : s.Used w.wire

omit [Network ν] in
theorem Counted.sameStream {s t : Session} {w : Recorded ν} (h : Counted s w) (same : SameStream s t) : Counted t w where
  connects := by rw [same.connects, same.transfers]; exact h.connects
  used l surplus ended hl hc := h.used l surplus ended (same.link ▸ hl) hc

theorem Counted.perform {s : Session} {w : Recorded ν} (h : Counted s w) :
    Counted (s.perform w).2.1 (s.perform w).2.2 := by
  have hfail (code : TransferCode) (m : Text.Points) : Counted (s.begun.fail code m).2 w := by
    rw [fail_snd]
    exact ⟨h.connects, h.used⟩
  have hspec := perform_spec s w
  cases hclosed : s.closed with
  | true =>
    generalize s.perform w = a at hspec ⊢
    cases hspec with
    | closed => exact hfail _ _
    | aimless ho => exact nomatch hclosed.symm.trans ho
    | done ho => exact nomatch hclosed.symm.trans ho
    | failed ho => exact nomatch hclosed.symm.trans ho
    | escaped ho => exact nomatch hclosed.symm.trans ho
  | false =>
    cases hurl : s.url with
    | none =>
      generalize s.perform w = a at hspec ⊢
      cases hspec with
      | closed hc => exact nomatch hclosed.symm.trans hc
      | aimless => exact hfail _ _
      | done _ hu => exact nomatch hurl.symm.trans hu
      | failed _ hu => exact nomatch hurl.symm.trans hu
      | escaped _ hu => exact nomatch hurl.symm.trans hu
    | some target =>
      obtain ⟨text, u⟩ := target
      obtain ⟨es, hc⟩ := perform_carried h.used hclosed hurl
      refine ⟨?_, hc.used⟩
      rw [hc.transfers]
      exact Nat.le_trans hc.connects (Nat.succ_le_succ h.connects)

theorem Reached.counted {s : Session} {w : Recorded ν} (h : Reached s w) : Counted s w := by
  induction h with
  | new => exact ⟨Nat.le_refl 0, nofun⟩
  | set _ x accepted ih => exact ih.sameStream (sameStream_apply accepted)
  | newList _ ih => exact ih.sameStream (sameStream_newList _)
  | addField _ l name value ih => exact ih.sameStream (sameStream_addField l name value _)
  | release _ l ih => exact ih.sameStream (sameStream_release l _)
  | perform _ ih => exact ih.perform
  | @close s w _ ih =>
    unfold Session.close
    split
    · exact ih
    · dsimp only
      rw [drop_fst]
      exact ⟨ih.connects, nofun⟩
  | turn _ n ih => exact ⟨ih.connects, ih.used⟩

theorem reached_run (acts : List Act) : Reached (Scene.run acts .new).session (Scene.run acts .new).network := by
  refine Scene.run_keeps acts (P := fun c => Reached c.session c.network) (fun a _ c h => ?_) .new (.new _)
  cases a with
  | set x =>
    cases hx : x.apply c.session with
    | error f => rwa [Scene.after_set_error hx]
    | ok s =>
      rw [Scene.after_set_ok hx]
      exact h.set x hx
  | newList => exact h.newList
  | addField l name value => exact h.addField l name value
  | release l => exact h.release l
  | perform => exact h.perform
  | close => exact h.close
  | reply => exact h.turn _
  | connectFault => exact h.turn _
  | tlsFault => exact h.turn _
  | writeFault => exact h.turn _

/-- **A request is written again only after a dead stream.**  A session has connected no more often than it has made
transfers.  A transfer counts as one, connects once at most, and attempts its request on one stream, or on two: then the
first is the kept stream of the session and died under the attempt, and the second is one that the transfer has opened.
So no request is written again after a byte of a reply, after a timeout, or after an attempt on a new stream. -/
theorem resent_after_dead_stream {s : Session} {w : Recorded ν} (h : Reached s w) :
    s.connects ≤ s.transfers ∧ ∀ text u, s.closed = false → s.url = some (text, u) →
      (s.perform w).2.1.transfers = s.transfers + 1
        ∧ ∃ es, (s.perform w).2.2.wire = w.wire ++ es ∧ connections es ≤ 1 ∧ Sent u s w es := by
  refine ⟨h.counted.connects, fun text u opened url => ?_⟩
  obtain ⟨es, hc⟩ := perform_carried h.counted.used opened url
  exact ⟨hc.transfers, es, hc.wire, hc.one, hc.sent⟩

/-- A second request on a kept stream whose server has reset it: the request is written again, to a new stream. -/
theorem reset_stream_is_replaced :
    let acts : List Act := [.set (.url (.text "http://h/")),
      .reply { data := Bytes.ofText "HTTP/1.1 200 OK\r\nContent-Length: 1\r\n\r\na" }, .perform,
      .reply { data := Bytes.ofText "HTTP/1.1 200 OK\r\nContent-Length: 1\r\n\r\nb" },
      .writeFault (some ⟨.reset, none, none⟩)]
    let c := Scene.run acts .new
    c.performed.session.status = some 200 ∧ c.session.closed = false ∧ ∃ text u l first second id, c.session.url = some (text, u)
      ∧ c.wired = first ++ second ∧ Died u c.session c.network l first ∧ Fresh second
      ∧ WireEvent.writesTo l.stream first ≠ [] ∧ WireEvent.writesTo id second ≠ [] := by
  intro acts c
  have hurl : c.session.url = some ("http://h/", ⟨⟨"http", "h", 80⟩, "/"⟩) := by decide +kernel
  have hopen : c.session.closed = false := by decide +kernel
  have hzero : WireEvent.writesTo 0 c.wired ≠ [] := by decide +kernel
  have hone : WireEvent.writesTo 1 c.wired ≠ [] := by decide +kernel
  obtain ⟨-, htransfer⟩ := resent_after_dead_stream (reached_run acts)
  obtain ⟨-, es, hwire, -, hsent⟩ := htransfer _ _ hopen hurl
  have hwired : c.wired = es := Scene.wired_eq hwire
  rw [hwired] at hzero hone
  refine ⟨by decide +kernel, hopen, ?_⟩
  cases hsent with
  | once id h =>
    obtain rfl := h.eq_of_writes hzero
    exact absurd (h.eq_of_writes hone) Nat.one_ne_zero
  | @twice l first second id split died h h' fresh =>
    have hwhere {i : StreamId} (hi : WireEvent.writesTo i es ≠ []) :
        (i = l.stream ∧ WireEvent.writesTo l.stream first ≠ []) ∨ (i = id ∧ WireEvent.writesTo id second ≠ []) := by
      rw [split, WireEvent.writesTo_append] at hi
      by_cases hf : WireEvent.writesTo i first = []
      · rw [hf, List.nil_append] at hi
        obtain rfl := h'.eq_of_writes hi
        exact .inr ⟨rfl, hi⟩
      · obtain rfl := h.eq_of_writes hf
        exact .inl ⟨rfl, hf⟩
    have hboth : WireEvent.writesTo l.stream first ≠ [] ∧ WireEvent.writesTo id second ≠ [] := by
      rcases hwhere hzero with ⟨h0, hf⟩ | ⟨h0, hs⟩
      · rcases hwhere hone with ⟨h1, -⟩ | ⟨-, hs⟩
        · exact absurd (h1.trans h0.symm) Nat.one_ne_zero
        · exact ⟨hf, hs⟩
      · rcases hwhere hone with ⟨-, hf⟩ | ⟨h1, -⟩
        · exact ⟨hf, hs⟩
        · exact absurd (h1.trans h0.symm) Nat.one_ne_zero
    exact ⟨_, _, l, first, second, id, hurl, hwired.trans split, died, fresh, hboth⟩

end Session
end Transport
