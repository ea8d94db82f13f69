import ContentTransport.Proofs.Http.Request
import ContentTransport.Proofs.Network.Serving
import ContentTransport.Proofs.Session.Run
/-!
# Traffic — what a transfer does with its stream

One statement for each step of a transfer over a scripted network, up to the whole call (`transferred`).  Each says what
the step adds to the record, to which streams it writes, and whether the stream may be used again, given that the
session holds a stream that serves its origin and no other open stream was written to (`Sound`).
-/
namespace Transport

open ScriptedNetwork

/-! ## What holds of a session and its network -/

namespace Session

def held (s : Session) : Option (StreamId × Origin) := s.link.map fun l => (l.stream, l.origin)

/-- The record names no stream that is not there, the only open stream that has been written to is the one that is held,
and that one serves its origin. -/
structure Sound (held : Option (StreamId × Origin)) (w : Recorded ScriptedNetwork) : Prop where
  known : ∀ e ∈ w.wire, ∀ id, e.stream? = some id → id < w.network.streams.length
  owns : ∀ id p a, isOpen id w.network = true → .write id p a ∈ w.wire → held.map Prod.fst = some id
  serves : ∀ id o, held = some (id, o) → Serves w.wire o id

theorem Sound.lt {held : Option (StreamId × Origin)} {w : Recorded ScriptedNetwork} {id : StreamId} {o : Origin}
    (h : Sound held w) (hh : held = some (id, o)) : id < w.network.streams.length := by
  obtain ⟨timeout, hm⟩ := (h.serves id o hh).connected
  exact h.known _ hm id rfl

theorem Sound.talk {held : Option (StreamId × Origin)} {w w' : Recorded ScriptedNetwork} {id : StreamId} {o : Origin}
    {es : List WireEvent} (h : Sound held w) (hh : held = some (id, o)) (alike : Alike w.network w'.network)
    (wire : w'.wire = w.wire ++ es) (talk : Talk id es) : Sound held w' where
  known e he other ho := by
    rw [alike.count]
    rw [wire] at he
    rcases List.mem_append.1 he with he | he
    · exact h.known e he other ho
    · rw [(talk e he).1, Option.some.injEq] at ho
      exact ho ▸ h.lt hh
  owns other p a ho hm := by
    rw [wire] at hm
    rcases List.mem_append.1 hm with hm | hm
    · exact h.owns other p a (by rw [← alike.isOpen]; exact ho) hm
    · rw [hh]
      exact (talk _ hm).1.symm
  serves other o' ho := by
    rw [hh, Option.some.injEq, Prod.mk.injEq] at ho
    obtain ⟨rfl, rfl⟩ := ho
    rw [wire]
    exact (h.serves id o hh).talk talk

theorem Sound.unwritten {w w' : Recorded ScriptedNetwork} {es : List WireEvent} (h : Sound none w)
    (count : w.network.streams.length ≤ w'.network.streams.length)
    (isOpen : ∀ id, id < w.network.streams.length → isOpen id w'.network = true → isOpen id w.network = true)
    (wire : w'.wire = w.wire ++ es)
    (quiet : ∀ e ∈ es, (∀ id, e.stream? = some id → id < w'.network.streams.length) ∧ ∀ id p a, e ≠ .write id p a) :
    Sound none w' where
  known e he id hid := by
    rw [wire] at he
    rcases List.mem_append.1 he with he | he
    · exact Nat.lt_of_lt_of_le (h.known e he id hid) count
    · exact (quiet e he).1 id hid
  owns id p a ho hm := by
    rw [wire] at hm
    rcases List.mem_append.1 hm with hm | hm
    · exact h.owns id p a (isOpen id (h.known _ hm id rfl) ho) hm
    · exact absurd rfl ((quiet _ hm).2 id p a)
  serves _ _ h := nomatch h

theorem Sound.drop {s : Session} {w : Recorded ScriptedNetwork} (h : Sound s.held w) : Sound none (s.drop w).2 := by
  cases hl : s.link with
  | none =>
    rw [drop_of_none hl]
    rwa [held, hl] at h
  | some l =>
    rw [drop_of_some hl]
    have hh : s.held = some (l.stream, l.origin) := by rw [held, hl]; rfl
    refine ⟨fun e he id hid => ?_, fun id p a ho hm => ?_, fun _ _ h => nomatch h⟩
    · rw [Recorded.close_network]
      have hcount : (Network.close l.stream w.network).streams.length = w.network.streams.length :=
        (close_rest l.stream w.network).2.1
      rw [hcount]
      rcases List.mem_append.1 he with he | he
      · exact h.known e he id hid
      · cases List.mem_singleton.1 he
        cases hid
        exact h.lt hh
    · have ho : isOpen id (ScriptedNetwork.close l.stream w.network) = true := ho
      rw [isOpen_close, Bool.and_eq_true, bne_iff_ne] at ho
      rcases List.mem_append.1 hm with hm | hm
      · have hs := h.owns id p a ho.1 hm
        rw [hh, Option.map_some, Option.some.injEq] at hs
        exact absurd hs.symm ho.2
      · exact nomatch List.mem_singleton.1 hm

theorem Sound.hold {w : Recorded ScriptedNetwork} {id : StreamId} {o : Origin} (h : Sound none w)
    (hs : Serves w.wire o id) : Sound (some (id, o)) w where
  known := h.known
  owns other p a ho hm := nomatch h.owns other p a ho hm
  serves other o' he := by
    cases he
    exact hs

/-! ## Opening a stream -/

theorem drop_wire {ν : Type} [Network ν] (s : Session) (w : Recorded ν) :
    ∃ es, (s.drop w).2.wire = w.wire ++ es ∧ ∀ e ∈ es, ∃ id, e = .close id := by
  cases hl : s.link with
  | none =>
    rw [drop_of_none hl]
    exact ⟨[], (List.append_nil _).symm, fun _ h => nomatch h⟩
  | some l =>
    rw [drop_of_some hl]
    exact ⟨[.close l.stream], rfl, fun e he => ⟨l.stream, List.mem_singleton.1 he⟩⟩

theorem Sound.connect {w mid : Recorded ScriptedNetwork} {host : String} {port timeout : Value} {id : StreamId}
    (h : Sound none w) (connect : Network.connect host port timeout w = (.ok id, mid)) :
    Sound none mid ∧ id = w.network.streams.length ∧ id < mid.network.streams.length
      ∧ mid.wire = w.wire ++ [.connect host port timeout (.ok id)] ∧ ∀ e ∈ w.wire, e.stream? ≠ some id := by
  obtain ⟨hc, hwire⟩ := Recorded.connect_eq connect
  obtain ⟨hid, hstreams, -⟩ := connect_ok hc
  have hcount : mid.network.streams.length = w.network.streams.length + 1 := by
    rw [hstreams, List.length_append]
    rfl
  have hlt : id < mid.network.streams.length := by
    rw [hid, hcount]
    exact Nat.lt_succ_self _
  refine ⟨?_, hid, hlt, hwire, fun e he hs => ?_⟩
  · refine h.unwritten (by rw [hcount]; exact Nat.le_succ _) (fun other hlt ho => ?_) hwire (fun e he => ?_)
    · rw [isOpen_connect hc, Bool.or_eq_true] at ho
      rcases ho with ho | ho
      · exact ho
      · rw [beq_iff_eq] at ho
        rw [ho, hid] at hlt
        exact absurd hlt (Nat.lt_irrefl _)
    · cases List.mem_singleton.1 he
      refine ⟨fun other ho => ?_, fun _ _ _ he => nomatch he⟩
      cases ho
      exact hlt
  · have := h.known e he id hs
    rw [hid] at this
    exact absurd this (Nat.lt_irrefl _)

theorem Sound.secure {w w' : Recorded ScriptedNetwork} {id : StreamId} {host : String} {timeout : Value} {verify : Bool}
    {a : Except Fault StreamId} (h : Sound none w) (hlt : id < w.network.streams.length)
    (secure : Network.secure id host timeout verify w = (a, w')) : Sound none w' := by
  obtain ⟨hsec, hwire⟩ := Recorded.secure_eq secure
  have halike := (secure_spec hsec).1
  refine h.unwritten (Nat.le_of_eq halike.count.symm) (fun other _ ho => by rw [← halike.isOpen]; exact ho) hwire
    (fun e he => ?_)
  cases List.mem_singleton.1 he
  refine ⟨fun other ho => ?_, fun _ _ _ he => nomatch he⟩
  cases ho
  rw [halike.count]
  exact hlt

theorem Sound.abandon {w : Recorded ScriptedNetwork} {id : StreamId} (h : Sound none w)
    (hlt : id < w.network.streams.length) : Sound none (Network.close id w) := by
  have hcount : (Network.close id w).network.streams.length = w.network.streams.length :=
    (close_rest id w.network).2.1
  refine h.unwritten (Nat.le_of_eq hcount.symm) (fun other _ ho => ?_) (Recorded.close_wire id w) (fun e he => ?_)
  · have ho : isOpen other (ScriptedNetwork.close id w.network) = true := ho
    rw [isOpen_close, Bool.and_eq_true] at ho
    exact ho.1
  · cases List.mem_singleton.1 he
    refine ⟨fun other ho => ?_, fun _ _ _ he => nomatch he⟩
    cases ho
    rw [hcount]
    exact hlt

/-- What is known of the stream that an opening gives. -/
structure Opened (o : Origin) (s : Session) (w : Recorded ScriptedNetwork)
    (a : Except Break StreamId × Session × Recorded ScriptedNetwork) (es : List WireEvent) : Prop where
  wire : a.2.2.wire = w.wire ++ es
  silent : Silent es
  sound : Sound a.2.1.held a.2.2
  fresh : ∀ id, a.1 = .ok id → w.network.streams.length ≤ id ∧ a.2.1.link = some { stream := id, origin := o }
    ∧ ∃ e ∈ es, e.stream? = some id
  unlinked : ∀ b, a.1 = .error b → a.2.1.link = none
  options : a.2.1.options = s.options

theorem Opening.opened {o : Origin} {s : Session} {w : Recorded ScriptedNetwork}
    {a : Except Break StreamId × Session × Recorded ScriptedNetwork} (c : Opening o s w a) (h : Sound s.held w) :
    ∃ es, Opened o s w a es := by
  have hoptions := c.options
  have hdrop := h.drop
  obtain ⟨ds, hdw, hds⟩ := drop_wire s w
  have hsilent : Silent ds := by
    intro e he
    obtain ⟨id, rfl⟩ := hds e he
    exact fun _ => ⟨rfl, rfl⟩
  have hcount : (s.drop w).2.network.streams.length = w.network.streams.length := (drop_rest s w).2.1
  cases c with
  | unconnected connect =>
    obtain ⟨hc, hwire⟩ := Recorded.connect_eq connect
    have halike := alike_connect hc
    have hsound : Sound none _ := hdrop.unwritten (Nat.le_of_eq halike.count.symm)
      (fun other _ ho => by rw [← halike.isOpen]; exact ho) hwire (fun e he => by
        cases List.mem_singleton.1 he
        exact ⟨fun _ h => (nomatch h), fun _ _ _ h => (nomatch h)⟩)
    rw [hdw, List.append_assoc] at hwire
    exact ⟨_, ⟨hwire, hsilent.append (silent_connect _ _ _ _), hsound, fun _ h => (nomatch h), fun _ _ => rfl, hoptions⟩⟩
  | @plain id w' scheme connect =>
    obtain ⟨hs, hid, hlt, hwire, hnew⟩ := hdrop.connect connect
    have hsound : Sound (some (id, o)) w' := hs.hold (by rw [hwire]; exact serves_plain hnew scheme)
    rw [hdw, List.append_assoc] at hwire
    refine ⟨_, ⟨hwire, hsilent.append (silent_connect _ _ _ _), hsound, ?_, fun _ h => (nomatch h), hoptions⟩⟩
    rintro _ ⟨⟩
    exact ⟨Nat.le_of_eq (hcount.symm.trans hid.symm), rfl, _, List.mem_append_right _ List.mem_cons_self, rfl⟩
  | @secured id id' mid w' scheme connect secure =>
    obtain ⟨hs, hid, hlt, hwire, hnew⟩ := hdrop.connect connect
    obtain ⟨hsec, hwire'⟩ := Recorded.secure_eq secure
    obtain ⟨-, -, ⟨_, _, he⟩ | he⟩ := secure_spec hsec
    · cases he
    · cases he
      have hsound : Sound (some (id, o)) w' :=
        (hs.secure hlt secure).hold (by rw [hwire', hwire]; exact serves_secured hnew scheme)
      rw [hwire, hdw, List.append_assoc, List.append_assoc] at hwire'
      refine ⟨_, ⟨hwire', hsilent.append ((silent_connect _ _ _ _).append (silent_secure _ _ _ _ _)), hsound, ?_,
        fun _ h => (nomatch h), hoptions⟩⟩
      rintro _ ⟨⟩
      exact ⟨Nat.le_of_eq (hcount.symm.trans hid.symm), rfl, _,
        List.mem_append_right _ (List.mem_append_left _ List.mem_cons_self), rfl⟩
  | @unsecured id mid w' f b scheme connect secure _ =>
    obtain ⟨hs, hid, hlt, hwire, hnew⟩ := hdrop.connect connect
    obtain ⟨hsec, hwire'⟩ := Recorded.secure_eq secure
    have hcount' : w'.network.streams.length = mid.network.streams.length := (secure_spec hsec).1.count
    have hsound := (hs.secure hlt secure).abandon (by rw [hcount']; exact hlt)
    have hwire'' := Recorded.close_wire id w'
    rw [hwire', hwire, hdw, List.append_assoc, List.append_assoc, List.append_assoc] at hwire''
    exact ⟨_, ⟨hwire'', hsilent.append ((silent_connect _ _ _ _).append ((silent_secure _ _ _ _ _).append
      (silent_close _))), hsound, fun _ h => (nomatch h), fun _ _ => rfl, hoptions⟩⟩
  | @abandoned id mid w' f scheme connect secure _ =>
    obtain ⟨hs, hid, hlt, hwire, hnew⟩ := hdrop.connect connect
    obtain ⟨hsec, hwire'⟩ := Recorded.secure_eq secure
    have hsound := hs.secure hlt secure
    rw [hwire, hdw, List.append_assoc, List.append_assoc] at hwire'
    exact ⟨_, ⟨hwire', hsilent.append ((silent_connect _ _ _ _).append (silent_secure _ _ _ _ _)), hsound,
      fun _ h => (nomatch h), fun _ _ => rfl, hoptions⟩⟩

/-! ## An exchange on a stream -/

/-- A reply that the reads complete, or that the end of the stream completes after them, and that lets the stream go
on. -/
def Concludes (r : Http.Reader) (reads : List Bytes) (ended : Bool) : Prop :=
  (r.hear reads).2.1.keepAlive = true
    ∧ if ended then (r.hear reads).2.2 = .hungry ∧ (r.hear reads).2.1.atEnd = none
      else ∃ surplus, (r.hear reads).2.2 = .complete surplus

/-- Calls that hold a whole exchange on a stream, after which it may be used again: all of the request is written, and
all of the reply is read.  The reply begins with what was left over; `ended` says that the end of the stream ends it. -/
def Answered (u : Url) (s : Session) (id : StreamId) (left : Bytes) (ended : Bool) (es : List WireEvent) : Prop :=
  ∃ out reads, (s.request u).write = .ok out ∧ out.fault = none ∧ out.keepAlive = true
    ∧ WireEvent.writesTo id es = out.pieces.map (·, true)
    ∧ [] ∉ reads ∧ WireEvent.readsFrom id es = (reads ++ if ended then [[]] else []).map .ok
    ∧ Concludes (({ proposed := out.proposes } : Http.Reader).feed left) reads ended

/-- The pieces of the request for a URL, none if it is refused. -/
def pieces (u : Url) (s : Session) : List Bytes :=
  match (s.request u).write with
  | .ok out => out.pieces
  | .error _ => []

theorem pieces_of_ok {u : Url} {s : Session} {out : Http.Written} (h : (s.request u).write = .ok out) :
    s.pieces u = out.pieces := by
  unfold pieces
  rw [h]

theorem pieces_of_error {u : Url} {s : Session} {f : Http.RequestFault} (h : (s.request u).write = .error f) :
    s.pieces u = [] := by
  unfold pieces
  rw [h]

theorem link_stand {s : Session} {l : Link} (c : Condition) (hl : s.link = some l) :
    (s.stand c).link = some { l with condition := c } := by
  unfold stand
  rw [hl]
  rfl

theorem held_stand {s : Session} {l : Link} (c : Condition) (hl : s.link = some l) : (s.stand c).held = s.held := by
  rw [held, link_stand c hl, held, hl]
  rfl

theorem finish_spec {t : Session} {l : Link} {w : Recorded ScriptedNetwork} (keep ended : Bool) (surplus : Bytes)
    (hl : t.link = some l) (h : Sound t.held w) :
    ∃ es, (t.finish keep surplus ended w).2.wire = w.wire ++ es ∧ (es = [] ∨ es = [.close l.stream])
      ∧ Sound (t.finish keep surplus ended w).1.held (t.finish keep surplus ended w).2
      ∧ ∀ l', (t.finish keep surplus ended w).1.link = some l' →
          keep = true ∧ l' = { l with condition := .idle surplus ended } := by
  cases keep with
  | true =>
    refine ⟨[], (List.append_nil _).symm, .inl rfl, ?_, fun l' hl' => ⟨rfl, ?_⟩⟩
    · exact (held_stand _ hl).symm ▸ h
    · have hl' : (t.stand (.idle surplus ended)).link = some l' := hl'
      rw [link_stand _ hl] at hl'
      exact (Option.some.inj hl').symm
  | false =>
    have hlink : (t.drop w).1.link = none := by rw [drop_fst]
    refine ⟨[.close l.stream], ?_, .inr rfl, ?_, fun l' hl' => ?_⟩
    · have hw : (t.drop w).2.wire = w.wire ++ [.close l.stream] := by
        rw [drop_of_some hl]
        rfl
      exact hw
    · have hs : Sound (t.drop w).1.held (t.drop w).2 := by
        rw [held, hlink]
        exact h.drop
      exact hs
    · have hl' : (t.drop w).1.link = some l' := hl'
      rw [hlink] at hl'
      cases hl'

/-- What receiving a reply adds to the record, and what becomes of the stream. -/
structure Received (l : Link) (keep : Bool) (reader : Http.Reader) (s : Session) (w : Recorded ScriptedNetwork)
    (a : Option Break × Session × Recorded ScriptedNetwork) (es : List WireEvent) : Prop where
  wire : a.2.2.wire = w.wire ++ es
  talk : Talk l.stream es
  sound : Sound a.2.1.held a.2.2
  unwritten : WireEvent.writesTo l.stream es = []
  kept : ∀ l', a.1 = none → a.2.1.link = some l' → ∃ surplus ended reads,
    l' = { l with condition := .idle surplus ended } ∧ (ended = true ↔ EndRead l.stream a.2.2.wire)
      ∧ (ended = true → surplus = []) ∧ keep = true ∧ [] ∉ reads
      ∧ WireEvent.readsFrom l.stream es = (reads ++ if ended then [[]] else []).map .ok ∧ Concludes reader reads ended
  broken : a.1 ≠ none → a.2.1.link = some l

theorem Received.finish {l : Link} {keep : Bool} {reader : Http.Reader} {s t : Session}
    {w w' : Recorded ScriptedNetwork} {reads : List Bytes} {es : List WireEvent} (ended : Bool) (rest : Bytes)
    (hl : t.link = some l) (h : Sound t.held w') (wire : w'.wire = w.wire ++ es) (talk : Talk l.stream es)
    (unwritten : WireEvent.writesTo l.stream es = []) (nonempty : [] ∉ reads)
    (read : WireEvent.readsFrom l.stream es = (reads ++ if ended then [[]] else []).map .ok)
    (hend : ended = true ↔ EndRead l.stream w'.wire) (hrest : ended = true → rest = [])
    (standing : if ended then (reader.hear reads).2.2 = .hungry ∧ (reader.hear reads).2.1.atEnd = none
      else ∃ surplus, (reader.hear reads).2.2 = .complete surplus) :
    ∃ es, Received l keep reader s w
      (none, t.finish (keep && (reader.hear reads).2.1.keepAlive) rest ended w') es := by
  obtain ⟨ds, hwire, hds, hsound, hkept⟩ := finish_spec (keep && (reader.hear reads).2.1.keepAlive) ended rest hl h
  obtain ⟨htalk, hsilent⟩ := closing_quiet hds
  refine ⟨es ++ ds, ⟨?_, talk.append htalk, hsound, ?_, fun l' _ hl' => ?_, fun h => absurd rfl h⟩⟩
  · rw [hwire, wire, List.append_assoc]
  · rw [WireEvent.writesTo_append, unwritten, hsilent.writesTo]
    rfl
  · obtain ⟨hkeep, hl'⟩ := hkept l' hl'
    rw [Bool.and_eq_true] at hkeep
    refine ⟨rest, ended, reads, hl', ?_, hrest, hkeep.1, nonempty, ?_, hkeep.2, standing⟩
    · rw [hend, hwire, endRead_append (fun n => hsilent.unread _ n _)]
    · rw [WireEvent.readsFrom_append, read, hsilent.readsFrom, List.append_nil]

/-- A session that has read on its stream and obeyed what it read. -/
structure ReadOn (l : Link) (s : Session) (w : Recorded ScriptedNetwork) (reads : List Bytes) (t : Session)
    (w' : Recorded ScriptedNetwork) : Prop where
  wire : w'.wire = w.wire ++ WireEvent.reads l.stream s.readSize reads
  link : t.link = some l
  size : t.readSize = s.readSize
  sound : Sound t.held w'
  nonempty : [] ∉ reads

theorem ReadOn.of_obey {l : Link} {s t : Session} {w mid : Recorded ScriptedNetwork} {reads : List Bytes}
    {events : List Http.Event} {b : Option Break} (hl : s.link = some l) (h : Sound s.held w)
    (path : Reads l.stream s.readSize w reads mid) (obeyed : s.obey events = (b, t)) :
    ReadOn l s w reads (t.counting reads.flatten.length) mid := by
  have hheld : s.held = some (l.stream, l.origin) := by rw [held, hl]; rfl
  have hlink : t.link = some l := by rw [told_of_obey obeyed]; exact hl
  have hsize : t.readSize = s.readSize := by rw [told_of_obey obeyed]; rfl
  have hh : (t.counting reads.flatten.length).held = s.held := by rw [held, held, hl, ← hlink]; rfl
  refine ⟨path.wire, hlink, hsize, ?_, fun hm => path.ne_nil [] hm rfl⟩
  rw [hh]
  exact h.talk hheld path.network.alike path.wire (talk_reads _ _ _)

/-- A reply that is broken off leaves the stream as it is. -/
theorem ReadOn.received_of_break {l : Link} {keep : Bool} {reader : Http.Reader} {s t : Session}
    {w mid : Recorded ScriptedNetwork} {reads : List Bytes} (h : ReadOn l s w reads t mid) (b : Break) :
    Received l keep reader s w (some b, t, mid) (WireEvent.reads l.stream s.readSize reads) :=
  ⟨h.wire, talk_reads _ _ _, h.sound, WireEvent.writesTo_reads _ _ _ _, fun _ h => (nomatch h), fun _ => h.link⟩

theorem ReadOn.last {l : Link} {s t : Session} {w mid w' : Recorded ScriptedNetwork} {reads : List Bytes}
    {x : Except Fault Bytes} (h : ReadOn l s w reads t mid) (read : Network.read l.stream t.readSize mid = (x, w')) :
    w'.wire = w.wire ++ (WireEvent.reads l.stream s.readSize reads ++ [.read l.stream s.readSize x])
      ∧ Talk l.stream (WireEvent.reads l.stream s.readSize reads ++ [.read l.stream s.readSize x])
      ∧ Sound t.held w'
      ∧ WireEvent.writesTo l.stream
        (WireEvent.reads l.stream s.readSize reads ++ [.read l.stream s.readSize x]) = [] := by
  obtain ⟨hread, hwire⟩ := Recorded.read_eq read
  have hheld : t.held = some (l.stream, l.origin) := by rw [held, h.link]; rfl
  rw [h.size] at hwire
  refine ⟨by rw [hwire, h.wire, List.append_assoc], (talk_reads _ _ _).append (talk_read _ _ _), ?_, ?_⟩
  · exact h.sound.talk hheld (alike_read hread) hwire (talk_read _ _ _)
  · rw [WireEvent.writesTo_append, WireEvent.writesTo_reads]
    rfl

theorem ReadOn.received_of_complete {l : Link} {keep : Bool} {reader : Http.Reader} {s t : Session}
    {w mid : Recorded ScriptedNetwork} {reads : List Bytes} {surplus : Bytes} (h : ReadOn l s w reads t mid)
    (hend : ¬EndRead l.stream w.wire) (standing : (reader.hear reads).2.2 = .complete surplus) :
    ∃ es, Received l keep reader s w
      (none, t.finish (keep && (reader.hear reads).2.1.keepAlive) surplus false mid) es := by
  refine Received.finish false surplus h.link h.sound h.wire (talk_reads _ _ _) (WireEvent.writesTo_reads _ _ _ _)
    h.nonempty ?_ ?_ (fun h => nomatch h) ⟨surplus, standing⟩
  · rw [WireEvent.readsFrom_reads, if_neg Bool.false_ne_true, List.append_nil]
  · rw [h.wire, endRead_append (reads_not_end h.nonempty)]
    exact ⟨fun h => (nomatch h), fun he => absurd he hend⟩

/-- The end of the stream, which may be the end of the reply. -/
theorem ReadOn.received_of_end {l : Link} {keep : Bool} {reader : Http.Reader} {s t : Session}
    {w mid w' : Recorded ScriptedNetwork} {reads : List Bytes} (h : ReadOn l s w reads t mid)
    (read : Network.read l.stream t.readSize mid = (.ok [], w')) (standing : (reader.hear reads).2.2 = .hungry) :
    ∃ es, Received l keep reader s w (finishAtEnd keep (reader.hear reads).2.1 t w') es := by
  obtain ⟨hwire, htalk, hs, hw⟩ := h.last read
  unfold finishAtEnd
  split
  · exact ⟨_, hwire, htalk, hs, hw, fun _ h => (nomatch h), fun _ => h.link⟩
  · rename_i hnone
    refine Received.finish true [] h.link hs hwire htalk hw h.nonempty ?_ ?_ (fun _ => rfl) ⟨standing, hnone⟩
    · rw [WireEvent.readsFrom_append, WireEvent.readsFrom_reads, WireEvent.readsFrom_read, List.map_append]
      rfl
    · refine ⟨fun _ => ⟨s.readSize, ?_⟩, fun _ => rfl⟩
      rw [hwire]
      exact List.mem_append_right _ (List.mem_append_right _ List.mem_cons_self)

theorem Ending.received {l : Link} {keep ended : Bool} {reader : Http.Reader} {s t : Session}
    {w mid : Recorded ScriptedNetwork} {reads : List Bytes} {a : Option Break × Session × Recorded ScriptedNetwork}
    (c : Ending l.stream keep ended (reader.hear reads).2.1 (reader.hear reads).2.2 t mid a)
    (h : ReadOn l s w reads t mid) (unended : reads ≠ [] → ended = false)
    (hend : ended = true ↔ EndRead l.stream w.wire)
    (hnew : ended = true → (reader.hear []).2.2 = .hungry ∧ (reader.hear []).2.1.atEnd ≠ none) :
    ∃ es, Received l keep reader s w a es := by
  -- after the end of the stream there is nothing to hear, and what stands then is no reply
  have hnil (he : ended = true) : reads = [] :=
    Decidable.byContradiction fun hne => nomatch he.symm.trans (unended hne)
  generalize hst : (reader.hear reads).2.2 = st at c
  cases c with
  | @complete surplus _ _ =>
    cases ended with
    | true =>
      rw [hnil rfl, (hnew rfl).1] at hst
      cases hst
    | false => exact h.received_of_complete (fun he => nomatch hend.2 he) hst
  | switched => exact ⟨_, h.received_of_break _⟩
  | broken => exact ⟨_, h.received_of_break _⟩
  | silent hended =>
    unfold finishAtEnd
    split
    · exact ⟨_, h.received_of_break _⟩
    · rename_i hnone
      rw [hnil hended] at hnone
      exact absurd hnone (hnew hended).2
  | closed _ read => exact h.received_of_end read hst
  | failed _ read =>
    obtain ⟨hwire, htalk, hs, hw⟩ := h.last read
    exact ⟨_, hwire, htalk, hs, hw, fun _ h => (nomatch h), fun _ => h.link⟩

theorem Receipt.received {l : Link} {keep ended : Bool} {reader : Http.Reader} {s : Session}
    {w : Recorded ScriptedNetwork} {a : Option Break × Session × Recorded ScriptedNetwork}
    (c : Receipt l.stream keep ended reader s w a) (hl : s.link = some l) (h : Sound s.held w)
    (hend : ended = true ↔ EndRead l.stream w.wire)
    (hnew : ended = true → (reader.hear []).2.2 = .hungry ∧ (reader.hear []).2.1.atEnd ≠ none) :
    ∃ es, Received l keep reader s w a es := by
  cases c with
  | interrupted path hungry unended obeyed =>
    exact ⟨_, (ReadOn.of_obey hl h path obeyed).received_of_break _⟩
  | heard path hungry unended obeyed ending =>
    exact ending.received (ReadOn.of_obey hl h path obeyed) unended hend hnew

/-- What an exchange on a stream adds to the record, and what becomes of the stream. -/
structure Exchanged (u : Url) (l : Link) (left : Bytes) (s : Session) (w : Recorded ScriptedNetwork)
    (a : Option Break × Session × Recorded ScriptedNetwork) (es : List WireEvent) : Prop where
  wire : a.2.2.wire = w.wire ++ es
  talk : Talk l.stream es
  sound : Sound a.2.1.held a.2.2
  once : (WireEvent.writesTo l.stream es).map Prod.fst <+: s.pieces u
  begins : ∀ p ps, s.pieces u = p :: ps → ∃ b rest, es = .write l.stream p b :: rest
  kept : ∀ l', a.1 = none → a.2.1.link = some l' → ∃ rest ended, l' = { l with condition := .idle rest ended }
    ∧ (ended = true ↔ EndRead l.stream a.2.2.wire) ∧ (ended = true → rest = [])
    ∧ Answered u s l.stream left ended es
  escaped : ∀ f, a.1 = some (.escaped f) → a.2.1.link = some { l with condition := .busy } ∧ s.pieces u ≠ []

theorem invalidRequest_ne (message : Text.Points) (f : Fault) : some (invalidRequest message) ≠ some (Break.escaped f) :=
  fun h => nomatch h

theorem hungry_new (proposed : Bool) :
    ((({ proposed := proposed } : Http.Reader).feed []).hear []).2.2 = .hungry
      ∧ ((({ proposed := proposed } : Http.Reader).feed []).hear []).2.1.atEnd ≠ none :=
  ⟨rfl, fun h => nomatch h⟩

theorem map_fst_true (ps : List Bytes) : (ps.map (·, true)).map Prod.fst = ps := by
  rw [List.map_map]
  exact List.map_id' ps

theorem Exchanged.of_unsent {u : Url} {l : Link} {left : Bytes} {s : Session} {w mid w' : Recorded ScriptedNetwork}
    {out : Http.Written} {done rest : List Bytes} {p : Bytes} {f : Fault} (hl : s.link = some l)
    (h : Sound s.held w) (request : (s.request u).write = .ok out) (pieces : out.pieces = done ++ p :: rest)
    (path : Writes l.stream w done mid) (last : Network.write l.stream p mid = (.error f, w')) :
    Exchanged u l left s w (some (writeBreak s.timeout f), s.stand .busy, w')
      (WireEvent.writes l.stream done ++ [.write l.stream p (.error f)]) := by
  obtain ⟨hwrite, hwire⟩ := Recorded.write_eq last
  have hheld : s.held = some (l.stream, l.origin) := by rw [held, hl]; rfl
  have hmid : Sound s.held mid := h.talk hheld path.network.alike path.wire (talk_writes _ _)
  have hpieces : s.pieces u = done ++ p :: rest := (pieces_of_ok request).trans pieces
  refine ⟨by rw [hwire, path.wire, List.append_assoc], (talk_writes _ _).append (talk_write _ _ _), ?_, ?_, ?_,
    fun _ h => (nomatch h), fun f _ => ⟨link_stand _ hl, ?_⟩⟩
  · rw [held_stand _ hl]
    exact hmid.talk hheld (alike_write hwrite) hwire (talk_write _ _ _)
  · rw [WireEvent.writesTo_append, WireEvent.writesTo_writes, WireEvent.writesTo_write, List.map_append, map_fst_true,
      hpieces]
    exact ⟨rest, List.append_assoc _ _ _⟩
  · intro q qs hq
    rw [hpieces] at hq
    cases done with
    | nil =>
      cases hq
      exact ⟨.error f, [], rfl⟩
    | cons d ds =>
      cases hq
      exact ⟨.ok (), _, rfl⟩
  · rw [hpieces]
    exact List.append_ne_nil_of_right_ne_nil _ (List.cons_ne_nil _ _)

theorem Exchanged.of_withdrawn {u : Url} {l : Link} {left : Bytes} {s : Session} {w mid : Recorded ScriptedNetwork}
    {out : Http.Written} (message : Text.Points) (hl : s.link = some l) (h : Sound s.held w)
    (request : (s.request u).write = .ok out) (path : Writes l.stream w out.pieces mid) :
    Exchanged u l left s w (some (invalidRequest message), s.stand .busy, mid)
      (WireEvent.writes l.stream out.pieces) := by
  have hheld : s.held = some (l.stream, l.origin) := by rw [held, hl]; rfl
  have hpieces := pieces_of_ok request
  refine ⟨path.wire, talk_writes _ _, ?_, ?_, fun q qs hq => ?_, fun _ h => (nomatch h),
    fun f h => absurd h (invalidRequest_ne _ f)⟩
  · rw [held_stand _ hl]
    exact h.talk hheld path.network.alike path.wire (talk_writes _ _)
  · exact ⟨[], by rw [WireEvent.writesTo_writes, map_fst_true, hpieces, List.append_nil]⟩
  · rw [← hpieces, hq]
    exact ⟨.ok (), _, rfl⟩

/-- A request that was written and its reply. -/
theorem Received.exchanged {u : Url} {l : Link} {left : Bytes} {s : Session} {w mid : Recorded ScriptedNetwork}
    {a : Option Break × Session × Recorded ScriptedNetwork} {out : Http.Written} {es : List WireEvent}
    (hr : Received { l with condition := .busy } out.keepAlive
      (({ proposed := out.proposes } : Http.Reader).feed left) (s.stand .busy) mid a es)
    (request : (s.request u).write = .ok out) (path : Writes l.stream w out.pieces mid) (fault : out.fault = none) :
    Exchanged u l left s w a (WireEvent.writes l.stream out.pieces ++ es) := by
  have hpieces := pieces_of_ok request
  refine ⟨?_, (talk_writes _ _).append hr.talk, hr.sound, ?_, fun q qs hq => ?_, fun l' hn hl' => ?_, fun f hf => ?_⟩
  · rw [hr.wire, path.wire, List.append_assoc]
  · refine ⟨[], ?_⟩
    rw [WireEvent.writesTo_append, WireEvent.writesTo_writes, hr.unwritten, List.append_nil, List.append_nil,
      map_fst_true, hpieces]
  · rw [← hpieces, hq]
    exact ⟨.ok (), _, rfl⟩
  · obtain ⟨rest, e, reads, hl'', he, hrest, hkeep, hne, hread, hconc⟩ := hr.kept l' hn hl'
    refine ⟨rest, e, hl'', he, hrest, out, reads, request, fault, hkeep, ?_, hne, ?_, hconc⟩
    · rw [WireEvent.writesTo_append, WireEvent.writesTo_writes, hr.unwritten, List.append_nil]
    · rw [WireEvent.readsFrom_append, WireEvent.readsFrom_writes, hread, List.nil_append]
  · refine ⟨hr.broken (by rw [hf]; exact fun h => nomatch h), ?_⟩
    obtain ⟨target, fields, body, hbody⟩ := Http.Request.head_of_write request
    rw [hpieces, hbody]
    exact List.cons_ne_nil _ _

theorem Course.exchanged {u : Url} {l : Link} {left : Bytes} {ended : Bool} {s : Session}
    {w : Recorded ScriptedNetwork} {a : Option Break × Session × Recorded ScriptedNetwork}
    (c : Course u l.stream left ended s w a) (hl : s.link = some l) (h : Sound s.held w)
    (hend : ended = true ↔ EndRead l.stream w.wire) (hleft : ended = true → left = []) :
    ∃ es, Exchanged u l left s w a es := by
  cases c with
  | @refused f request =>
    refine ⟨[], (List.append_nil _).symm, talk_nil _, h, List.nil_prefix, fun p ps hp => ?_, fun _ h => (nomatch h),
      fun f h => absurd h (invalidRequest_ne _ f)⟩
    rw [pieces_of_error request] at hp
    cases hp
  | unsent request pieces path last => exact ⟨_, .of_unsent hl h request pieces path last⟩
  | withdrawn request path fault => exact ⟨_, .of_withdrawn _ hl h request path⟩
  | @answered out mid a request path fault receipt =>
    have hheld : s.held = some (l.stream, l.origin) := by rw [held, hl]; rfl
    have hmid : Sound (s.stand .busy).held mid := by
      rw [held_stand _ hl]
      exact h.talk hheld path.network.alike path.wire (talk_writes _ _)
    have hend' : ended = true ↔ EndRead l.stream mid.wire := by
      rw [hend, path.wire, endRead_append]
      intro n hm
      obtain ⟨_, -, he⟩ := WireEvent.mem_writes hm
      cases he
    obtain ⟨es, hr⟩ := receipt.received (l := { l with condition := .busy }) (link_stand _ hl) hmid hend' (fun he => by
      rw [hleft he]
      exact hungry_new _)
    exact ⟨_, hr.exchanged request path fault⟩

theorem Exchanged.once_each {u : Url} {l : Link} {left : Bytes} {s : Session} {w : Recorded ScriptedNetwork}
    {a : Option Break × Session × Recorded ScriptedNetwork} {es : List WireEvent} (hx : Exchanged u l left s w a es)
    (id : StreamId) : (WireEvent.writesTo id es).map Prod.fst <+: s.pieces u := by
  by_cases hid : id = l.stream
  · rw [hid]
    exact hx.once
  · rw [WireEvent.writesTo_of_others (hx.talk.others hid)]
    exact List.nil_prefix

/-- A fault that escapes from an exchange leaves its stream busy, and something was written to it. -/
theorem Exchanged.busy {u : Url} {l l' : Link} {left : Bytes} {s : Session} {w : Recorded ScriptedNetwork}
    {a : Option Break × Session × Recorded ScriptedNetwork} {es : List WireEvent} {f : Fault}
    (hx : Exchanged u l left s w a es) (hf : a.1 = some (.escaped f)) (hl' : a.2.1.link = some l') :
    l'.condition = .busy ∧ ∃ p b, .write l'.stream p b ∈ es := by
  obtain ⟨hbusy, hne⟩ := hx.escaped f hf
  rw [hbusy, Option.some.injEq] at hl'
  subst hl'
  refine ⟨rfl, ?_⟩
  cases hp : s.pieces u with
  | nil => exact absurd hp hne
  | cons p ps =>
    obtain ⟨b, rest, hes⟩ := hx.begins p ps hp
    rw [hes]
    exact ⟨p, b, List.mem_cons_self⟩

/-! ## A transfer -/

theorem request_of_options {s t : Session} (h : s.options = t.options) (u : Url) : s.request u = t.request u := by
  have hr := congrArg (request u) h
  exact hr

theorem pieces_of_options {s t : Session} (h : s.options = t.options) (u : Url) : s.pieces u = t.pieces u := by
  unfold pieces
  rw [request_of_options h]

theorem Answered.of_options {u : Url} {s t : Session} {id : StreamId} {left : Bytes} {ended : Bool}
    {es : List WireEvent} (h : Answered u s id left ended es) (hs : s.options = t.options) :
    Answered u t id left ended es := by
  unfold Answered
  rw [← request_of_options hs u]
  exact h

theorem Answered.append_left {u : Url} {s : Session} {id : StreamId} {left : Bytes} {ended : Bool}
    {es fs : List WireEvent} (h : Answered u s id left ended fs) (writes : WireEvent.writesTo id es = [])
    (reads : WireEvent.readsFrom id es = []) : Answered u s id left ended (es ++ fs) := by
  unfold Answered
  rw [WireEvent.writesTo_append, WireEvent.readsFrom_append, writes, reads, List.nil_append, List.nil_append]
  exact h

/-- What a transfer on a new stream adds to the record, and what becomes of that stream. -/
structure Renewed (u : Url) (s : Session) (w : Recorded ScriptedNetwork)
    (a : Option Break × Session × Recorded ScriptedNetwork) (id : StreamId) (es : List WireEvent) : Prop where
  wire : a.2.2.wire = w.wire ++ es
  sound : Sound a.2.1.held a.2.2
  fresh : ∀ e ∈ w.wire, e.stream? ≠ some id
  owned : Owned w.wire u.origin (· = id) es
  elsewhere : ∀ other, other ≠ id → WireEvent.writesTo other es = []
  once : (WireEvent.writesTo id es).map Prod.fst <+: s.pieces u
  kept : ∀ l', a.1 = none → a.2.1.link = some l' → l'.stream = id ∧ l'.origin = u.origin ∧ ∃ rest ended,
    l'.condition = .idle rest ended ∧ (ended = true ↔ EndRead id a.2.2.wire) ∧ (ended = true → rest = [])
    ∧ Answered u s id [] ended es
  escaped : ∀ f l', a.1 = some (.escaped f) → a.2.1.link = some l' →
    l'.condition = .busy ∧ ∃ p b, .write l'.stream p b ∈ es

theorem Anew.renewed {u : Url} {s : Session} {w : Recorded ScriptedNetwork}
    {a : Option Break × Session × Recorded ScriptedNetwork} (c : Anew u s w a) (h : Sound s.held w) :
    ∃ id es, Renewed u s w a id es := by
  have hnew {id : StreamId} (hid : w.network.streams.length ≤ id) : ∀ e ∈ w.wire, e.stream? ≠ some id :=
    fun e he hs => Nat.not_lt.2 hid (h.known e he id hs)
  cases c with
  | @unopened b t w' opening =>
    obtain ⟨es, ho⟩ := opening.opened h
    have hnone : t.link = none := ho.unlinked b rfl
    refine ⟨w.network.streams.length, es, ho.wire, ho.sound, hnew (Nat.le_refl _), Owned.of_unwritten ho.silent.write,
      fun _ _ => ho.silent.writesTo _, ?_, fun _ h => (nomatch h), fun f l' _ hl' => ?_⟩
    · rw [ho.silent.writesTo]
      exact List.nil_prefix
    · rw [hnone] at hl'
      cases hl'
  | @opened id t w' a opening course =>
    obtain ⟨es, ho⟩ := opening.opened h
    obtain ⟨hid, hlink, -⟩ := ho.fresh id rfl
    have hs : Sound t.held w' := ho.sound
    have hwire : w'.wire = w.wire ++ es := ho.wire
    have hend : false = true ↔ EndRead id w'.wire := by
      refine ⟨fun h => (nomatch h), fun ⟨n, hn⟩ => ?_⟩
      rw [hwire] at hn
      rcases List.mem_append.1 hn with hn | hn
      · exact absurd rfl (hnew hid _ hn)
      · exact absurd hn (ho.silent.unread id n _)
    obtain ⟨fs, hx⟩ := course.exchanged (l := { stream := id, origin := u.origin }) hlink hs hend (fun h => nomatch h)
    have hpieces : s.pieces u = t.pieces u := pieces_of_options ho.options.symm u
    have hserves : Serves w'.wire u.origin id := hs.serves id u.origin (by
      have hlink : t.link = _ := hlink
      rw [held, hlink]
      rfl)
    refine ⟨id, es ++ fs, ?_, hx.sound, hnew hid, ?_, fun other hother => ?_, ?_, fun l' hn hl' => ?_,
      fun f l' hf hl' => ?_⟩
    · rw [hx.wire, hwire, List.append_assoc]
    · refine (Owned.of_unwritten ho.silent.write).append ?_
      rw [← hwire]
      exact Owned.talk hserves hx.talk rfl
    · rw [WireEvent.writesTo_append, ho.silent.writesTo, WireEvent.writesTo_of_others (hx.talk.others hother)]
      rfl
    · rw [WireEvent.writesTo_append, ho.silent.writesTo, hpieces]
      exact hx.once
    · obtain ⟨rest, e, rfl, he, hrest, ha⟩ := hx.kept l' hn hl'
      refine ⟨rfl, rfl, rest, e, rfl, he, hrest, ?_⟩
      exact (ha.of_options ho.options).append_left (ho.silent.writesTo _) (ho.silent.readsFrom _)
    · obtain ⟨hbusy, p, b, hm⟩ := hx.busy hf hl'
      exact ⟨hbusy, p, b, List.mem_append_right _ hm⟩

theorem Renewed.once_each {u : Url} {s : Session} {w : Recorded ScriptedNetwork}
    {a : Option Break × Session × Recorded ScriptedNetwork} {id : StreamId} {es : List WireEvent}
    (hr : Renewed u s w a id es) (other : StreamId) :
    (WireEvent.writesTo other es).map Prod.fst <+: s.pieces u := by
  by_cases ho : other = id
  · rw [ho]
    exact hr.once
  · rw [hr.elsewhere other ho]
    exact List.nil_prefix

/-- What is left over for the next reply on a stream. -/
def leftOn (id : StreamId) (s : Session) : Bytes :=
  match s.link with
  | some l =>
    match l.condition with
    | .idle left _ => if l.stream = id then left else []
    | .busy => []
  | none => []

theorem leftOn_of_idle {s : Session} {l : Link} {left : Bytes} {ended : Bool} (hl : s.link = some l)
    (hc : l.condition = .idle left ended) : s.leftOn l.stream = left := by
  unfold leftOn
  rw [hl]
  dsimp only
  rw [hc]
  exact if_pos rfl

theorem leftOn_of_ne {s : Session} {id : StreamId} (h : ∀ l, s.link = some l → l.stream ≠ id) : s.leftOn id = [] := by
  unfold leftOn
  cases hl : s.link with
  | none => rfl
  | some l =>
    dsimp only
    cases l.condition with
    | idle left ended => exact if_neg (h l hl)
    | busy => rfl

theorem reusable?_iff {o : Origin} {s : Session} {w : Recorded ScriptedNetwork} {l : Link} {left : Bytes}
    {ended : Bool} : s.reusable? o w = some (l, left, ended) ↔
      s.link = some l ∧ l.condition = .idle left ended ∧ l.origin = o ∧ isOpen l.stream w.network = true :=
  reusable?_eq_some

/-- What is known of a stream on which an exchange is complete: whether the server has ended its side, and that nothing
is left over then. -/
def Ends (s : Session) (wire : List WireEvent) : Prop :=
  ∀ l left ended, s.link = some l → l.condition = .idle left ended →
    (ended = true ↔ EndRead l.stream wire) ∧ (ended = true → left = [])

/-- What a transfer adds to the record, and what becomes of the stream. -/
structure Attempted (u : Url) (s : Session) (w : Recorded ScriptedNetwork)
    (a : Option Break × Session × Recorded ScriptedNetwork) (es : List WireEvent) : Prop where
  wire : a.2.2.wire = w.wire ++ es
  sound : Sound a.2.1.held a.2.2
  owned : Owned w.wire u.origin
    (fun id => (∃ l left ended, s.reusable? u.origin w = some (l, left, ended) ∧ l.stream = id)
      ∨ ∀ e ∈ w.wire, e.stream? ≠ some id) es
  once : ∀ id, (WireEvent.writesTo id es).map Prod.fst <+: s.pieces u
  begins : ∀ l left ended, s.reusable? u.origin w = some (l, left, ended) →
    ∀ p ps, s.pieces u = p :: ps → ∃ b rest, es = .write l.stream p b :: rest
  kept : ∀ l', a.1 = none → a.2.1.link = some l' → l'.origin = u.origin ∧ ∃ rest ended,
    l'.condition = .idle rest ended ∧ (ended = true ↔ EndRead l'.stream a.2.2.wire) ∧ (ended = true → rest = [])
    ∧ Answered u s l'.stream (s.leftOn l'.stream) ended es
  escaped : ∀ f l', a.1 = some (.escaped f) → a.2.1.link = some l' →
    l'.condition = .busy ∧ ∃ p b, .write l'.stream p b ∈ es

theorem Sound.fresh_ne {s : Session} {w : Recorded ScriptedNetwork} {id : StreamId} (h : Sound s.held w)
    (fresh : ∀ e ∈ w.wire, e.stream? ≠ some id) {l : Link} (hl : s.link = some l) : l.stream ≠ id := by
  intro he
  have hh : s.held = some (l.stream, l.origin) := by rw [held, hl]; rfl
  obtain ⟨timeout, hm⟩ := (h.serves _ _ hh).connected
  exact fresh _ hm (congrArg some he)

theorem Sound.serves_usable {s : Session} {w : Recorded ScriptedNetwork} {o : Origin} {l : Link} {left : Bytes}
    {ended : Bool} (h : Sound s.held w) (usable : s.reusable? o w = some (l, left, ended)) :
    Serves w.wire o l.stream := by
  obtain ⟨hl, -, ho, -⟩ := reusable?_iff.1 usable
  exact ho ▸ h.serves l.stream l.origin (by rw [held, hl]; rfl)

theorem Renewed.attempted {u : Url} {s : Session} {w : Recorded ScriptedNetwork}
    {a : Option Break × Session × Recorded ScriptedNetwork} {id : StreamId} {es : List WireEvent}
    (hr : Renewed u s w a id es) (h : Sound s.held w) (unusable : s.reusable? u.origin w = none) :
    Attempted u s w a es := by
  refine ⟨hr.wire, hr.sound, fun fs id' p b rest he => ?_, hr.once_each, fun l left ended hu => ?_,
    fun l' hn hl' => ?_, hr.escaped⟩
  · obtain ⟨hs, rfl⟩ := hr.owned fs id' p b rest he
    exact ⟨hs, .inr hr.fresh⟩
  · rw [unusable] at hu
    cases hu
  · obtain ⟨hid, horigin, rest, e, hc, he, hrest, ha⟩ := hr.kept l' hn hl'
    rw [hid, leftOn_of_ne fun l hl => h.fresh_ne hr.fresh hl]
    exact ⟨horigin, rest, e, hc, he, hrest, ha⟩

theorem Exchanged.attempted {u : Url} {l : Link} {left : Bytes} {ended : Bool} {s : Session}
    {w : Recorded ScriptedNetwork} {a : Option Break × Session × Recorded ScriptedNetwork} {es : List WireEvent}
    (hx : Exchanged u l left s w a es) (h : Sound s.held w)
    (usable : s.reusable? u.origin w = some (l, left, ended)) : Attempted u s w a es := by
  obtain ⟨hl, hc, ho, -⟩ := reusable?_iff.1 usable
  have hserves : Serves w.wire u.origin l.stream := h.serves_usable usable
  refine ⟨hx.wire, hx.sound, Owned.talk hserves hx.talk (.inl ⟨l, left, ended, usable, rfl⟩), hx.once_each,
    fun k left' ended' hk p ps hp => ?_, fun l' hn hl' => ?_, fun f l' hf hl' => hx.busy hf hl'⟩
  · rw [usable] at hk
    cases hk
    exact hx.begins p ps hp
  · obtain ⟨rest, e, rfl, he, hrest, ha⟩ := hx.kept l' hn hl'
    refine ⟨ho, rest, e, rfl, he, hrest, ?_⟩
    rw [leftOn_of_idle hl hc]
    exact ha

/-- A request that a stream has gone stale under is made again on a new stream, and what is kept is that one. -/
theorem Renewed.repeated {u : Url} {l : Link} {left : Bytes} {ended : Bool} {m : Option Break} {s t : Session}
    {w mid : Recorded ScriptedNetwork} {a : Option Break × Session × Recorded ScriptedNetwork} {id : StreamId}
    {es fs : List WireEvent} (hr : Renewed u t mid a id fs) (hx : Exchanged u l left s w (m, t, mid) es)
    (h : Sound s.held w) (usable : s.reusable? u.origin w = some (l, left, ended)) (options : t.options = s.options) :
    Attempted u s w a (es ++ fs) := by
  obtain ⟨hl, -, -, -⟩ := reusable?_iff.1 usable
  have hserves : Serves w.wire u.origin l.stream := h.serves_usable usable
  have hwire : mid.wire = w.wire ++ es := hx.wire
  have hpieces : t.pieces u = s.pieces u := pieces_of_options options u
  have hfresh : ∀ e ∈ w.wire, e.stream? ≠ some id := fun e he => hr.fresh e (by
    rw [hwire]
    exact List.mem_append_left _ he)
  have hne : l.stream ≠ id := h.fresh_ne hfresh hl
  have hothers {other : StreamId} (hother : other ≠ l.stream) := WireEvent.writesTo_of_others (hx.talk.others hother)
  refine ⟨?_, hr.sound, ?_, fun other => ?_, fun k left' ended' hk p ps hp => ?_, fun l' hn hl' => ?_,
    fun f l' hf hl' => ?_⟩
  · rw [hr.wire, hwire, List.append_assoc]
  · refine (Owned.talk hserves hx.talk (.inl ⟨l, left, ended, usable, rfl⟩)).append ?_
    intro gs id' p b rest he
    rw [← hwire]
    obtain ⟨hs, rfl⟩ := hr.owned gs id' p b rest he
    exact ⟨hs, .inr hfresh⟩
  · -- each of the two streams takes part in one of the two exchanges only
    rw [WireEvent.writesTo_append]
    by_cases hother : other = l.stream
    · rw [hother, hr.elsewhere _ hne, List.append_nil]
      exact hx.once
    · rw [hothers hother, List.nil_append, ← hpieces]
      exact hr.once_each other
  · rw [usable] at hk
    cases hk
    obtain ⟨b, rest, hes⟩ := hx.begins p ps hp
    exact ⟨b, rest ++ fs, by rw [hes]; rfl⟩
  · obtain ⟨hid, horigin, rest, e, hcond, he, hrest, ha⟩ := hr.kept l' hn hl'
    rw [hid, leftOn_of_ne fun l hl => h.fresh_ne hfresh hl]
    refine ⟨horigin, rest, e, hcond, he, hrest, ?_⟩
    exact (ha.of_options options).append_left (hothers hne.symm)
      (WireEvent.readsFrom_of_others (hx.talk.others hne.symm))
  · obtain ⟨hbusy, p, b, hm⟩ := hr.escaped f l' hf hl'
    exact ⟨hbusy, p, b, List.mem_append_right _ hm⟩

theorem Attempt.attempted {u : Url} {s : Session} {w : Recorded ScriptedNetwork}
    {a : Option Break × Session × Recorded ScriptedNetwork} (c : Attempt u s w a) (h : Sound s.held w)
    (hends : s.Ends w.wire) : ∃ es, Attempted u s w a es := by
  cases c with
  | fresh unusable anew =>
    obtain ⟨id, es, hr⟩ := anew.renewed h
    exact ⟨es, hr.attempted h unusable⟩
  | @reused l left ended a usable course final =>
    obtain ⟨hl, hc, -, -⟩ := reusable?_iff.1 usable
    obtain ⟨hend, hleft⟩ := hends l left ended hl hc
    obtain ⟨es, hx⟩ := course.exchanged hl h hend hleft
    exact ⟨es, hx.attempted h usable⟩
  | @repeated l left ended code m t mid a usable course stale unread anew =>
    obtain ⟨hl, hc, -, -⟩ := reusable?_iff.1 usable
    obtain ⟨hend, hleft⟩ := hends l left ended hl hc
    obtain ⟨es, hx⟩ := course.exchanged hl h hend hleft
    obtain ⟨id, fs, hr⟩ := anew.renewed hx.sound
    exact ⟨es ++ fs, hr.repeated hx h usable course.options⟩

end Session

/-! ## A call for a transfer -/

namespace Scene

open Session (Sound Ends Answered Attempted leftOn held)

def wired (c : Scene) : List WireEvent := c.performed.network.wire.drop c.network.wire.length

/-- A transfer that makes a whole exchange on a stream, for an origin, after which the stream may be used again. -/
def Concluded (c : Scene) (o : Origin) (id : StreamId) (ended : Bool) : Prop :=
  c.answer = .ok .ok ∧ ∃ text u, c.session.url = some (text, u) ∧ u.origin = o
    ∧ Answered u c.session id (c.session.leftOn id) ended c.wired

/-- What a call for a transfer adds to the record, and what becomes of the stream. -/
structure Transferred (c : Scene) : Prop where
  wire : c.performed.network.wire = c.network.wire ++ c.wired
  sound : Sound c.performed.session.held c.performed.network
  ends : c.performed.session.Ends c.performed.network.wire
  owned : ∀ fs id p a rest, c.wired = fs ++ .write id p a :: rest → ∃ text u, c.session.url = some (text, u)
    ∧ Serves (c.network.wire ++ fs) u.origin id
    ∧ ((∃ l left ended, c.session.reusable? u.origin c.network = some (l, left, ended) ∧ l.stream = id)
      ∨ ∀ e ∈ c.network.wire, e.stream? ≠ some id)
  once : ∀ text u id, c.session.url = some (text, u) →
    (WireEvent.writesTo id c.wired).map Prod.fst <+: c.session.pieces u
  begins : ∀ text u l left ended, c.session.closed = false → c.session.url = some (text, u) →
    c.session.reusable? u.origin c.network = some (l, left, ended) →
    ∀ p ps, c.session.pieces u = p :: ps → ∃ b rest, c.wired = .write l.stream p b :: rest
  kept : ∀ l, c.performed.session.link = some l → (c.wired = [] ∧ c.session.link = some l)
    ∨ (l.condition = .busy ∧ c.answer ≠ .ok .ok ∧ ∃ p b, .write l.stream p b ∈ c.wired)
    ∨ ∃ left ended, l.condition = .idle left ended ∧ c.Concluded l.origin l.stream ended

theorem wired_eq {c : Scene} {es : List WireEvent} (h : c.performed.network.wire = c.network.wire ++ es) :
    c.wired = es := by
  rw [wired, h, List.drop_left]

theorem Transferred.of_idle {c : Scene} (h : Sound c.session.held c.network) (hends : c.session.Ends c.network.wire)
    (link : c.performed.session.link = c.session.link) (network : c.performed.network = c.network)
    (refused : c.session.closed = true ∨ c.session.url = none) : c.Transferred := by
  have hwired : c.wired = [] := wired_eq (by rw [network, List.append_nil])
  have hheld : c.performed.session.held = c.session.held := by rw [held, held, link]
  refine ⟨by rw [network, hwired, List.append_nil], ?_, ?_, fun fs id p a rest he => ?_, fun text u id _ => ?_,
    fun text u l left ended hc hu => ?_, fun l hl => .inl ⟨hwired, ?_⟩⟩
  · rw [hheld, network]
    exact h
  · intro l left ended hl hc
    rw [network]
    exact hends l left ended (link ▸ hl) hc
  · rw [hwired] at he
    exact absurd he.symm (List.append_ne_nil_of_right_ne_nil _ (List.cons_ne_nil _ _))
  · rw [hwired]
    exact List.nil_prefix
  · rcases refused with h | h
    · rw [h] at hc
      cases hc
    · rw [h] at hu
      cases hu
  · rw [← link]
    exact hl

/-- What a transfer that is made does, once it is cleaned up after with more calls that neither read nor write. -/
theorem Transferred.of_attempted {c : Scene} {text : String} {u : Url}
    {a : Option Break × Session × Recorded ScriptedNetwork} {es ds : List WireEvent}
    (url : c.session.url = some (text, u)) (h : Attempted u c.session.started c.network a es) (quiet : Silent ds)
    (wire : c.performed.network.wire = a.2.2.wire ++ ds) (sound : Sound c.performed.session.held c.performed.network)
    (kept : ∀ l, c.performed.session.link = some l →
      c.performed.network.wire = a.2.2.wire ∧ a.2.1.link = some l ∧ (a.1 = none ∧ c.answer = .ok .ok
        ∨ ∃ f, a.1 = some (.escaped f) ∧ c.answer = .error f)) : c.Transferred := by
  have hwired : c.wired = es ++ ds := wired_eq (by rw [wire, h.wire, List.append_assoc])
  have hds (id : StreamId) := quiet.writesTo id
  have hurl {text' : String} {u' : Url} (hu : c.session.url = some (text', u')) : u' = u := by
    rw [url] at hu
    cases hu
    rfl
  -- a stream that is kept was kept by the transfer itself, with nothing done to it afterwards
  have hkept {l : Link} (hl : c.performed.session.link = some l) :
      c.wired = es ∧ a.2.1.link = some l
        ∧ (a.1 = none ∧ c.answer = .ok .ok ∨ ∃ f, a.1 = some (.escaped f) ∧ c.answer = .error f) := by
    obtain ⟨hw, hl', hcase⟩ := kept l hl
    exact ⟨wired_eq (hw.trans h.wire), hl', hcase⟩
  refine ⟨by rw [wire, h.wire, hwired, List.append_assoc], sound, fun l left ended hl hc => ?_,
    fun fs id p b rest he => ⟨text, u, url, ?_⟩, fun text' u' id hu => ?_,
    fun text' u' l left ended _ hu hr p ps hp => ?_, fun l hl => .inr ?_⟩
  · obtain ⟨-, hl', hcase⟩ := hkept hl
    rw [(kept l hl).1]
    rcases hcase with ⟨hn, -⟩ | ⟨f, hf, -⟩
    · obtain ⟨-, left', ended', hc', hend, hleft, -⟩ := h.kept l hn hl'
      rw [hc] at hc'
      cases hc'
      exact ⟨hend, hleft⟩
    · rw [(h.escaped f l hf hl').1] at hc
      cases hc
  · rw [hwired] at he
    exact (h.owned.append (Owned.of_unwritten quiet.write)) fs id p b rest he
  · rw [hurl hu, hwired, WireEvent.writesTo_append, hds, List.append_nil]
    exact h.once id
  · rw [hurl hu] at hr hp
    obtain ⟨b, rest, hes⟩ := h.begins l left ended hr p ps hp
    exact ⟨b, rest ++ ds, by rw [hwired, hes]; rfl⟩
  · obtain ⟨hes, hl', hcase⟩ := hkept hl
    rcases hcase with ⟨hn, hok⟩ | ⟨f, hf, herr⟩
    · obtain ⟨ho, left, ended, hc, -, -, ha⟩ := h.kept l hn hl'
      exact .inr ⟨left, ended, hc, hok, text, u, url, ho.symm, hes ▸ ha⟩
    · obtain ⟨hbusy, hm⟩ := h.escaped f l hf hl'
      rw [hes]
      exact .inl ⟨hbusy, fun hok => (nomatch herr.symm.trans hok), hm⟩

/-- **Everything about the stream that a call for a transfer can do.** -/
theorem transferred {c : Scene} (h : Sound c.session.held c.network) (hends : c.session.Ends c.network.wire) :
    c.Transferred := by
  have hp := Session.perform_spec c.session c.network
  have hheld : c.session.started.held = c.session.held := rfl
  generalize ha : c.session.perform c.network = a at hp
  have hanswer : c.answer = a.1 := by rw [answer, ha]
  have hperformed : c.performed = ⟨a.2.1, a.2.2⟩ := by rw [performed, ha]
  have hfail (code : TransferCode) (m : Text.Points) (s : Session) : (s.fail code m).2.link = s.link := by
    rw [Session.fail_snd]
  cases hp with
  | closed hc => exact .of_idle h hends (by rw [hperformed, hfail]; rfl) (by rw [hperformed]) (.inl hc)
  | aimless hc hu => exact .of_idle h hends (by rw [hperformed, hfail]; rfl) (by rw [hperformed]) (.inr hu)
  | @done text u t w' hc hu attempt =>
    obtain ⟨es, hx⟩ := attempt.attempted (hheld ▸ h) hends
    refine .of_attempted hu hx silent_nil ?_ ?_ fun l hl => ?_
    · rw [hperformed, List.append_nil]
    · rw [hperformed]
      exact hx.sound
    · rw [hperformed] at hl ⊢
      exact ⟨rfl, hl, .inl ⟨rfl, hanswer⟩⟩
  | @failed text u code m t w' hc hu attempt =>
    obtain ⟨es, hx⟩ := attempt.attempted (hheld ▸ h) hends
    obtain ⟨ds, hds, hclose⟩ := Session.drop_wire t w'
    have hlink : c.performed.session.link = none := by rw [hperformed, hfail]
    refine .of_attempted hu hx (silent_closes hclose) ?_ ?_ fun l hl => ?_
    · rw [hperformed]
      exact hds
    · rw [held, hlink, hperformed]
      exact hx.sound.drop
    · rw [hlink] at hl
      cases hl
  | @escaped text u f t w' hc hu attempt =>
    obtain ⟨es, hx⟩ := attempt.attempted (hheld ▸ h) hends
    refine .of_attempted hu hx silent_nil ?_ ?_ fun l hl => ?_
    · rw [hperformed, List.append_nil]
    · rw [hperformed]
      exact hx.sound
    · rw [hperformed] at hl ⊢
      exact ⟨rfl, hl, .inr ⟨f, rfl, hanswer⟩⟩

end Scene

end Transport
