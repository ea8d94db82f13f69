import ContentTransport.Proofs.Session.Fate
/-!
# Written — how much of its request a transfer writes

A transfer that comes to a status has written its request to the end, on the last stream that it has written to: to the
first one, if no second one takes it up.  There is one way around it.  A stream that has died may have left something
over that says a status, and the write to the stream that is opened in its place may fail; then the status stays, and so
does the beginning of a request.  Without faults of writes in the script, no write to an open stream fails
(`perform_wrote`).
-/
namespace Transport

open ScriptedNetwork

/-! ## What is written last -/

/-- No call writes. -/
def Unwritten (es : List WireEvent) : Prop := ∀ id p a, .write id p a ∉ es

/-- No write fails. -/
def Unfailing (es : List WireEvent) : Prop := ∀ id p f, .write id p (.error f) ∉ es

/-- Some of the calls, after which none writes. -/
def Last (tail es : List WireEvent) : Prop := ∃ before after, es = before ++ (tail ++ after) ∧ Unwritten after

/-- What is written last is the whole of a request, to one stream. -/
def WrittenLast (ps : List Bytes) (es : List WireEvent) : Prop := ps ≠ [] ∧ ∃ id, Last (WireEvent.writes id ps) es

/-- The last write fails. -/
def Falters (es : List WireEvent) : Prop := ∃ id p f, Last [.write id p (.error f)] es

section

variable {es fs tail : List WireEvent}

theorem Unwritten.append (h : Unwritten es) (h' : Unwritten fs) : Unwritten (es ++ fs) := fun id p a hm =>
  (List.mem_append.1 hm).elim (h id p a) (h' id p a)

theorem Unfailing.append (h : Unfailing es) (h' : Unfailing fs) : Unfailing (es ++ fs) := fun id p f hm =>
  (List.mem_append.1 hm).elim (h id p f) (h' id p f)

theorem Unwritten.unfailing (h : Unwritten es) : Unfailing es := fun id p f => h id p (.error f)

theorem unfailing_writes (id : StreamId) (ps : List Bytes) : Unfailing (WireEvent.writes id ps) := by
  intro other p f hm
  obtain ⟨q, -, he⟩ := WireEvent.mem_writes hm
  cases he

theorem Last.append (h : Last tail es) (quiet : Unwritten fs) : Last tail (es ++ fs) := by
  obtain ⟨before, after, rfl, hquiet⟩ := h
  exact ⟨before, after ++ fs, by simp, hquiet.append quiet⟩

theorem Last.prepend (h : Last tail fs) (es : List WireEvent) : Last tail (es ++ fs) := by
  obtain ⟨before, after, rfl, hquiet⟩ := h
  exact ⟨es ++ before, after, by simp, hquiet⟩

theorem Unfailing.not_falters (h : Unfailing es) : ¬Falters es := by
  rintro ⟨id, p, f, before, after, rfl, -⟩
  exact h id p f (by simp)

theorem unwritten_of_silent (h : Silent es) : Unwritten es := fun id p a => h.write id p a

theorem mem_writesTo {id : StreamId} {p : Bytes} {a : Except Fault Unit} (h : .write id p a ∈ es) :
    (p, a.isOk) ∈ WireEvent.writesTo id es := List.mem_filterMap.2 ⟨_, h, if_pos rfl⟩

theorem unwritten_of_none (h : ∀ id, WireEvent.writesTo id es = []) : Unwritten es := by
  intro id p a hm
  have hmem := mem_writesTo hm
  rw [h] at hmem
  cases hmem

theorem unwritten_of_talk {id : StreamId} (h : Talk id es) (unwritten : WireEvent.writesTo id es = []) :
    Unwritten es := by
  intro other p a hm
  obtain rfl : other = id := Option.some.inj (h _ hm).1
  have hmem := mem_writesTo hm
  rw [unwritten] at hmem
  cases hmem

end

namespace Session

variable {u : Url} {s : Session} {w w' : Recorded ScriptedNetwork}
  {a : Option Break × Session × Recorded ScriptedNetwork}

/-! ## Faults of writes -/

theorem unfaulted_drop (h : Unfaulted w.network) (s : Session) : Unfaulted (s.drop w).2.network :=
  drop_keeps (fun _ hw => hw.modify _) h s

theorem unfaulted_finish (h : Unfaulted w.network) (keep ended : Bool) (surplus : Bytes) (s : Session) :
    Unfaulted (s.finish keep surplus ended w).2.network := by
  cases keep with
  | true => exact h
  | false => exact unfaulted_drop h s

theorem unfaulted_finishAtEnd (h : Unfaulted w.network) (keep : Bool) (r : Http.Reader) (s : Session) :
    Unfaulted (finishAtEnd keep r s w).2.2.network := by
  unfold finishAtEnd
  split
  · exact h
  · exact unfaulted_finish h _ _ _ s

theorem Ending.unfaulted {stream : StreamId} {keep ended : Bool} {r : Http.Reader} {st : Http.Reader.Standing}
    (c : Ending stream keep ended r st s w a) (h : Unfaulted w.network) : Unfaulted a.2.2.network := by
  cases c with
  | complete => exact unfaulted_finish h _ _ _ s
  | switched => exact h
  | broken => exact h
  | silent => exact unfaulted_finishAtEnd h _ _ s
  | closed _ read => exact unfaulted_finishAtEnd (h.read (Recorded.read_eq read).1) _ _ s
  | failed _ read => exact h.read (Recorded.read_eq read).1

theorem Receipt.unfaulted {stream : StreamId} {keep ended : Bool} {r : Http.Reader}
    (c : Receipt stream keep ended r s w a) (h : Unfaulted w.network) : Unfaulted a.2.2.network := by
  cases c with
  | interrupted path => exact h.reads path.network
  | heard path _ _ _ ending => exact ending.unfaulted (h.reads path.network)

theorem Opening.unfaulted {o : Origin} {a : Except Break StreamId × Session × Recorded ScriptedNetwork}
    (c : Opening o s w a) (h : Unfaulted w.network) : Unfaulted a.2.2.network := by
  have hdrop := unfaulted_drop h s
  cases c with
  | unconnected connect => exact hdrop.connect (Recorded.connect_eq connect).1
  | plain _ connect => exact hdrop.connect (Recorded.connect_eq connect).1
  | secured _ connect secure => exact (hdrop.connect (Recorded.connect_eq connect).1).secure (Recorded.secure_eq secure).1
  | unsecured _ connect secure _ =>
    exact ((hdrop.connect (Recorded.connect_eq connect).1).secure (Recorded.secure_eq secure).1).modify _
  | abandoned _ connect secure _ =>
    exact (hdrop.connect (Recorded.connect_eq connect).1).secure (Recorded.secure_eq secure).1

/-! ## The writes of a transfer -/

/-- What becomes of a request: the whole of it is written last, or the last write fails, or nothing is written and no
status comes of it. -/
structure Wrote (ps : List Bytes) (before after : Option Nat) (w w' : Recorded ScriptedNetwork) (es : List WireEvent) :
    Prop where
  wire : w'.wire = w.wire ++ es
  outcome : WrittenLast ps es ∨ Falters es ∨ after = before ∧ Unwritten es
  faultless : Unfaulted w.network → Unfaulted w'.network ∧ Unfailing es

theorem Wrote.trans {ps : List Bytes} {x y z : Option Nat} {mid : Recorded ScriptedNetwork} {es fs : List WireEvent}
    (h : Wrote ps x y w mid es) (h' : Wrote ps y z mid w' fs) : Wrote ps x z w w' (es ++ fs) := by
  refine ⟨by rw [h'.wire, h.wire, List.append_assoc], ?_, fun hw => ?_⟩
  · rcases h'.outcome with ⟨hps, id, hlast⟩ | ⟨id, p, f, hlast⟩ | ⟨hz, hquiet'⟩
    · exact .inl ⟨hps, id, hlast.prepend es⟩
    · exact .inr (.inl ⟨id, p, f, hlast.prepend es⟩)
    · -- the second attempt has written nothing, so the first one tells
      rcases h.outcome with ⟨hps, id, hlast⟩ | ⟨id, p, f, hlast⟩ | ⟨hy, hquiet⟩
      · exact .inl ⟨hps, id, hlast.append hquiet'⟩
      · exact .inr (.inl ⟨id, p, f, hlast.append hquiet'⟩)
      · exact .inr (.inr ⟨hz.trans hy, hquiet.append hquiet'⟩)
  · obtain ⟨hmid, hunfailing⟩ := h.faultless hw
    obtain ⟨hw', hunfailing'⟩ := h'.faultless hmid
    exact ⟨hw', hunfailing.append hunfailing'⟩

theorem Course.wrote {l : Link} {surplus : Bytes} {ended : Bool} (c : Course u l.stream surplus ended s w a)
    (link : s.link = some l) (opened : isOpen l.stream w.network = true) :
    ∃ es, Wrote (s.pieces u) s.status a.2.1.status w a.2.2 es := by
  have hwhole {out : Http.Written} {es : List WireEvent} (request : (s.request u).write = .ok out)
      (quiet : Unwritten es) : WrittenLast (s.pieces u) (WireEvent.writes l.stream out.pieces ++ es) := by
    obtain ⟨target, fields, body, hhead⟩ := Http.Request.head_of_write request
    rw [pieces_of_ok request]
    exact ⟨hhead ▸ List.cons_ne_nil _ _, l.stream, [], es, (List.nil_append _).symm, quiet⟩
  have hnil : Unwritten [] := fun _ _ _ h => nomatch h
  cases c with
  | refused => exact ⟨[], (List.append_nil _).symm, .inr (.inr ⟨rfl, hnil⟩), fun h => ⟨h, hnil.unfailing⟩⟩
  | @unsent out done rest p f mid w' request pieces path last =>
    refine ⟨WireEvent.writes l.stream done ++ [.write l.stream p (.error f)], ?_,
      .inr (.inl ⟨l.stream, p, f, WireEvent.writes l.stream done, [], rfl, hnil⟩), fun h => ?_⟩
    · rw [(Recorded.write_eq last).2, path.wire, List.append_assoc]
    · exact (h.unsent opened path.network (Recorded.write_eq last).1).elim
  | @withdrawn out f mid request path fault =>
    refine ⟨WireEvent.writes l.stream out.pieces ++ [], ?_, .inl (hwhole request hnil), fun h => ⟨h.writes path.network, ?_⟩⟩
    · rw [path.wire, List.append_nil]
    · exact (unfailing_writes _ _).append hnil.unfailing
  | @answered out mid a request path fault receipt =>
    obtain ⟨es, h⟩ := receipt.listened (l := { l with condition := .busy }) (link_stand .busy link)
    have hquiet : Unwritten es := unwritten_of_talk h.talk h.unwritten
    refine ⟨WireEvent.writes l.stream out.pieces ++ es, ?_, .inl (hwhole request hquiet), fun hw => ⟨?_, ?_⟩⟩
    · rw [h.wire, path.wire, List.append_assoc]
    · exact receipt.unfaulted (hw.writes path.network)
    · exact (unfailing_writes _ _).append hquiet.unfailing

theorem Opening.wrote {o : Origin} {a : Except Break StreamId × Session × Recorded ScriptedNetwork}
    (c : Opening o s w a) (ps : List Bytes) : ∃ es, Wrote ps s.status a.2.1.status w a.2.2 es := by
  obtain ⟨es, hdialled⟩ := c.dialled
  have hquiet := unwritten_of_silent hdialled.silent
  refine ⟨es, hdialled.wire, .inr (.inr ⟨?_, hquiet⟩), fun h => ⟨c.unfaulted h, hquiet.unfailing⟩⟩
  cases c <;> rfl

theorem Anew.wrote (c : Anew u s w a) : ∃ es, Wrote (s.pieces u) s.status a.2.1.status w a.2.2 es := by
  cases c with
  | unopened opening => exact opening.wrote _
  | @opened id t v a opening course =>
    obtain ⟨es, hopened⟩ := opening.wrote (s.pieces u)
    obtain ⟨rfl, hblank, -⟩ := opening.blank
    obtain ⟨fs, hwrote⟩ := course.wrote (l := { stream := id, origin := u.origin }) rfl hblank.isOpen
    exact ⟨es ++ fs, hopened.trans hwrote⟩

theorem Attempt.wrote (c : Attempt u s w a) : ∃ es, Wrote (s.pieces u) s.status a.2.1.status w a.2.2 es := by
  cases c with
  | fresh _ anew => exact anew.wrote
  | reused usable course _ =>
    obtain ⟨hl, -, -, hopen⟩ := reusable?_iff.1 usable
    exact course.wrote hl hopen
  | @repeated l surplus ended code m t mid a usable course _ _ anew =>
    obtain ⟨hl, -, -, hopen⟩ := reusable?_iff.1 usable
    obtain ⟨es, hfirst⟩ := course.wrote hl hopen
    obtain ⟨fs, hsecond⟩ := anew.wrote
    rw [pieces_of_options (s := t) course.options u] at hsecond
    exact ⟨es ++ fs, hfirst.trans hsecond⟩

/-- **A transfer that comes to a status has written the whole of its request last**, unless its last write fails. -/
theorem perform_wrote {text : String} (opened : s.closed = false) (url : s.url = some (text, u)) :
    ∃ es, Wrote (s.pieces u) none (s.perform w).2.1.status w (s.perform w).2.2 es := by
  have hattempt := (attempt_spec u s.started w).wrote
  rw [perform_of_open opened url]
  generalize s.started.attempt u w = a at hattempt ⊢
  obtain ⟨es, hwrote⟩ := hattempt
  obtain ⟨_ | ⟨code, m⟩ | f, t, v⟩ := a
  · exact ⟨es, hwrote⟩
  · obtain ⟨ds, hwire, hcloses⟩ := drop_wire t v
    have hquiet := unwritten_of_silent (silent_closes hcloses)
    have hdrop : Wrote (s.pieces u) t.status t.status v (t.drop v).2 ds :=
      ⟨hwire, .inr (.inr ⟨rfl, hquiet⟩), fun h => ⟨unfaulted_drop h t, hquiet.unfailing⟩⟩
    dsimp only
    rw [fail_snd]
    exact ⟨es ++ ds, hwrote.trans hdrop⟩
  · exact ⟨es, hwrote⟩

end Session
end Transport
