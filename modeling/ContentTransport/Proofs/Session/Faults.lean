import ContentTransport.Proofs.Session.Terms
/-!
# Faults — which faults of the network escape from a transfer

Each call to the network has a handler of its own, and the handlers take different classes of faults.  A fault escapes
from a transfer exactly if a call answers with one that its handler does not take (`Attempt.fared`).  A stream whose
handshake is answered so is left open, and belongs to no session any more; every other stream that a session has opened
is its own, or closed (`Attempt.accounted`).
-/
namespace Transport

theorem Fault.isSystem_of_isTimeout {f : Fault} (h : f.isTimeout = true) : f.isSystem = true := by
  cases f with
  | network f =>
    have hkind : f.kind = .timedOut := beq_iff_eq.1 h
    change f.isSystem = true
    rw [NetworkFault.isSystem, hkind]
    rfl
  | _ => cases h

theorem Fault.isSystem_of_isUnresolved {f : Fault} (h : f.isUnresolved = true) : f.isSystem = true := by
  cases f with
  | network f =>
    have hkind : f.kind = .unresolved := beq_iff_eq.1 h
    change f.isSystem = true
    rw [NetworkFault.isSystem, hkind]
    rfl
  | _ => cases h

namespace WireEvent

/-- The faults that the handler of a call takes. -/
def handles : WireEvent → Fault → Bool
  | connect _ _ _ _, f => f.isSystem || f.isValue
  | secure _ _ _ _ _, f => f.isSystem || f.isRuntime
  | write _ _ _, f => f.isSystem || f.isRuntime || f.isUnicode
  | read _ _ _, f => f.isSystem || f.isRuntime
  | close _, _ => true

/-- A call answers with a fault that its handler does not take. -/
def Escapes (e : WireEvent) (f : Fault) : Prop := e.fault? = some f ∧ e.handles f = false

theorem not_escapes_of_faultless {e : WireEvent} (h : e.fault? = none) (f : Fault) : ¬e.Escapes f := by
  rintro ⟨he, -⟩
  rw [h] at he
  cases he

theorem escapes_of_fault {e : WireEvent} {g : Fault} (h : e.fault? = some g) (f : Fault) :
    e.Escapes f ↔ g = f ∧ e.handles g = false := by
  constructor
  · rintro ⟨hf, hh⟩
    rw [h, Option.some.injEq] at hf
    exact ⟨hf, hf ▸ hh⟩
  · rintro ⟨rfl, hh⟩
    exact ⟨h, hh⟩

/-- The streams that are open after some calls; the stream that TLS gives is there in place of the one under it. -/
def unclosed (es : List WireEvent) : List StreamId := es.foldl opening []
where
  opening (open_ : List StreamId) : WireEvent → List StreamId
    | connect _ _ _ (.ok id) => id :: open_
    | secure bare _ _ _ (.ok id) => id :: open_.filter (· != bare)
    | close id => open_.filter (· != id)
    | _ => open_

theorem unclosed_append (es fs : List WireEvent) : unclosed (es ++ fs) = fs.foldl unclosed.opening (unclosed es) :=
  List.foldl_append

theorem unclosed_concat (es : List WireEvent) (e : WireEvent) :
    unclosed (es ++ [e]) = unclosed.opening (unclosed es) e := unclosed_append es [e]

theorem mem_unclosed_close {es : List WireEvent} {id other : StreamId} (h : id ∈ unclosed (es ++ [close other])) :
    id ∈ unclosed es ∧ id ≠ other := by
  rw [unclosed_concat] at h
  obtain ⟨hm, hne⟩ := List.mem_filter.1 h
  exact ⟨hm, bne_iff_ne.1 hne⟩

end WireEvent

open WireEvent (unclosed)

theorem Talk.unclosed {id other : StreamId} {es wire : List WireEvent} (talk : Talk other es)
    (h : id ∈ unclosed (wire ++ es)) : id ∈ unclosed wire := by
  induction es generalizing wire with
  | nil => rwa [List.append_nil] at h
  | cons e es ih =>
    rw [← List.singleton_append, ← List.append_assoc] at h
    have hm := ih (fun e' he' => talk e' (List.mem_cons_of_mem e he')) h
    have hopens := (talk e List.mem_cons_self).2
    cases e with
    | connect => cases hopens
    | secure => cases hopens
    | close i => exact (WireEvent.mem_unclosed_close hm).1
    | read => rwa [WireEvent.unclosed_concat] at hm
    | write => rwa [WireEvent.unclosed_concat] at hm

/-- A stream whose handshake a fault has escaped from. -/
def Abandoned (wire : List WireEvent) (id : StreamId) : Prop :=
  ∃ host timeout verify answer f, .secure id host timeout verify answer ∈ wire
    ∧ WireEvent.Escapes (.secure id host timeout verify answer) f

theorem Abandoned.append {wire : List WireEvent} {id : StreamId} (h : Abandoned wire id) (es : List WireEvent) :
    Abandoned (wire ++ es) id := by
  obtain ⟨host, timeout, verify, answer, f, hm, hf⟩ := h
  exact ⟨host, timeout, verify, answer, f, List.mem_append_left es hm, hf⟩

namespace Session

variable {ν : Type} [Network ν]

/-! ## What the handlers take -/

/-- A session from which nothing escapes but what comes from its network: its timeout can be told in milliseconds, and
its receiver does not break off. -/
structure Composed (s : Session) : Prop where
  timeout : ∃ n, milliseconds s.timeout = .ok n
  receiver : ∀ r, s.receiver = some r → ∀ passed size piece f, r.judge passed size piece ≠ .error f

theorem Composed.of_options {s t : Session} (h : Composed s) (options : t.options = s.options) : Composed t := by
  have htime := congrArg Session.timeout options
  have hreceiver := congrArg Session.receiver options
  have htime : t.timeout = s.timeout := htime
  have hreceiver : t.receiver = s.receiver := hreceiver
  exact ⟨htime ▸ h.timeout, hreceiver ▸ h.receiver⟩

theorem Composed.timedOut {s : Session} (h : Composed s) (before after : String) (f : Fault) :
    timedOut s.timeout before after ≠ .escaped f := by
  obtain ⟨n, hn⟩ := h.timeout
  unfold Session.timedOut
  rw [hn]
  exact nofun

theorem Composed.connectBreak {s : Session} (h : Composed s) (o : Origin) (f g : Fault) :
    connectBreak o s.timeout f = .escaped g ↔ f = g ∧ (f.isSystem || f.isValue) = false := by
  unfold Session.connectBreak
  by_cases ht : f.isTimeout = true
  · simp [ht, Fault.isSystem_of_isTimeout ht, h.timedOut]
  · by_cases hu : f.isUnresolved = true
    · simp [ht, hu, Fault.isSystem_of_isUnresolved hu]
    · cases hv : f.isValue <;> cases hs : f.isSystem <;> simp [ht, hu]

theorem Composed.tlsBreak {s : Session} (h : Composed s) {f : Fault} {b : Break} (fault : tlsBreak? s.timeout f = some b)
    (g : Fault) : b ≠ .escaped g := by
  unfold tlsBreak? at fault
  split at fault
  · cases fault
    exact h.timedOut _ _ g
  · split at fault
    · cases fault
      exact nofun
    · cases fault

theorem tlsBreak?_eq_none {timeout : Float} {f : Fault} :
    tlsBreak? timeout f = none ↔ (f.isSystem || f.isRuntime) = false := by
  unfold tlsBreak?
  by_cases ht : f.isTimeout = true
  · simp [ht, Fault.isSystem_of_isTimeout ht]
  · cases hs : f.isSystem <;> cases hr : f.isRuntime <;> simp [ht]

theorem Composed.writeBreak {s : Session} (h : Composed s) (f g : Fault) :
    writeBreak s.timeout f = .escaped g ↔ f = g ∧ (f.isSystem || f.isRuntime || f.isUnicode) = false := by
  unfold Session.writeBreak
  by_cases ht : f.isTimeout = true
  · simp [ht, Fault.isSystem_of_isTimeout ht, h.timedOut]
  · cases hs : f.isSystem <;> cases hr : f.isRuntime <;> cases hu : f.isUnicode <;> simp [ht, invalidRequest]

theorem Composed.readBreak {s : Session} (h : Composed s) (received : Nat) (f g : Fault) :
    readBreak s.timeout received f = .escaped g ↔ f = g ∧ (f.isSystem || f.isRuntime) = false := by
  unfold Session.readBreak
  by_cases ht : f.isTimeout = true
  · simp [ht, Fault.isSystem_of_isTimeout ht, h.timedOut]
  · cases hs : f.isSystem <;> cases hr : f.isRuntime <;> simp [ht]

theorem replyBreak_ne_escaped (s : Session) (f : Http.ReplyFault) (g : Fault) : s.replyBreak f ≠ .escaped g := by
  unfold replyBreak
  split
  · exact nofun
  · split <;> exact nofun

theorem Composed.deliver {s : Session} (h : Composed s) (p : Bytes) (f : Fault) :
    (s.deliver p).1 ≠ some (.escaped f) := by
  cases hr : s.receiver with
  | none => rw [deliver_of_none hr]; exact nofun
  | some r =>
    rw [deliver_of_some hr]
    unfold taking
    cases hj : r.judge s.passed s.inbox.size p with
    | error g => exact absurd hj (h.receiver r hr _ _ _ g)
    | ok v =>
      dsimp only
      split <;> exact nofun

theorem Composed.obey {es : List Http.Event} {s t : Session} {b : Option Break} (h : Composed s)
    (obeyed : s.obey es = (b, t)) (f : Fault) : b ≠ some (.escaped f) := by
  induction es generalizing s with
  | nil =>
    cases obeyed
    exact nofun
  | cons e es ih =>
    cases e with
    | status n => exact ih (s := { s with status := some n }) ⟨h.timeout, h.receiver⟩ obeyed
    | piece p =>
      simp only [Session.obey] at obeyed
      have hdeliver := h.deliver p f
      have htold := deliver_told p s
      rcases hd : s.deliver p with ⟨_ | c, u⟩
      · rw [hd] at obeyed htold
        refine ih (s := u) (h.of_options ?_) obeyed
        have hu : u = s.told s.status u.passed u.inbox := htold
        rw [hu]
        rfl
      · rw [hd] at obeyed hdeliver
        cases obeyed
        exact hdeliver

/-! ## What escapes -/

/-- A step whose break is an escaped fault exactly if a call of it answers with one that its handler does not take. -/
structure Fared (w : Recorded ν) (b : Option Break) (w' : Recorded ν) (es : List WireEvent) : Prop where
  wire : w'.wire = w.wire ++ es
  escapes : ∀ f, b = some (.escaped f) ↔ ∃ e ∈ es, e.Escapes f

omit [Network ν] in
theorem fared_faultless {w w' : Recorded ν} {b : Option Break} {es : List WireEvent} (wire : w'.wire = w.wire ++ es)
    (faultless : ∀ e ∈ es, e.fault? = none) (handled : ∀ f, b ≠ some (.escaped f)) : Fared w b w' es where
  wire := wire
  escapes f := by
    refine ⟨fun h => absurd h (handled f), ?_⟩
    rintro ⟨e, he, hf⟩
    exact absurd hf (WireEvent.not_escapes_of_faultless (faultless e he) f)

omit [Network ν] in
/-- A step that ends with a call that answers with a fault. -/
theorem fared_fault {w w' : Recorded ν} {b : Break} {e : WireEvent} {f : Fault} (wire : w'.wire = w.wire ++ [e])
    (fault : e.fault? = some f) (escapes : ∀ g, b = .escaped g ↔ f = g ∧ e.handles f = false) :
    Fared w (some b) w' [e] where
  wire := wire
  escapes g := by
    simp only [List.mem_singleton, exists_eq_left, Option.some.injEq]
    rw [escapes g, WireEvent.escapes_of_fault fault]

omit [Network ν] in
theorem Fared.after {w mid w' : Recorded ν} {b : Option Break} {es fs : List WireEvent} (h : Fared mid b w' fs)
    (wire : mid.wire = w.wire ++ es) (quiet : ∀ e ∈ es, ∀ f, ¬e.Escapes f) : Fared w b w' (es ++ fs) where
  wire := by rw [h.wire, wire, List.append_assoc]
  escapes f := by
    rw [h.escapes f]
    constructor
    · rintro ⟨e, he, hf⟩
      exact ⟨e, List.mem_append_right _ he, hf⟩
    · rintro ⟨e, he, hf⟩
      rcases List.mem_append.1 he with he | he
      · exact absurd hf (quiet e he f)
      · exact ⟨e, he, hf⟩

theorem not_escapes_writes (id : StreamId) (ps : List Bytes) : ∀ e ∈ WireEvent.writes id ps, ∀ f, ¬e.Escapes f := by
  intro e he f
  obtain ⟨p, -, rfl⟩ := WireEvent.mem_writes he
  exact WireEvent.not_escapes_of_faultless rfl f

theorem not_escapes_reads (id : StreamId) (n : Nat) (ps : List Bytes) :
    ∀ e ∈ WireEvent.reads id n ps, ∀ f, ¬e.Escapes f := by
  intro e he f
  obtain ⟨p, -, rfl⟩ := WireEvent.mem_reads he
  exact WireEvent.not_escapes_of_faultless rfl f

theorem fared_finish (keep ended : Bool) (surplus : Bytes) (s : Session) (w : Recorded ν) :
    ∃ es, Fared w none (s.finish keep surplus ended w).2 es := by
  unfold finish
  split
  · exact ⟨[], fared_faultless (List.append_nil _).symm nofun nofun⟩
  · refine ⟨s.parting, fared_faultless (drop_parting s w) (fun e he => ?_) nofun⟩
    obtain ⟨l, -, rfl⟩ := List.mem_map.1 he
    rfl

theorem fared_finishAtEnd (keep : Bool) (r : Http.Reader) (s : Session) (w : Recorded ν) :
    ∃ es, Fared w (finishAtEnd keep r s w).1 (finishAtEnd keep r s w).2.2 es := by
  unfold finishAtEnd
  split
  · refine ⟨[], fared_faultless (List.append_nil _).symm nofun fun f hf => ?_⟩
    exact replyBreak_ne_escaped s _ f (Option.some.inj hf)
  · exact fared_finish _ _ _ s w

theorem Ending.fared {stream : StreamId} {keep ended : Bool} {r : Http.Reader} {st : Http.Reader.Standing} {s : Session}
    {w : Recorded ν} {a : Option Break × Session × Recorded ν} (c : Ending stream keep ended r st s w a)
    (h : Composed s) : ∃ es, Fared w a.1 a.2.2 es := by
  cases c with
  | complete => exact fared_finish _ _ _ s w
  | switched => exact ⟨[], fared_faultless (List.append_nil _).symm nofun nofun⟩
  | broken =>
    refine ⟨[], fared_faultless (List.append_nil _).symm nofun fun f hf => ?_⟩
    exact replyBreak_ne_escaped s _ f (Option.some.inj hf)
  | silent => exact fared_finishAtEnd _ _ s w
  | closed _ read =>
    obtain ⟨es, hes⟩ := fared_finishAtEnd keep r s (_ : Recorded ν)
    refine ⟨_, hes.after (Recorded.read_eq read).2 fun e he f => ?_⟩
    cases List.mem_singleton.1 he
    exact WireEvent.not_escapes_of_faultless rfl f
  | failed _ read => exact ⟨_, fared_fault (Recorded.read_eq read).2 rfl (h.readBreak _ _)⟩

theorem Receipt.fared {stream : StreamId} {keep ended : Bool} {r : Http.Reader} {s : Session} {w : Recorded ν}
    {a : Option Break × Session × Recorded ν} (c : Receipt stream keep ended r s w a) (h : Composed s) :
    ∃ es, Fared w a.1 a.2.2 es := by
  cases c with
  | interrupted path _ _ obeyed =>
    refine ⟨_, fared_faultless path.wire (fun e he => ?_) (h.obey obeyed)⟩
    obtain ⟨p, -, rfl⟩ := WireEvent.mem_reads he
    rfl
  | @heard reads mid t a path _ _ obeyed ending =>
    have hoptions : (t.counting reads.flatten.length).options = s.options :=
      (show _ = t.options from rfl).trans (options_obey obeyed)
    obtain ⟨es, hes⟩ := ending.fared (h.of_options hoptions)
    exact ⟨_, hes.after path.wire (not_escapes_reads _ _ _)⟩

theorem Course.fared {u : Url} {stream : StreamId} {surplus : Bytes} {ended : Bool} {s : Session} {w : Recorded ν}
    {a : Option Break × Session × Recorded ν} (c : Course u stream surplus ended s w a) (h : Composed s) :
    ∃ es, Fared w a.1 a.2.2 es := by
  cases c with
  | refused => exact ⟨[], fared_faultless (List.append_nil _).symm nofun fun f => invalidRequest_ne _ f⟩
  | unsent _ _ path last =>
    exact ⟨_, (fared_fault (Recorded.write_eq last).2 rfl (h.writeBreak _)).after path.wire (not_escapes_writes _ _)⟩
  | withdrawn _ path =>
    refine ⟨_, fared_faultless path.wire (fun e he => ?_) fun f => invalidRequest_ne _ f⟩
    obtain ⟨p, -, rfl⟩ := WireEvent.mem_writes he
    rfl
  | answered _ path _ receipt =>
    obtain ⟨es, hes⟩ := receipt.fared (h.of_options rfl)
    exact ⟨_, hes.after path.wire (not_escapes_writes _ _)⟩

omit [Network ν] in
theorem Dials.escapes {o : Origin} {s : Session} {x : Except Break StreamId} {es : List WireEvent} (h : Composed s)
    (dials : Dials o s x es) (f : Fault) : x = .error (.escaped f) ↔ ∃ e ∈ es, e.Escapes f := by
  have hnone {e : WireEvent} (he : e.fault? = none) : e.Escapes f ↔ False :=
    iff_false_intro (WireEvent.not_escapes_of_faultless he f)
  cases dials with
  | unconnected g =>
    simp only [List.mem_singleton, exists_eq_left, Except.error.injEq]
    rw [WireEvent.escapes_of_fault rfl]
    exact h.connectBreak o g f
  | plain =>
    simp only [List.mem_singleton, exists_eq_left, reduceCtorEq]
    exact (hnone rfl).symm
  | secured =>
    simp only [List.mem_cons, List.not_mem_nil, or_false, exists_eq_or_imp, exists_eq_left, reduceCtorEq]
    rw [hnone rfl, hnone rfl, or_false]
  | @unsecured bare g b fault =>
    have hb := h.tlsBreak fault f
    have htaken : (g.isSystem || g.isRuntime) ≠ false := by
      intro hh
      rw [tlsBreak?_eq_none.2 hh] at fault
      cases fault
    simp only [List.mem_cons, List.not_mem_nil, or_false, exists_eq_or_imp, exists_eq_left, Except.error.injEq, hb,
      false_iff, not_or]
    refine ⟨WireEvent.not_escapes_of_faultless rfl f, ?_, WireEvent.not_escapes_of_faultless rfl f⟩
    rw [WireEvent.escapes_of_fault rfl]
    exact fun hg => htaken hg.2
  | @abandoned bare g fault =>
    simp only [List.mem_cons, List.not_mem_nil, or_false, exists_eq_or_imp, exists_eq_left, Except.error.injEq,
      Break.escaped.injEq]
    rw [hnone rfl, false_or, WireEvent.escapes_of_fault rfl]
    exact ⟨fun hg => ⟨hg, tlsBreak?_eq_none.1 fault⟩, fun hg => hg.1⟩

theorem Opening.fared {o : Origin} {s : Session} {w : Recorded ν} {a : Except Break StreamId × Session × Recorded ν}
    (c : Opening o s w a) (h : Composed s) :
    ∃ es, a.2.2.wire = w.wire ++ es ∧ ∀ f, a.1 = .error (.escaped f) ↔ ∃ e ∈ es, e.Escapes f := by
  obtain ⟨es, hwire, hdials, -, -⟩ := c.dials
  refine ⟨s.parting ++ es, hwire, fun f => ?_⟩
  rw [hdials.escapes h f]
  constructor
  · rintro ⟨e, he, hf⟩
    exact ⟨e, List.mem_append_right _ he, hf⟩
  · rintro ⟨e, he, hf⟩
    rcases List.mem_append.1 he with he | he
    · obtain ⟨l, -, rfl⟩ := List.mem_map.1 he
      exact absurd hf (WireEvent.not_escapes_of_faultless rfl f)
    · exact ⟨e, he, hf⟩

theorem Anew.fared {u : Url} {s : Session} {w : Recorded ν} {a : Option Break × Session × Recorded ν}
    (c : Anew u s w a) (h : Composed s) : ∃ es, Fared w a.1 a.2.2 es := by
  cases c with
  | unopened opening =>
    obtain ⟨es, hwire, hescapes⟩ := opening.fared h
    refine ⟨es, hwire, fun f => ?_⟩
    rw [← hescapes f]
    simp
  | opened opening course =>
    obtain ⟨es, hwire, hescapes⟩ := opening.fared h
    obtain ⟨fs, hfs⟩ := course.fared (h.of_options opening.options)
    refine ⟨es ++ fs, hfs.after hwire fun e he f hf => ?_⟩
    cases (hescapes f).2 ⟨e, he, hf⟩

/-- **A fault escapes from a transfer exactly if a call answers with one that its handler does not take.** -/
theorem Attempt.fared {u : Url} {s : Session} {w : Recorded ν} {a : Option Break × Session × Recorded ν}
    (c : Attempt u s w a) (h : Composed s) : ∃ es, Fared w a.1 a.2.2 es := by
  cases c with
  | fresh _ anew => exact anew.fared h
  | reused _ course _ => exact course.fared h
  | repeated _ course _ _ anew =>
    obtain ⟨es, hes⟩ := course.fared h
    obtain ⟨fs, hfs⟩ := anew.fared (h.of_options course.options)
    refine ⟨es ++ fs, hfs.after hes.wire fun e he f hf => ?_⟩
    -- the first attempt has failed with a code, so nothing escaped from it
    cases (hes.escapes f).2 ⟨e, he, hf⟩

/-! ## What stays open -/

/-- Every stream that is open after some calls is the one of the session, or has been abandoned. -/
def Accounted (s : Session) (wire : List WireEvent) : Prop :=
  ∀ id ∈ unclosed wire, s.link.map (·.stream) = some id ∨ Abandoned wire id

theorem Accounted.parting {s : Session} {wire : List WireEvent} (h : Accounted s wire) {id : StreamId}
    (opened : id ∈ unclosed (wire ++ s.parting)) : Abandoned (wire ++ s.parting) id := by
  unfold Session.parting at opened ⊢
  cases hl : s.link with
  | none =>
    rw [hl] at opened
    simp only [Option.toList_none, List.map_nil, List.append_nil] at opened ⊢
    rcases h id opened with hid | hid
    · rw [hl] at hid
      cases hid
    · exact hid
  | some l =>
    rw [hl] at opened
    obtain ⟨hm, hne⟩ := WireEvent.mem_unclosed_close opened
    rcases h id hm with hid | hid
    · rw [hl, Option.map_some, Option.some.injEq] at hid
      exact absurd hid.symm hne
    · exact hid.append _

theorem Accounted.drop {s : Session} {w : Recorded ν} (h : Accounted s w.wire) (t : Session) :
    Accounted t (s.drop w).2.wire := by
  intro id hid
  rw [drop_parting] at hid ⊢
  exact .inr (h.parting hid)

theorem Opening.accounted {o : Origin} {s : Session} {w : Recorded ν}
    {a : Except Break StreamId × Session × Recorded ν} (c : Opening o s w a) (h : Accounted s w.wire) :
    Accounted a.2.1 a.2.2.wire := by
  obtain ⟨es, hwire, hdials, hopened, hfailed⟩ := c.dials
  intro id hid
  rw [hwire, ← List.append_assoc] at hid ⊢
  have hold (hm : id ∈ unclosed (w.wire ++ s.parting)) : Abandoned (w.wire ++ s.parting ++ es) id :=
    (h.parting hm).append es
  have hlink {i : StreamId} (hi : a.1 = .ok i) : a.2.1.link.map (·.stream) = some i := by
    rw [hopened i hi]
    rfl
  rw [WireEvent.unclosed_append] at hid
  generalize a.1 = x at hdials hlink
  cases hdials with
  | unconnected => exact .inr (hold hid)
  | plain i =>
    rcases List.mem_cons.1 hid with rfl | hid
    · exact .inl (hlink rfl)
    · exact .inr (hold hid)
  | secured bare i =>
    rcases List.mem_cons.1 hid with rfl | hid
    · exact .inl (hlink rfl)
    · obtain ⟨hm, hne⟩ := List.mem_filter.1 hid
      rcases List.mem_cons.1 hm with rfl | hm
      · simp at hne
      · exact .inr (hold hm)
  | unsecured bare =>
    obtain ⟨hm, hne⟩ := List.mem_filter.1 hid
    rcases List.mem_cons.1 hm with rfl | hm
    · simp at hne
    · exact .inr (hold hm)
  | @abandoned bare f fault =>
    rcases List.mem_cons.1 hid with rfl | hm
    · refine .inr ⟨o.host, .float s.timeout, s.verifyTls, .error f, f, ?_, rfl, tlsBreak?_eq_none.1 fault⟩
      exact List.mem_append_right _ (List.mem_cons_of_mem _ List.mem_cons_self)
    · exact .inr (hold hm)

theorem Course.accounted {u : Url} {l : Link} {surplus : Bytes} {ended : Bool} {s : Session} {w : Recorded ν}
    {a : Option Break × Session × Recorded ν} (c : Course u l.stream surplus ended s w a) (link : s.link = some l)
    (h : Accounted s w.wire) : Accounted a.2.1 a.2.2.wire := by
  obtain ⟨es, hc⟩ := c.conversed link
  intro id hid
  have hm : id ∈ unclosed w.wire := hc.talk.unclosed (hc.wire ▸ hid)
  rcases c.retains link with hsame | ⟨-, v, hclose⟩
  · rcases h id hm with hid | hid
    · refine .inl ?_
      have hstream := congrArg (Option.map Prod.fst) hsame
      rw [held, held, Option.map_map, Option.map_map] at hstream
      exact hstream.trans hid
    · rw [hc.wire]
      exact .inr (hid.append es)
  · -- the last call has closed the stream of the session
    rw [hclose] at hid
    obtain ⟨-, hne⟩ := WireEvent.mem_unclosed_close hid
    rcases h id hm with hid | hid
    · rw [link, Option.map_some, Option.some.injEq] at hid
      exact absurd hid.symm hne
    · rw [hc.wire]
      exact .inr (hid.append es)

theorem Anew.accounted {u : Url} {s : Session} {w : Recorded ν} {a : Option Break × Session × Recorded ν}
    (c : Anew u s w a) (h : Accounted s w.wire) : Accounted a.2.1 a.2.2.wire := by
  cases c with
  | unopened opening => exact opening.accounted h
  | @opened id t w' a opening course =>
    obtain ⟨-, -, -, hopened, -⟩ := opening.dials
    have hlink : t.link = some { stream := id, origin := u.origin } := congrArg Session.link (hopened id rfl)
    exact course.accounted (l := { stream := id, origin := u.origin }) hlink (opening.accounted h)

/-- **A transfer leaves no stream open but that of its session, and those that a fault of the handshake abandons.** -/
theorem Attempt.accounted {u : Url} {s : Session} {w : Recorded ν} {a : Option Break × Session × Recorded ν}
    (c : Attempt u s w a) (h : Accounted s w.wire) : Accounted a.2.1 a.2.2.wire := by
  cases c with
  | fresh _ anew => exact anew.accounted h
  | reused usable course _ => exact course.accounted (usable_link usable).1 h
  | repeated usable course _ _ anew => exact anew.accounted (course.accounted (usable_link usable).1 h)

end Session
end Transport
