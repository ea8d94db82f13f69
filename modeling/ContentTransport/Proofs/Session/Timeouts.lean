import ContentTransport.Proofs.Session.Resend
/-!
# Timeouts — what a timeout makes of a transfer

Any call to the network may time out.  The first that does breaks the transfer off: nothing is tried again, and only the
closing of a stream may follow.  The break is then that of a timeout, and in no other transfer is it (`Attempt.timed`).
-/
namespace Transport

/-- The call answers with a timeout. -/
def WireEvent.TimesOut (e : WireEvent) : Prop := ∃ f, e.fault? = some f ∧ f.isTimeout = true

instance (e : WireEvent) : Decidable e.TimesOut :=
  decidable_of_iff (e.fault?.any (·.isTimeout) = true) (by simp [WireEvent.TimesOut, Option.any_eq_true])

theorem inTime_closes {es : List WireEvent} (h : ∀ e ∈ es, ∃ id, e = .close id) : InTime es :=
  inTime_of_faultless fun e he => by
    obtain ⟨id, rfl⟩ := h e he
    rfl

/-- A break with the code of a timeout. -/
def Break.isTimeout : Break → Bool
  | .failed code _ => code == .operationTimedout
  | .escaped _ => false

namespace Session

/-! ## What the handlers make of a timeout -/

/-- A fault breaks off as a timeout does, in milliseconds, if it is one, and otherwise with another code. -/
def BreaksOff (timeout : Float) (f : Fault) (b : Break) : Prop :=
  (f.isTimeout = true ∧ ∃ before after, b = timedOut timeout before after) ∨ (f.isTimeout = false ∧ b.isTimeout = false)

theorem breaksOff_connect (o : Origin) (timeout : Float) (f : Fault) :
    BreaksOff timeout f (connectBreak o timeout f) := by
  unfold connectBreak
  cases ht : f.isTimeout with
  | true => exact .inl ⟨ht, _, _, if_pos rfl⟩
  | false =>
    refine .inr ⟨ht, ?_⟩
    rw [if_neg Bool.false_ne_true]
    repeat' split
    all_goals rfl

theorem breaksOff_secure {timeout : Float} {f : Fault} {b : Break} (fault : tlsBreak? timeout f = some b) :
    BreaksOff timeout f b := by
  unfold tlsBreak? at fault
  cases ht : f.isTimeout with
  | true =>
    rw [if_pos ht, Option.some.injEq] at fault
    exact .inl ⟨ht, _, _, fault.symm⟩
  | false =>
    rw [if_neg (by rw [ht]; exact Bool.false_ne_true)] at fault
    split at fault
    · cases fault
      exact .inr ⟨ht, rfl⟩
    · cases fault

/-- A timeout is no fault that passes the handler by. -/
theorem isTimeout_of_unhandled {timeout : Float} {f : Fault} (fault : tlsBreak? timeout f = none) :
    f.isTimeout = false := by
  cases ht : f.isTimeout with
  | false => rfl
  | true =>
    rw [tlsBreak?, if_pos ht] at fault
    cases fault

theorem breaksOff_write (timeout : Float) (f : Fault) : BreaksOff timeout f (writeBreak timeout f) := by
  unfold writeBreak
  cases ht : f.isTimeout with
  | true => exact .inl ⟨ht, _, _, if_pos rfl⟩
  | false =>
    refine .inr ⟨ht, ?_⟩
    rw [if_neg Bool.false_ne_true]
    repeat' split
    all_goals rfl

theorem breaksOff_read (timeout : Float) (received : Nat) (f : Fault) :
    BreaksOff timeout f (readBreak timeout received f) := by
  unfold readBreak
  cases ht : f.isTimeout with
  | true => exact .inl ⟨ht, _, _, if_pos rfl⟩
  | false =>
    refine .inr ⟨ht, ?_⟩
    rw [if_neg Bool.false_ne_true]
    split <;> rfl

theorem replyBreak_isTimeout (s : Session) (f : Http.ReplyFault) : (s.replyBreak f).isTimeout = false := by
  unfold replyBreak
  repeat' split
  all_goals rfl

theorem obey_isTimeout {es : List Http.Event} {s t : Session} {b : Break} (h : s.obey es = (some b, t)) :
    b.isTimeout = false := by
  rcases break_of_obey h with ⟨f, rfl⟩ | ⟨m, rfl⟩ <;> rfl

/-! ## A transfer -/

/-- What breaks some calls off, if anything does: a timeout of the last of them, after which streams may be closed; or
something else, and then none of them times out. -/
inductive Timed (timeout : Float) : Option Break → List WireEvent → Prop
  | inTime {b : Option Break} {es : List WireEvent} (calls : InTime es) (other : ∀ c, b = some c → c.isTimeout = false) :
    Timed timeout b es
  | late {es ds : List WireEvent} {e : WireEvent} {before after : String} (calls : InTime es) (late : e.TimesOut)
    (closes : ∀ d ∈ ds, ∃ id, d = .close id) : Timed timeout (some (timedOut timeout before after)) (es ++ e :: ds)

theorem Timed.calm {timeout : Float} {es : List WireEvent} (calls : InTime es) : Timed timeout none es :=
  .inTime calls nofun

theorem Timed.after {timeout : Float} {b : Option Break} {es fs : List WireEvent} (h : Timed timeout b fs)
    (calls : InTime es) : Timed timeout b (es ++ fs) := by
  cases h with
  | inTime calls' other => exact .inTime (calls.append calls') other
  | late calls' late closes =>
    rw [← List.append_assoc]
    exact .late (calls.append calls') late closes

/-- A call that answers with a fault, and the break that its handler makes of it. -/
theorem BreaksOff.timed {timeout : Float} {f : Fault} {b : Break} {e : WireEvent} {ds : List WireEvent}
    (h : BreaksOff timeout f b) (fault : e.fault? = some f) (closes : ∀ d ∈ ds, ∃ id, d = .close id) :
    Timed timeout (some b) (e :: ds) := by
  rcases h with ⟨ht, before, after, rfl⟩ | ⟨ht, hb⟩
  · have hnone : InTime [] := nofun
    exact .late hnone ⟨f, fault, ht⟩ closes
  · refine .inTime ((inTime_singleton fault ht).append (inTime_closes closes)) ?_
    rintro c ⟨⟩
    exact hb

theorem BreaksOff.timed_last {timeout : Float} {f : Fault} {b : Break} {e : WireEvent} (h : BreaksOff timeout f b)
    (fault : e.fault? = some f) : Timed timeout (some b) [e] := h.timed fault nofun

variable {ν : Type} [Network ν]

omit [Network ν] in
theorem timeout_of_options {s t : Session} (h : s.options = t.options) : s.timeout = t.timeout :=
  (congrArg Session.timeout h :)

theorem timed_finish (timeout : Float) (keep ended : Bool) (surplus : Bytes) (s : Session) (w : Recorded ν) :
    ∃ es, (s.finish keep surplus ended w).2.wire = w.wire ++ es ∧ Timed timeout none es := by
  unfold finish
  split
  · exact ⟨[], (List.append_nil _).symm, .inTime nofun nofun⟩
  · obtain ⟨es, hwire, hcloses⟩ := drop_wire s w
    exact ⟨es, hwire, .inTime (inTime_closes hcloses) nofun⟩

theorem timed_finishAtEnd (timeout : Float) (keep : Bool) (r : Http.Reader) (s : Session) (w : Recorded ν) :
    ∃ es, (finishAtEnd keep r s w).2.2.wire = w.wire ++ es ∧ Timed timeout (finishAtEnd keep r s w).1 es := by
  unfold finishAtEnd
  split
  · refine ⟨[], (List.append_nil _).symm, .inTime nofun ?_⟩
    rintro c ⟨⟩
    exact replyBreak_isTimeout s _
  · exact timed_finish timeout _ _ _ s w

theorem Ending.timed {stream : StreamId} {keep ended : Bool} {r : Http.Reader} {st : Http.Reader.Standing} {s : Session}
    {w : Recorded ν} {a : Option Break × Session × Recorded ν} (c : Ending stream keep ended r st s w a) :
    ∃ es, a.2.2.wire = w.wire ++ es ∧ Timed s.timeout a.1 es := by
  cases c with
  | complete => exact timed_finish _ _ _ _ s w
  | switched =>
    refine ⟨[], (List.append_nil _).symm, .inTime nofun ?_⟩
    rintro c ⟨⟩
    rfl
  | broken =>
    refine ⟨[], (List.append_nil _).symm, .inTime nofun ?_⟩
    rintro c ⟨⟩
    exact replyBreak_isTimeout s _
  | silent => exact timed_finishAtEnd _ _ _ s w
  | @closed s w w' _ read =>
    obtain ⟨es, hwire, htimed⟩ := timed_finishAtEnd s.timeout keep r s w'
    refine ⟨.read stream s.readSize (.ok []) :: es, ?_, htimed.after (inTime_reads stream s.readSize [[]])⟩
    rw [hwire, (Recorded.read_eq read).2, List.append_assoc]
    rfl
  | failed _ read =>
    exact ⟨_, (Recorded.read_eq read).2, (breaksOff_read _ _ _).timed_last rfl⟩

theorem Receipt.timed {stream : StreamId} {keep ended : Bool} {r : Http.Reader} {s : Session} {w : Recorded ν}
    {a : Option Break × Session × Recorded ν} (c : Receipt stream keep ended r s w a) :
    ∃ es, a.2.2.wire = w.wire ++ es ∧ Timed s.timeout a.1 es := by
  cases c with
  | interrupted path _ _ obeyed =>
    refine ⟨_, path.wire, .inTime (inTime_reads _ _ _) ?_⟩
    rintro c ⟨⟩
    exact obey_isTimeout obeyed
  | @heard reads mid t a path _ _ obeyed ending =>
    obtain ⟨es, hwire, htimed⟩ := ending.timed
    have htimeout : t.timeout = s.timeout := timeout_of_options (options_obey obeyed)
    rw [show (t.counting _).timeout = s.timeout from htimeout] at htimed
    refine ⟨_, ?_, htimed.after (inTime_reads stream s.readSize reads)⟩
    rw [hwire, path.wire, List.append_assoc]

theorem Course.timed {u : Url} {stream : StreamId} {surplus : Bytes} {ended : Bool} {s : Session} {w : Recorded ν}
    {a : Option Break × Session × Recorded ν} (c : Course u stream surplus ended s w a) :
    ∃ es, a.2.2.wire = w.wire ++ es ∧ Timed s.timeout a.1 es := by
  cases c with
  | refused =>
    refine ⟨[], (List.append_nil _).symm, .inTime nofun ?_⟩
    rintro c ⟨⟩
    rfl
  | @unsent out done rest p f mid w' _ _ path last =>
    refine ⟨WireEvent.writes stream done ++ [.write stream p (.error f)], ?_,
      ((breaksOff_write s.timeout f).timed_last rfl).after (inTime_writes stream done)⟩
    rw [(Recorded.write_eq last).2, path.wire, List.append_assoc]
  | withdrawn _ path =>
    refine ⟨_, path.wire, .inTime (inTime_writes _ _) ?_⟩
    rintro c ⟨⟩
    rfl
  | @answered out _ _ _ path _ receipt =>
    obtain ⟨es, hwire, htimed⟩ := receipt.timed
    refine ⟨WireEvent.writes stream out.pieces ++ es, ?_, htimed.after (inTime_writes _ _)⟩
    rw [hwire, path.wire, List.append_assoc]

/-- The break that is left of opening a stream. -/
def broke? : Except Break StreamId → Option Break
  | .ok _ => none
  | .error b => some b

omit [Network ν] in
theorem Dials.timed {o : Origin} {s : Session} {x : Except Break StreamId} {es : List WireEvent} (h : Dials o s x es) :
    Timed s.timeout (broke? x) es := by
  have hconnect (id : StreamId) : InTime [.connect o.host (.int o.port) (.float s.timeout) (.ok id)] :=
    inTime_of_faultless (by simp [WireEvent.fault?])
  cases h with
  | unconnected f => exact (breaksOff_connect o s.timeout f).timed_last rfl
  | plain id => exact .calm (hconnect id)
  | secured bare id =>
    have hsecure : InTime [.secure bare o.host (.float s.timeout) s.verifyTls (.ok id)] :=
      inTime_of_faultless (by simp [WireEvent.fault?])
    exact .calm ((hconnect bare).append hsecure)
  | @unsecured bare f b fault =>
    have hsecure : Timed s.timeout (some b)
        [.secure bare o.host (.float s.timeout) s.verifyTls (.error f), .close bare] :=
      (breaksOff_secure fault).timed rfl (by simp)
    exact hsecure.after (hconnect bare)
  | @abandoned bare f fault =>
    have hsecure : InTime [.secure bare o.host (.float s.timeout) s.verifyTls (.error f)] :=
      inTime_singleton rfl (isTimeout_of_unhandled fault)
    refine .inTime ((hconnect bare).append hsecure) ?_
    rintro c ⟨⟩
    rfl

omit [Network ν] in
theorem inTime_parting (s : Session) : InTime s.parting := inTime_of_faultless fun e he => by
  obtain ⟨l, -, rfl⟩ := List.mem_map.1 he
  rfl

theorem Anew.timed {u : Url} {s : Session} {w : Recorded ν} {a : Option Break × Session × Recorded ν}
    (c : Anew u s w a) : ∃ es, a.2.2.wire = w.wire ++ es ∧ Timed s.timeout a.1 es := by
  cases c with
  | unopened opening =>
    obtain ⟨es, hwire, hdials, -⟩ := opening.dials
    exact ⟨_, hwire, hdials.timed.after (inTime_parting s)⟩
  | opened opening course =>
    obtain ⟨es, hwire, hdials, -⟩ := opening.dials
    obtain ⟨fs, hwire', htimed⟩ := course.timed
    rw [timeout_of_options opening.options] at htimed
    refine ⟨s.parting ++ es ++ fs, ?_, htimed.after ((inTime_parting s).append ?_)⟩
    · rw [hwire', hwire, List.append_assoc]
    · cases hdials.timed with
      | inTime calls => exact calls

/-- **What breaks a transfer off, if a call of it times out, and if none does.**  No second attempt follows a timeout. -/
theorem Attempt.timed {u : Url} {s : Session} {w : Recorded ν} {a : Option Break × Session × Recorded ν}
    (c : Attempt u s w a) : ∃ es, a.2.2.wire = w.wire ++ es ∧ Timed s.timeout a.1 es := by
  cases c with
  | fresh _ anew => exact anew.timed
  | reused _ course _ => exact course.timed
  | repeated _ course stale _ anew =>
    obtain ⟨es, hwire, hfirst⟩ := course.timed
    obtain ⟨fs, hwire', hsecond⟩ := anew.timed
    rw [timeout_of_options course.options] at hsecond
    refine ⟨es ++ fs, ?_, hsecond.after ?_⟩
    · rw [hwire', hwire, List.append_assoc]
    · generalize hb : some (Break.failed _ _) = b at hfirst
      cases hfirst with
      | inTime calls => exact calls
      | @late _ _ _ before after =>
        have hstale := timedOut_isStale s.timeout before after
        rw [← Option.some.inj hb] at hstale
        exact nomatch stale.symm.trans hstale

end Session
end Transport
