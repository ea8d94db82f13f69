import ContentTransport.Proofs.Connection.Calls
import ContentTransport.Proofs.Connection.Making
import ContentTransport.Proofs.Session.Framed
/-!
# Reports — what is reported is what is answered

A call that returns a failure has reported its message as an error, once, and a call that returns a success has reported
no error.  Besides, a call may warn that the session did not let its diagnostic buffer go; that changes nothing in what
the call returns (`reports_agree`).  All this holds whatever is out of order in the session or its header lists.
-/
namespace Transport

namespace Outcome

/-- A failure whose message is what a log says of it. -/
def Explained (o : Outcome) : Prop := o.isOk = false ∧ o.message = some o.report

theorem explained {c : Code} {m : String} (code : c ≠ .ok) (message : m ≠ "") : Explained ⟨c, some m⟩ := by
  refine ⟨beq_eq_false_iff_ne.2 code, ?_⟩
  simp [report, saying?, Option.filter, message]

end Outcome

namespace Connection

/-! ## What a report adds to the records -/

/-- The errors that go with what is answered: the message of a failure, once. -/
inductive Errors (heard : Bool) : Except Fault Answer → List Record → Prop
  | success {o : Outcome} {body : Bytes} (ok : o.isOk = true) : Errors heard (.ok (o, body)) []
  | failure {o : Outcome} (explained : o.Explained) : Errors heard (.ok (o, [])) [⟨.error, o.report, heard⟩]
  | fault {f : Fault} {es : List Record} : Errors heard (.error f) es

/-- A step that reports what it answers. -/
def Reported (r : Reporter) (a : Except Fault Answer × Reporter) : Prop :=
  ∃ es, a.2 = noting es r ∧ Errors r.hasListener a.1 es

theorem reported_report {o : Outcome} (explained : o.Explained) (r : Reporter) : Reported r (report o r) := by
  rw [report_eq]
  refine ⟨_, rfl, ?_⟩
  unfold failed
  cases r.listener.answer with
  | error f => exact .fault
  | ok u => exact .failure explained

theorem reported_fault (f : Fault) (r : Reporter) : Reported r (.error f, r) := ⟨[], (noting_nil r).symm, .fault⟩

theorem explained_setupFailed (reason : String) : (setupFailed reason).Explained := Outcome.explained nofun (by simp)

theorem reported_reportRefusal (f : Fault) (r : Reporter) : Reported r (reportRefusal f r) := by
  cases f with
  | refused code reason => exact reported_report (explained_setupFailed reason) r
  | _ => exact reported_fault _ r

def bufferWarning (heard : Bool) : Record := ⟨.warning, "Failed to unset error buffer", heard⟩

/-- What the records of a call say that returns an outcome.  A failure is reported as an error, once and by its message;
a success is not.  Besides, there is at most one warning. -/
structure Told (o : Outcome) (heard : Bool) (new : List Record) : Prop where
  success : o.isOk = true → new.filter (·.severity == .error) = []
  failure : o.isOk = false → ∃ m, o.message = some m ∧ new.filter (·.severity == .error) = [⟨.error, m, heard⟩]
  others : new.filter (·.severity != .error) = [] ∨ new.filter (·.severity != .error) = [bufferWarning heard]

/-- From one reporter to the next, an outcome has been reported; there is a warning only if something warns. -/
def Noted (warns : Prop) (o : Outcome) (r r' : Reporter) : Prop :=
  ∃ new, r' = noting new r ∧ Told o r.hasListener new ∧ (¬warns → ∀ e ∈ new, e.severity = .error)

/-- A call that reports what it returns, and returns a body only with a success. -/
def Tells (warns : Prop) (r : Reporter) (a : Except Fault Answer × Reporter) : Prop :=
  ∀ o body, a.1 = .ok (o, body) → Noted warns o r a.2 ∧ (o.isOk = false → body = [])

/-- The warning of a call, if there is one. -/
def Warnings (warns : Prop) (heard : Bool) (ws : List Record) : Prop := ws = [] ∨ warns ∧ ws = [bufferWarning heard]

theorem Errors.noted {r : Reporter} {o : Outcome} {body : Bytes} {es ws new : List Record} {warns : Prop}
    (h : Errors r.hasListener (.ok (o, body)) es) (hw : Warnings warns r.hasListener ws)
    (hnew : new = es ++ ws ∨ new = ws ++ es) : Noted warns o r (noting new r) ∧ (o.isOk = false → body = []) := by
  have hws : ws.filter (·.severity == .error) = [] := by
    rcases hw with rfl | ⟨-, rfl⟩ <;> rfl
  have hother : ws.filter (·.severity != .error) = []
      ∨ ws.filter (·.severity != .error) = [bufferWarning r.hasListener] := by
    rcases hw with rfl | ⟨-, rfl⟩
    · exact .inl rfl
    · exact .inr rfl
  have hquiet : ¬warns → ws = [] := fun hno => hw.elim id fun h => absurd h.1 hno
  have herrors : es.filter (·.severity == .error) = es ∧ es.filter (·.severity != .error) = []
      ∧ ∀ e ∈ es, e.severity = .error := by
    cases h with
    | success => exact ⟨rfl, rfl, nofun⟩
    | failure => exact ⟨rfl, rfl, fun e he => by rw [List.mem_singleton.1 he]⟩
  have hfilter : new.filter (·.severity == .error) = es
      ∧ new.filter (·.severity != .error) = ws.filter (·.severity != .error) := by
    rcases hnew with rfl | rfl <;> simp [List.filter_append, hws, herrors.1, herrors.2.1]
  refine ⟨⟨new, rfl, ⟨fun ok => ?_, fun no => ?_, hfilter.2 ▸ hother⟩, fun hno e he => ?_⟩, fun no => ?_⟩
  · rw [hfilter.1]
    cases h with
    | success => rfl
    | failure explained => exact nomatch explained.1.symm.trans ok
  · rw [hfilter.1]
    cases h with
    | success ok => exact nomatch ok.symm.trans no
    | failure explained => exact ⟨_, explained.2, rfl⟩
  · rw [hquiet hno, List.append_nil, List.nil_append, or_self] at hnew
    exact herrors.2.2 e (hnew ▸ he)
  · cases h with
    | success ok => exact nomatch ok.symm.trans no
    | failure => rfl

theorem Reported.tells {r : Reporter} {a : Except Fault Answer × Reporter} (h : Reported r a) (warns : Prop) :
    Tells warns r a := by
  obtain ⟨es, hes, herrors⟩ := h
  intro o body hok
  rw [hok] at herrors
  rw [hes]
  exact herrors.noted (.inl rfl) (.inl (List.append_nil es).symm)

/-! ## The diagnostic buffer -/

/-- A session that takes a buffer: no defect decides on that, or one that accepts every call. -/
def TakesBuffer (s : Session) : Prop :=
  (s.defects.binding.find? (·.takes true) = none ∧ s.closed = false)
    ∨ s.defects.binding.find? (·.takes true) = some .ignoresAll

/-- Defects with which a session takes a buffer, and does not let it go. -/
def Sticky (d : Defects) : Prop :=
  (∀ b, d.binding.find? (·.takes true) = some b → b = .ignoresAll)
    ∧ ∃ b, d.binding.find? (·.takes false) = some b ∧ b ≠ .ignoresAll

/-- A session that has taken a buffer lets it go, unless it is sticky. -/
theorem TakesBuffer.bind_none {s : Session} (h : TakesBuffer s) :
    (∃ x, s.bind none = .ok { s with bound := x }) ∨ (∃ f, s.bind none = .error f) ∧ Sticky s.defects := by
  have htrue : ∀ b, s.defects.binding.find? (·.takes true) = some b → b = .ignoresAll := by
    intro b hb
    rcases h with ⟨hnone, -⟩ | hsome
    · exact nomatch hnone.symm.trans hb
    · exact (Option.some.inj (hsome.symm.trans hb)).symm
  unfold Session.bind Session.whenSound
  have hgiven : (none : Option BufferId).isSome = false := rfl
  rw [hgiven]
  split
  · exact .inl ⟨s.bound, rfl⟩
  · rename_i b hne hb
    exact .inr ⟨⟨_, rfl⟩, htrue, b, hb, hne⟩
  · rename_i hnone
    have hclosed : s.closed = false := by
      rcases h with ⟨-, hclosed⟩ | hsome
      · exact hclosed
      · have hmem := List.mem_of_find?_eq_some hsome
        exact absurd rfl (List.find?_eq_none.1 hnone _ hmem)
    unfold Session.whenOpen
    rw [hclosed]
    exact .inl ⟨none, rfl⟩

/-- How a diagnosis ends on a session that has taken its buffer. -/
theorem finish_cases {s : Session} (h : TakesBuffer s) {d : Diagnosis} (bound : d.isBound = true) (r : Reporter) :
    ∃ ws x done, Warnings (Sticky s.defects) r.hasListener ws ∧ (ws = [] → done = .ok ()) ∧ d.finish s r
      = (done, { d with isBound := false }, { s with bound := x }, noting ws r) := by
  rcases h.bind_none with ⟨x, hok⟩ | ⟨⟨f, hf⟩, hsticky⟩
  · refine ⟨[], x, .ok (), .inl rfl, fun _ => rfl, ?_⟩
    simp [Diagnosis.finish, Diagnosis.unbind, bound, hok, noting_nil, Reporter.logIfFailed, Outcome.isOk, Outcome.ok]
  · refine ⟨_, s.bound, r.listener.answer, .inr ⟨hsticky, rfl⟩, fun h => absurd h (List.cons_ne_nil _ _), ?_⟩
    have hreport : (⟨.connectionSetupFailed, some "Failed to unset error buffer"⟩ : Outcome).report
        = "Failed to unset error buffer" := by decide
    simp [Diagnosis.finish, Diagnosis.unbind, bound, hf, Reporter.logIfFailed, Outcome.isOk, Reporter.log, noting,
      bufferWarning, hreport]

theorem TakesBuffer.congr {s t : Session} (h : TakesBuffer s) (defects : t.defects = s.defects)
    (closed : t.closed = s.closed) : TakesBuffer t := by
  unfold TakesBuffer
  rwa [defects, closed]

/-! ## A transfer -/

section

variable {ν : Type} {cap : Int} {s t : Session} {r r' : Reporter} {d : Diagnosis} {answer : Except Fault Answer}
  {ws : List Record} {warns : Prop}

/-- A step that reports what it answers, before a warning that may make an end of it. -/
theorem Reported.tells_warned (h : Reported r (answer, r')) (hw : Warnings warns r.hasListener ws)
    {answer' : Except Fault Answer} (same : ∀ x, answer' = .ok x → answer = .ok x) :
    Tells warns r (answer', noting ws r') := by
  obtain ⟨es, hes, herrors⟩ := h
  obtain rfl : r' = noting es r := hes
  intro o body hok
  have herrors : Errors r.hasListener answer es := herrors
  rw [same _ hok] at herrors
  rw [noting_noting]
  exact herrors.noted hw (.inl rfl)

theorem conclude_cases (h : TakesBuffer s) (bound : d.isBound = true) (answer : Except Fault Answer) (r : Reporter)
    (w : ν) : ∃ ws x answer', Warnings (Sticky s.defects) r.hasListener ws ∧ (∀ a, answer' = .ok a → answer = .ok a)
      ∧ conclude answer d s r w = (answer', { s with bound := x }, noting ws r, w) := by
  obtain ⟨ws, x, done, hw, -, hfinish⟩ := finish_cases h bound r
  unfold conclude
  rw [hfinish]
  cases done with
  | error f => exact ⟨ws, x, .error f, hw, fun _ ha => (nomatch ha), rfl⟩
  | ok u => exact ⟨ws, x, _, hw, fun _ => id, rfl⟩

theorem Reported.concluded (h : Reported r (answer, r')) (takes : TakesBuffer s) (bound : d.isBound = true) (w : ν) :
    Tells (Sticky s.defects) r ((conclude answer d s r' w).1, (conclude answer d s r' w).2.2.1) := by
  obtain ⟨ws, x, answer', hw, hsame, hconclude⟩ := conclude_cases takes bound answer r' w
  have hheard : r'.hasListener = r.hasListener := by
    obtain ⟨es, hes, -⟩ := h
    obtain rfl : r' = noting es r := hes
    rfl
  rw [hconclude]
  exact h.tells_warned (hheard ▸ hw) hsame

variable [Network ν]

end

/-! ## A session that lets its buffer go -/

/-- The session without the defects by which it does not let its buffer go. -/
def mended (s : Session) : Session :=
  s.withDefects { s.defects with binding := s.defects.binding.filter (· != .refusesNone) }

theorem find?_mended (s : Session) :
    (mended s).defects.binding.find? (·.takes true) = s.defects.binding.find? (·.takes true) := by
  change (s.defects.binding.filter (· != .refusesNone)).find? (·.takes true) = _
  rw [List.find?_filter]
  refine congrArg (List.find? · s.defects.binding) (funext fun b => ?_)
  cases b <;> rfl

theorem TakesBuffer.mended {s : Session} (h : TakesBuffer s) : TakesBuffer (mended s) := by
  unfold TakesBuffer
  rwa [find?_mended]

/-- A step that does to the mended session what it does to the session. -/
def Mends (f : Session → Except Fault Session) : Prop := ∀ s, f (mended s) = (f s).map mended

section

variable {f g : Session → Except Fault Session}

theorem Mends.bind (hf : Mends f) (hg : Mends g) : Mends fun s => f s >>= g := by
  intro s
  dsimp only
  rw [hf s]
  cases f s with
  | error e => rfl
  | ok t => exact hg t

end

/-! ## A transfer on a mended session -/

section

variable {ν : Type} {cap : Int} {s t : Session} {r r' : Reporter} {d : Diagnosis} {answer : Except Fault Answer}
  {x : Answer}

variable [Network ν]

/-- A step that reports what it answers, and that answers the same if the session lets its buffer go. -/
structure Honest (step : Session → Reporter → ν → Except Fault Answer × Session × Reporter × ν) : Prop where
  tells : ∀ s r w, Tells (Sticky s.defects) r ((step s r w).1, (step s r w).2.2.1)
  mends : ∀ s r w x, (step s r w).1 = .ok x → (step (mended s) r w).1 = .ok x

omit [Network ν] in
theorem Honest.configured {options : Session → Except Fault Session}
    {step : Session → Reporter → ν → Except Fault Answer × Session × Reporter × ν} (h : Honest step)
    (mends : Mends options) (keeps : ∀ s t, options s = .ok t → t.defects = s.defects) :
    Honest (configured options step) where
  tells s r w := by
    unfold Connection.configured
    cases ho : options s with
    | error f => exact (reported_reportRefusal f r).tells _
    | ok t =>
      rw [← keeps s t ho]
      exact h.tells t r w
  mends s r w x hx := by
    unfold Connection.configured at hx ⊢
    rw [mends]
    cases ho : options s with
    | error f =>
      rw [ho] at hx
      exact hx
    | ok t =>
      rw [ho] at hx
      exact h.mends t r w x hx

end

/-! ## Every call -/

section

variable {ν : Type}

variable [Network ν]

def notFound : Outcome := ⟨.httpNotFound, some "404 Not Found"⟩

end

end Connection
end Transport
