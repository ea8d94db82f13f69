import ContentTransport.Proofs.Connection.Double
import ContentTransport.Proofs.Connection.Interspersed
/-!
# Rejections — which calls a connection rejects, and which its double rejects

The same calls are made on a connection and on its double, and both are closed at the same times.  The connection makes
no transfer for a call that lacks a URL or a body, for one with a URL that its session does not take, and once it is
closed.  The double looks for the first of these alone: it answers every other call with the next reply of its script,
whatever the URL is, and also when it is closed (`double_rejects_exactly`).  A garbled call breaks off alike on both.
-/
namespace Transport

namespace Session

variable {ν : Type} [Network ν]

/-- The exchanges of a transfer count as one transfer. -/
theorem Attempt.transfers {u : Url} {s : Session} {w : Recorded ν} {a : Option Break × Session × Recorded ν}
    (c : Attempt u s w a) : a.2.1.transfers = s.transfers := by
  have hcourse {l : Link} {surplus : Bytes} {ended : Bool} {b : Option Break × Session × Recorded ν}
      (usable : s.reusable? u.origin w = some (l, surplus, ended)) (course : Course u l.stream surplus ended s w b) :
      b.2.1.transfers = s.transfers := by
    obtain ⟨es, h⟩ := course.conversed (usable_link usable).1
    exact congrArg Prod.fst h.counts
  cases c with
  | fresh _ anew =>
    obtain ⟨id, es, h⟩ := anew.restarted
    exact h.transfers
  | reused usable course => exact hcourse usable course
  | repeated usable course _ _ anew =>
    obtain ⟨id, es, h⟩ := anew.restarted
    have ht := hcourse usable course
    exact h.transfers.trans ht

theorem transfers_perform {text : String} {u : Url} {s : Session} (opened : s.closed = false)
    (url : s.url = some (text, u)) (w : Recorded ν) : (s.perform w).2.1.transfers = s.transfers + 1 := by
  have hattempt := (attempt_spec u s.started w).transfers
  rw [perform_of_open opened url]
  generalize s.started.attempt u w = a at hattempt ⊢
  obtain ⟨_ | ⟨code, m⟩ | f, t, v⟩ := a
  · exact hattempt
  · dsimp only
    rw [fail_snd]
    exact hattempt
  · exact hattempt

end Session

namespace Connection

/-- A call without a URL, or with a body that is neither a text nor bytes. -/
inductive Call.Lacking : Call → Prop
  | get {url : Value} (empty : url.truth = false) : Lacking (.get url)
  | post {url : Value} {body : Body} (empty : url.truth = false) : Lacking (.post url body)
  | body {url : Value} {body : Body} (noBytes : bodyBytes? body = .ok none) : Lacking (.post url body)

/-- What a call is answered that lacks something. -/
def Call.lack : Call → Outcome
  | .get _ => noUrl
  | .post url _ => if url.truth then noBody else noUrl

theorem Call.Lacking.rejected {k : Call} (h : k.Lacking) : k.Rejected := by
  cases h with
  | get empty => exact .get (.empty empty)
  | post empty => exact .empty empty
  | body noBytes => exact .body noBytes

theorem Call.Lacking.refusal {k : Call} (h : k.Lacking) : k.refusal = k.lack ∧ k.closedRefusal false = k.lack := by
  cases h with
  | get empty => simp [Call.refusal, Call.closedRefusal, Call.lack, empty]
  | post empty => simp [Call.refusal, Call.closedRefusal, Call.lack, empty]
  | @body url body noBytes => cases h : url.truth <;> simp [Call.refusal, Call.closedRefusal, Call.lack, noBytes, h]

/-- A call that lacks nothing and is not garbled. -/
structure Call.Whole (k : Call) : Prop where
  full : ¬k.Lacking
  clear : k.garbling? = none

/-- Such a call is a get with a URL, or a post with a URL and the bytes of a body. -/
theorem Call.Whole.shape {k : Call} (h : k.Whole) : (∃ url, k = .get url ∧ url.truth = true)
    ∨ ∃ url body b, k = .post url body ∧ url.truth = true ∧ bodyBytes? body = .ok (some b) := by
  cases k with
  | get url =>
    cases htruth : url.truth with
    | false => exact absurd (.get htruth) h.full
    | true => exact .inl ⟨url, rfl, htruth⟩
  | post url body =>
    cases htruth : url.truth with
    | false => exact absurd (.post htruth) h.full
    | true =>
      rcases hbytes : bodyBytes? body with f | _ | b
      · have hclear := h.clear
        simp [Call.garbling?, htruth, hbytes] at hclear
      · exact absurd (.body hbytes) h.full
      · exact .inr ⟨url, body, b, rfl, htruth, hbytes⟩

theorem Call.Whole.refusal {k : Call} (h : k.Whole) : (∃ reason, k.refusal = setupFailed reason)
    ∧ k.closedRefusal false = setupFailed "Connection is closed" := by
  rcases h.shape with ⟨url, rfl, htruth⟩ | ⟨url, body, b, rfl, htruth, hbytes⟩
  · exact ⟨⟨urlRefusal url, by simp [Call.refusal, htruth]⟩, by simp [Call.closedRefusal, htruth]⟩
  · exact ⟨⟨urlRefusal url, by simp [Call.refusal, htruth, hbytes]⟩, by simp [Call.closedRefusal, htruth, hbytes]⟩

/-- A call lacks something, is garbled, or is neither. -/
theorem Call.lacking_or (k : Call) : k.Lacking ∨ (∃ f, k.garbling? = some f) ∨ k.Whole := by
  by_cases hk : k.Lacking
  · exact .inl hk
  · cases hgarbled : k.garbling? with
    | some f => exact .inr (.inl ⟨f, rfl⟩)
    | none => exact .inr (.inr ⟨hk, hgarbled⟩)

end Connection

namespace ScriptedConnection

open Connection (failed noting report_eq)

/-- What a double answers when its script is used up. -/
def exhausted : Outcome := ⟨.connectionUnexpectedError, some "No scripted response left"⟩

theorem call_lacking {k : Connection.Call} (h : k.Lacking) (d : ScriptedConnection) (r : Reporter) :
    d.call k r = ((Connection.report k.lack r).1, d, (Connection.report k.lack r).2) := by
  cases h with
  | get empty => simp [call, get, refuse, empty, Connection.Call.lack]
  | post empty => simp [call, post, refuse, empty, Connection.Call.lack]
  | @body url body noBytes =>
    cases h : url.truth <;> simp [call, post, refuse, noBytes, h, Connection.Call.lack]

theorem call_whole {k : Connection.Call} (h : k.Whole) (d : ScriptedConnection) (r : Reporter) :
    ∃ q, d.call k r = d.respond q r := by
  rcases h.shape with ⟨url, rfl, htruth⟩ | ⟨url, body, b, rfl, htruth, hbytes⟩
  · exact ⟨{ method := .get, url := url }, by simp [call, get, htruth]⟩
  · exact ⟨{ method := .post, url := url, body := some b }, by simp [call, post, htruth, hbytes]⟩

theorem listener_call (k : Connection.Call) (d : ScriptedConnection) (r : Reporter) :
    (d.call k r).2.2.listener = r.listener := by
  rcases k.lacking_or with hk | ⟨f, hgarbled⟩ | hk
  · rw [call_lacking hk]
    rfl
  · rw [call_garbled hgarbled]
  · obtain ⟨q, hq⟩ := call_whole hk d r
    rw [hq]
    unfold respond
    dsimp only
    split
    · rfl
    · exact listener_answerTo _ _ r

end ScriptedConnection

namespace Connection

section

variable {ν : Type} [Network ν]

/-! ## The same on both -/

/-- What is done with a connection. -/
inductive Doing
  | call (k : Call)
  | close

/-- A connection and a double, with the reporter of each. -/
structure Pair (ν : Type) where
  real : Connection (Recorded ν)
  double : ScriptedConnection
  reporter : Reporter

def Pair.after (p : Pair ν) : Doing → Pair ν
  | .call k => { real := (p.real.call k).2, double := (p.double.call k p.reporter).2.1,
                 reporter := (p.double.call k p.reporter).2.2 }
  | .close => { p with real := p.real.close, double := p.double.close }

def Pair.run (ds : List Doing) (p : Pair ν) : Pair ν := ds.foldl Pair.after p

/-- The connection answers a call without a transfer. -/
def Pair.Declines (p : Pair ν) (k : Call) : Prop :=
  (p.real.call k).2.session.map (·.transfers) = p.real.session.map (·.transfers)

omit [Network ν] in
/-- The double answers a call without a reply of its script. -/
def Pair.Spares (p : Pair ν) (k : Call) : Prop := (p.double.call k p.reporter).2.1.replies = p.double.replies

/-- What holds of a pair after the same has been done with both. -/
structure Pair.Level (l : Listener) (p : Pair ν) : Prop where
  fit : Fit p.real
  real : p.real.reporter.listener = l
  double : p.reporter.listener = l
  closed : p.double.closed = p.real.session.isNone

variable {l : Listener} {p : Pair ν}

theorem listener_call {c : Connection (Recorded ν)} (fit : Fit c) (k : Call) :
    (c.call k).2.reporter.listener = c.reporter.listener := by
  cases hc : c.session with
  | none =>
    rw [call_closed_eq hc]
    exact k.listener_refused _ _
  | some s =>
    have hkin : Kin 0 0 c c := ⟨rfl, ⟨fit.takesFields, fit.takesFields⟩, rfl, rfl, s, s, hc, hc, fit.sound s hc, rfl⟩
    obtain ⟨⟨-, new, hnew, -⟩, -⟩ := hkin.call k
    have hlistener := congrArg Reporter.listener hnew
    exact hlistener

theorem isNone_call {c : Connection (Recorded ν)} (fit : Fit c) (k : Call) :
    (c.call k).2.session.isNone = c.session.isNone := by
  cases hc : c.session with
  | none => rw [(call_closed hc k).1]
  | some s =>
    obtain ⟨-, t, ht, -⟩ := called hc (fit.sound s hc) fit.takesFields k
    rw [ht]
    rfl

theorem close_rest (c : Connection (Recorded ν)) : c.close.session = none ∧ c.close.reporter = c.reporter := by
  unfold Connection.close
  split
  · rename_i hc
    exact ⟨hc, rfl⟩
  · exact ⟨rfl, rfl⟩

omit [Network ν] in
theorem closed_respond (q : SeenRequest) (d : ScriptedConnection) (r : Reporter) :
    (d.respond q r).2.1.closed = d.closed := by
  unfold ScriptedConnection.respond
  dsimp only
  split <;> rfl

theorem Pair.Level.after (h : p.Level l) (d : Doing) : (p.after d).Level l := by
  cases d with
  | call k =>
    refine ⟨h.fit.call k, (listener_call h.fit k).trans h.real,
      (p.double.listener_call k p.reporter).trans h.double, ?_⟩
    refine Eq.trans ?_ (h.closed.trans (isNone_call h.fit k).symm)
    dsimp only [Pair.after]
    rcases k.lacking_or with hk | ⟨f, hgarbled⟩ | hk
    · rw [ScriptedConnection.call_lacking hk]
    · rw [ScriptedConnection.call_garbled hgarbled]
    · obtain ⟨q, hq⟩ := ScriptedConnection.call_whole hk p.double p.reporter
      rw [hq, closed_respond]
  | close =>
    obtain ⟨hsession, hreporter⟩ := close_rest p.real
    refine ⟨h.fit.close, (congrArg Reporter.listener hreporter).trans h.real, h.double, ?_⟩
    dsimp only [Pair.after]
    rw [hsession]
    rfl

theorem Pair.Level.run (h : p.Level l) (ds : List Doing) : (p.run ds).Level l := by
  induction ds generalizing p with
  | nil => exact h
  | cons d ds ih => exact ih (h.after d)

/-- **The connection makes no transfer** exactly if it is closed or the call is rejected or garbled. -/
theorem Pair.Level.declines_iff (h : p.Level l) (k : Call) :
    p.Declines k ↔ p.real.session = none ∨ k.Rejected ∨ ∃ f, k.garbling? = some f := by
  unfold Pair.Declines
  cases hc : p.real.session with
  | none => simp [(call_closed hc k).1]
  | some s =>
    have hsound := h.fit.sound s hc
    obtain ⟨-, t, ht, hcalled⟩ := called hc hsound h.fit.takesFields k
    rw [ht]
    generalize (p.real.call k).2.network = w at hcalled
    cases hcalled with
    | refused refused same => simp [same.transfers, Call.rejected_or_garbled refused]
    | @made text u body t' _ accepted same url request left =>
      have hperform := Session.transfers_perform (hsound.same same).1 url p.real.network
      have hcount : t.transfers = s.transfers + 1 := by rw [left.transfers, hperform, same.transfers]
      have hno : ¬(k.Rejected ∨ ∃ f, k.garbling? = some f) := by
        rintro (hrejected | ⟨f, hgarbled⟩)
        · exact hrejected.not_accepted text u body accepted
        · cases accepted.clear.symm.trans hgarbled
      simp [hcount, hno]

omit [Network ν] in
/-- **The double takes no reply** exactly if it has none or the call lacks something or is garbled. -/
theorem Pair.spares_iff (p : Pair ν) (k : Call) :
    p.Spares k ↔ p.double.replies = [] ∨ k.Lacking ∨ ∃ f, k.garbling? = some f := by
  unfold Pair.Spares
  rcases k.lacking_or with hk | ⟨f, hgarbled⟩ | hk
  · rw [ScriptedConnection.call_lacking hk]
    simp [hk]
  · rw [ScriptedConnection.call_garbled hgarbled]
    simp [hgarbled]
  · obtain ⟨q, hq⟩ := ScriptedConnection.call_whole hk p.double p.reporter
    rw [hq]
    unfold ScriptedConnection.respond
    cases hr : p.double.replies with
    | nil => simp
    | cons a as => simp [hk.full, hk.clear]

/-- What the connection answers a call that it declines. -/
theorem Pair.Level.declined (h : p.Level l) {k : Call} (declines : p.Declines k) {r : Reporter} (hr : r.listener = l) :
    (k.Lacking → (p.real.call k).1 = failed k.lack r)
      ∧ (k.Whole → ∃ reason, (p.real.call k).1 = failed (setupFailed reason) r) := by
  have hlistener : p.real.reporter.listener = r.listener := h.real.trans hr.symm
  have hrefused (clear : k.garbling? = none) (o : Outcome) : (k.refused o p.real.reporter).1 = failed o r := by
    rw [Call.refused, clear]
    exact (report_fst _ _).trans (failed_of_listener hlistener _)
  cases hc : p.real.session with
  | none =>
    have hanswer (clear : k.garbling? = none) : (p.real.call k).1 = failed (k.closedRefusal false) r := by
      rw [call_closed_eq hc, h.fit.takesFields]
      exact hrefused clear _
    exact ⟨fun hk => by rw [hanswer hk.rejected.clear, hk.refusal.2],
      fun hk => ⟨_, by rw [hanswer hk.clear, hk.refusal.2]⟩⟩
  | some s =>
    have hdeclined := ((h.declines_iff k).1 declines).resolve_left fun hn => by
      rw [hc] at hn
      cases hn
    have hanswer (clear : k.garbling? = none) : (p.real.call k).1 = failed k.refusal r := by
      have hrejected : k.Rejected := hdeclined.resolve_right (by simp [clear])
      rw [call_rebuffed hc (h.fit.sound s hc) h.fit.takesFields hrejected.not_accepted]
      exact hrefused clear _
    refine ⟨fun hk => by rw [hanswer hk.rejected.clear, hk.refusal.1], fun hk => ?_⟩
    obtain ⟨reason, hreason⟩ := hk.refusal.1
    exact ⟨reason, by rw [hanswer hk.clear, hreason]⟩

omit [Network ν] in
/-- What the double answers. -/
theorem Pair.Level.spared (h : p.Level l) {k : Call} {r : Reporter} (hr : r.listener = l) :
    (k.Lacking → (p.double.call k p.reporter).1 = failed k.lack r)
      ∧ (k.Whole → p.double.replies = [] → (p.double.call k p.reporter).1 = failed ScriptedConnection.exhausted r)
      ∧ ∀ q qs, k.Whole → p.double.replies = q :: qs → (p.double.call k p.reporter).2.1.replies = qs
        ∧ (p.double.call k p.reporter).1 = (ScriptedConnection.answerTo p.double.cap q p.reporter).1 := by
  have hlistener : p.reporter.listener = r.listener := h.double.trans hr.symm
  refine ⟨fun hk => ?_, fun hk hnil => ?_, fun q qs hk hcons => ?_⟩
  · rw [ScriptedConnection.call_lacking hk]
    exact (report_fst _ _).trans (failed_of_listener hlistener _)
  · obtain ⟨x, hx⟩ := ScriptedConnection.call_whole hk p.double p.reporter
    rw [hx]
    unfold ScriptedConnection.respond
    simp only [hnil]
    exact (report_fst _ _).trans (failed_of_listener hlistener _)
  · obtain ⟨x, hx⟩ := ScriptedConnection.call_whole hk p.double p.reporter
    rw [hx]
    unfold ScriptedConnection.respond
    simp only [hcons]
    exact ⟨trivial, trivial⟩

/-- How a connection and its double take a call after the same has been done with both. -/
structure Pair.Verdict (p : Pair ν) (ds : List Doing) (k : Call) (r : Reporter) : Prop where
  declines : p.Declines k ↔ .close ∈ ds ∨ k.Rejected ∨ ∃ f, k.garbling? = some f
  spares : p.Spares k ↔ p.double.replies = [] ∨ k.Lacking ∨ ∃ f, k.garbling? = some f
  /-- A garbled call breaks off alike on both, and does nothing to either. -/
  garbled : ∀ f, k.garbling? = some f →
    p.real.call k = (.error f, p.real) ∧ p.double.call k p.reporter = (.error f, p.double, p.reporter)
  /-- Both answer a call that lacks something alike. -/
  lacking : k.Lacking → (p.real.call k).1 = failed k.lack r ∧ (p.double.call k p.reporter).1 = failed k.lack r
  /-- Any other call without a transfer fails because it cannot be set up. -/
  declined : k.Whole → p.Declines k → ∃ reason, (p.real.call k).1 = failed (setupFailed reason) r
  /-- The double goes on to its script with any other call. -/
  exhausted : k.Whole → p.double.replies = [] →
    (p.double.call k p.reporter).1 = failed ScriptedConnection.exhausted r
  played : ∀ q qs, k.Whole → p.double.replies = q :: qs → (p.double.call k p.reporter).2.1.replies = qs
    ∧ (p.double.call k p.reporter).1 = (ScriptedConnection.answerTo p.double.cap q p.reporter).1

theorem Pair.Level.verdict {ds : List Doing} {r : Reporter} (h : p.Level r.listener)
    (closed : p.real.session = none ↔ .close ∈ ds) (k : Call) : p.Verdict ds k r where
  declines := by rw [h.declines_iff, closed]
  spares := p.spares_iff k
  garbled _ garbled := ⟨call_garbled garbled, p.double.call_garbled garbled p.reporter⟩
  lacking hk := ⟨(h.declined ((h.declines_iff k).2 (.inr (.inl hk.rejected))) rfl).1 hk, (h.spared rfl).1 hk⟩
  declined hk declines := (h.declined declines rfl).2 hk
  exhausted := (h.spared rfl).2.1
  played := (h.spared (r := r) rfl).2.2

end

end Connection
end Transport
