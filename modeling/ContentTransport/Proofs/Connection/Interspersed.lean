import ContentTransport.Proofs.Connection.Recovery
/-!
# Interspersed — rejected calls leave no trace

A call that is rejected for its arguments may have set its session up for a request by then: the method and the body are
its own, and the URL is still that of another call.  Every call that makes a transfer sets all of that anew before its
transfer looks at it, and the stream is left alone.  So among the calls of any history there may be as many rejected
ones as one likes, and garbled ones, and the others go as they would without them (`rejected_leave_no_trace`).
-/
namespace Transport
namespace Connection

/-! ## Rejected calls -/

/-- A URL that no transfer can be made to: one that is empty, that is no text, that is not understood, or whose scheme
is not spoken. -/
inductive Unusable : Value → Prop
  | empty {url : Value} (empty : url.truth = false) : Unusable url
  | noText {url : Value} (noText : ∀ text, url ≠ .text text) : Unusable url
  | misread {text : String} {f : UrlFault} (misread : Url.parse text = .error f) : Unusable (.text text)
  | unspoken {text : String} {u : Url} (parses : Url.parse text = .ok u)
    (unspoken : u.origin.scheme ≠ "http" ∧ u.origin.scheme ≠ "https") : Unusable (.text text)

/-- A call that is rejected for its URL, or for a body that is neither a text nor bytes.  A post with a URL looks at its
body first, so one that is garbled is not among them, whatever its URL is. -/
inductive Call.Rejected : Call → Prop
  | get {url : Value} (unusable : Unusable url) : Rejected (.get url)
  | empty {url : Value} {body : Body} (empty : url.truth = false) : Rejected (.post url body)
  | post {url : Value} {body : Body} {b : Bytes} (unusable : Unusable url) (bytes : bodyBytes? body = .ok (some b)) :
    Rejected (.post url body)
  | body {url : Value} {body : Body} (noBytes : bodyBytes? body = .ok none) : Rejected (.post url body)

theorem speaks_eq_false {scheme : String} :
    Session.speaks scheme = false ↔ scheme ≠ "http" ∧ scheme ≠ "https" := by
  simp [Session.speaks]

theorem unusable_iff {url : Value} : Unusable url ↔ ∀ text u, ¬Aims url text u := by
  constructor
  · rintro (hempty | hno | hmisread | ⟨hparses, hunspoken⟩) text u ⟨hgiven, hparses', hspeaks⟩
    · rw [(⟨hgiven, hparses', hspeaks⟩ : Aims url text u).truth] at hempty
      cases hempty
    · exact hno text hgiven
    · cases hgiven
      cases hmisread.symm.trans hparses'
    · cases hgiven
      cases hparses.symm.trans hparses'
      exact Bool.false_ne_true ((speaks_eq_false.2 hunspoken).symm.trans hspeaks)
  · intro hno
    cases url with
    | text text =>
      cases hparses : Url.parse text with
      | error f => exact .misread hparses
      | ok u =>
        refine .unspoken hparses (speaks_eq_false.1 (Bool.eq_false_iff.2 fun hspeaks => ?_))
        exact hno text u ⟨rfl, hparses, hspeaks⟩
    | _ => exact .noText nofun

/-- A rejected call is answered: its body, if it has one, can be written. -/
theorem Call.Rejected.clear {k : Call} (h : k.Rejected) : k.garbling? = none := by
  cases h with
  | get unusable => rfl
  | empty empty => simp [Call.garbling?, empty]
  | post unusable bytes => simp [Call.garbling?, bytes]
  | body noBytes => simp [Call.garbling?, noBytes]

theorem Call.Rejected.not_accepted {k : Call} (h : k.Rejected) (text : String) (u : Url) (body : Option Bytes) :
    ¬k.Accepted text u body := by
  intro accepted
  cases accepted with
  | get aims =>
    cases h with
    | get unusable => exact unusable_iff.1 unusable text u aims
  | post aims bytes =>
    cases h with
    | empty empty => exact unusable_iff.1 (.empty empty) text u aims
    | post unusable => exact unusable_iff.1 unusable text u aims
    | body noBytes => cases noBytes.symm.trans bytes

/-- A call that is not accepted is rejected, or garbled. -/
theorem Call.rejected_or_garbled {k : Call} (refused : ∀ text u body, ¬k.Accepted text u body) :
    k.Rejected ∨ ∃ f, k.garbling? = some f := by
  cases k with
  | get url => exact .inl (.get (unusable_iff.2 fun text u aims => refused text u none (.get aims)))
  | post url body =>
    cases htruth : url.truth with
    | false => exact .inl (.empty htruth)
    | true =>
      rcases hbytes : bodyBytes? body with f | _ | b
      · exact .inr ⟨f, by simp [Call.garbling?, htruth, hbytes]⟩
      · exact .inl (.body hbytes)
      · exact .inl (.post (unusable_iff.2 fun text u aims => refused text u (some b) (.post aims hbytes)) hbytes)

theorem Call.isOk_refusal (k : Call) : k.refusal.isOk = false := by
  cases k with
  | get url =>
    simp only [Call.refusal]
    split <;> rfl
  | post url body =>
    simp only [Call.refusal]
    split
    · split <;> rfl
    · rfl

/-! ## Two runs -/

section

variable {ν : Type}

/-- A step of a history with insertions: one of its own, or a call that is inserted. -/
inductive Step (ν : Type)
  | own (x : Happening ν)
  | inserted (k : Call)

/-- Two connections that have come equally far: the calls that they have made to their networks are the same, with the
same answers, as is what the networks have in store, and they have made as many transfers. -/
structure Abreast (c d : Connection (Recorded ν)) : Prop where
  network : c.network = d.network
  transfers : c.session.map (·.transfers) = d.session.map (·.transfers)

variable [Network ν]

/-- A run of a history, and beside it one with the insertions.  The runs are abreast before and after every step.  A
step of their own is answered alike in both; an inserted call, which only the second makes, is a failure, or breaks off
because it is garbled. -/
inductive Beside : Connection (Recorded ν) → Connection (Recorded ν) → List (Step ν) → Prop
  | done {c d : Connection (Recorded ν)} (abreast : Abreast c d) : Beside c d []
  | own {c d : Connection (Recorded ν)} {x : Happening ν} {ss : List (Step ν)} (abreast : Abreast c d)
    (answer : (c.happened x).1 = (d.happened x).1) (rest : Beside (c.happened x).2 (d.happened x).2 ss) :
    Beside c d (.own x :: ss)
  | inserted {c d : Connection (Recorded ν)} {k : Call} {o : Outcome} {ss : List (Step ν)} (abreast : Abreast c d)
    (failure : o.isOk = false) (answer : (d.call k).1 = failed o d.reporter) (rest : Beside c (d.call k).2 ss) :
    Beside c d (.inserted k :: ss)
  | garbled {c d : Connection (Recorded ν)} {k : Call} {f : Fault} {ss : List (Step ν)} (abreast : Abreast c d)
    (garbled : k.garbling? = some f) (answer : (d.call k).1 = .error f) (rest : Beside c (d.call k).2 ss) :
    Beside c d (.inserted k :: ss)

variable {c d : Connection (Recorded ν)} {m n : Nat}

omit [Network ν] in
theorem Kin.abreast (h : Kin 0 0 c d) : Abreast c d := by
  obtain ⟨s, t, hc, hd, -, hlasting⟩ := h.sessions
  refine ⟨h.network, ?_⟩
  rw [hc, hd]
  have htransfers := congrArg Session.transfers hlasting
  exact congrArg some htransfers

/-- A rejected call fails, and makes its connection no stranger to its kin. -/
theorem Kin.rejected (h : Kin m n c d) {k : Call} (rejected : k.Rejected) :
    (d.call k).1 = failed k.refusal d.reporter ∧ Kin m n c (d.call k).2 := by
  obtain ⟨s, t, hc, hd, hsound, hlasting⟩ := h.sessions
  have hcall := call_rebuffed hd (hsound.of_ahead hlasting) h.takesFields.2 rejected.not_accepted
  rw [Call.refused, rejected.clear, report_eq] at hcall
  rw [hcall]
  refine ⟨rfl, h.settings, h.takesFields, h.listener, h.network, s, _, hc, rfl, hsound, ?_⟩
  rw [lasting_rebuffed, hlasting]

theorem Kin.beside (h : Kin 0 0 c d) {ss : List (Step ν)}
    (rejected : ∀ k, .inserted k ∈ ss → k.Rejected ∨ ∃ f, k.garbling? = some f) : Beside c d ss := by
  induction ss generalizing c d with
  | nil => exact .done h.abreast
  | cons s ss ih =>
    have hrest (k : Call) (hk : .inserted k ∈ ss) := rejected k (List.mem_cons_of_mem _ hk)
    cases s with
    | own x =>
      obtain ⟨hanswer, hkin⟩ := h.happened x
      exact .own h.abreast hanswer (ih hkin hrest)
    | inserted k =>
      rcases rejected k List.mem_cons_self with hrejected | ⟨f, hgarbled⟩
      · obtain ⟨hanswer, hkin⟩ := h.rejected hrejected
        exact .inserted h.abreast k.isOk_refusal hanswer (ih hkin hrest)
      · have hcall : d.call k = (.error f, d) := call_garbled hgarbled
        have hbeside : Beside c (d.call k).2 ss := by
          rw [hcall]
          exact ih h hrest
        exact .garbled h.abreast hgarbled (congrArg Prod.fst hcall) hbeside

end

section

end

end Connection
end Transport
