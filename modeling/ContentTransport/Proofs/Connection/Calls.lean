import ContentTransport.Proofs.Connection.Answer
import ContentTransport.Proofs.Session.Run
/-!
# Calls — what a call makes of its session

A call that is accepted sets the session up, makes one transfer with it, and takes down what it has set up; a call that
is not accepted makes no transfer.  Neither touches the stream otherwise.  What the transfer requests is what the call
gives, whatever earlier calls have left in the session (`called`).
-/
namespace Transport
namespace Connection

open Session (SameStream)

section

variable {ν : Type} [Network ν] {cap : Int} {s t : Session} {r : Reporter} {w : ν}

/-! ## The session of a call -/

/-- The session as a transfer finds it. -/
def readied (cap : Int) (s : Session) : Session :=
  { s with receiver := some (.capped cap Receiver.abort), collects := true, inbox := {} }

/-- The session as a transfer leaves it. -/
def released (s : Session) : Session := { settled s with bound := none }

theorem transferWith_eq {d : Diagnosis} (h : Sound s) (hd : d.isBound = true) (r : Reporter) :
    transferWith cap d s r w = match (readied cap s).perform w with
      | (.error f, t, w) => (.error f, released t, r, w)
      | (.ok code, t, w) =>
        let (answer, r) := if code == .ok then judge (released t) r
          else report (Outcome.ofTransfer code (d.text (settled t))) r
        (answer, released t, r, w) := by
  have hsound : Sound ((readied cap s).perform w).2.1 := sound_perform (s := readied cap s) h w
  have hready : ready cap s = .ok (readied cap s) := ready_eq h
  unfold transferWith
  rw [hready]
  dsimp only
  generalize (readied cap s).perform w = a at hsound
  obtain ⟨f | code, t, v⟩ := a
  · simp only [conclude, finish_eq (s := settled t) hsound hd]
    rfl
  · by_cases hok : (code == .ok) = true
    · simp only [hok, if_true, finish_eq (s := settled t) hsound hd]
      rfl
    · simp only [hok, conclude, finish_eq (s := settled t) hsound hd]
      rfl

/-- The session with the buffer of a new diagnosis. -/
def diagnosed (s : Session) : Session :=
  { s with buffers := s.buffers ++ [Session.blankBuffer], bound := some s.buffers.length }

/-- A URL that a session takes: a text that it understands, in a scheme that it speaks. -/
structure Aims (url : Value) (text : String) (u : Url) : Prop where
  given : url = .text text
  parses : Url.parse text = .ok u
  speaks : Session.speaks u.origin.scheme = true

theorem Aims.truth {url : Value} {text : String} {u : Url} (h : Aims url text u) : url.truth = true := by
  rw [h.given]
  exact truth_of_parses h.parses

theorem Aims.unique {url : Value} {text text' : String} {u u' : Url} (h : Aims url text u) (h' : Aims url text' u') :
    text = text' ∧ u = u' := by
  obtain ⟨rfl, hparses, -⟩ := h
  obtain ⟨hgiven, hparses', -⟩ := h'
  cases hgiven
  rw [hparses] at hparses'
  cases hparses'
  exact ⟨rfl, rfl⟩

theorem setUrl_aims {url : Value} (h : s.setUrl url = .ok t) :
    ∃ text u, Aims url text u ∧ t = { s with url := some (text, u) } := by
  obtain ⟨-, h⟩ := Session.whenOpen_ok h
  cases url with
  | text text =>
    dsimp only at h
    cases hparses : Url.parse text with
    | error f =>
      rw [hparses] at h
      cases h
    | ok u =>
      rw [hparses] at h
      cases hspeaks : Session.speaks u.origin.scheme with
      | false => simp [hspeaks] at h
      | true =>
        simp only [hspeaks, if_true] at h
        cases h
        exact ⟨text, u, ⟨rfl, hparses, hspeaks⟩, rfl⟩
  | _ => cases h

/-- A transfer to a URL: without one that the session takes, nothing happens to the session and its network. -/
theorem transfer_error {url : Value} {f : Fault} (h : s.setUrl url = .error f) (r : Reporter) (w : ν) :
    transfer cap url s r w = ((reportRefusal f r).1, s, (reportRefusal f r).2, w) := by
  unfold transfer
  rw [h]

theorem transfer_ok {url : Value} (hs : Sound s) (h : s.setUrl url = .ok t) (r : Reporter) (w : ν) :
    transfer cap url s r w = transferWith cap { buffer := t.buffers.length } (diagnosed t) r w := by
  obtain ⟨text, u, -, rfl⟩ := setUrl_aims h
  have hsound : Sound { s with url := some (text, u) } := hs
  unfold transfer
  rw [h]
  dsimp only
  rw [begin_eq hsound]
  rfl

/-- The session as the transfer of a call finds it. -/
def prepared (cap : Int) (text : String) (u : Url) (s : Session) : Session :=
  readied cap (diagnosed { s with url := some (text, u) })

theorem transferWith_after {d : Diagnosis} (h : Sound s) (hd : d.isBound = true) (r : Reporter) :
    (transferWith cap d s r w).2.1 = released ((readied cap s).perform w).2.1
      ∧ (transferWith cap d s r w).2.2.2 = ((readied cap s).perform w).2.2 := by
  rw [transferWith_eq h hd]
  rcases (readied cap s).perform w with ⟨f | code, t, v⟩ <;> exact ⟨rfl, rfl⟩

/-- What a transfer to a URL does to the session and its network. -/
theorem transfer_after (cap : Int) (hs : Sound s) (url : Value) (r : Reporter) (w : ν) :
    (∃ text u, Aims url text u ∧ (transfer cap url s r w).2.1 = released ((prepared cap text u s).perform w).2.1
        ∧ (transfer cap url s r w).2.2.2 = ((prepared cap text u s).perform w).2.2)
      ∨ ((∀ text u, ¬Aims url text u) ∧ (transfer cap url s r w).2.1 = s ∧ (transfer cap url s r w).2.2.2 = w) := by
  cases hset : s.setUrl url with
  | ok t =>
    obtain ⟨text, u, haims, rfl⟩ := setUrl_aims hset
    have hsound : Sound (diagnosed { s with url := some (text, u) }) := hs
    rw [transfer_ok hs hset]
    exact .inl ⟨text, u, haims, transferWith_after hsound rfl r⟩
  | error f =>
    refine .inr ⟨fun text u haims => ?_, ?_⟩
    · rw [haims.given, setUrl_eq hs haims.parses haims.speaks] at hset
      cases hset
    · rw [transfer_error hset]
      exact ⟨rfl, rfl⟩

/-! ## Calls -/

/-- The session as a get sets it up. -/
def getting (s : Session) : Session := { s with method := .get, body := [], attached := none }

/-- The session as a post sets it up. -/
def posted (b : Bytes) (s : Session) : Session := posting { s with method := .post, body := b }

theorem get_eq {c : Connection ν} (hc : c.session = some s) (hs : Sound s) {url : Value}
    (truth : url.truth = true) : c.get url =
      let a := transfer c.settings.cap.toInt url (getting s) c.reporter c.network
      (a.1, { c with session := some a.2.1, reporter := a.2.2.1, network := a.2.2.2 }) := by
  have hset : (do (← s.setMethodGet).setHeaders none : Except Fault Session) = .ok (getting s) := by
    simp [Session.setMethodGet, Session.setHeaders, Session.whenOpen, hs.1, bind, Except.bind, getting]
  simp only [get, truth, withSession, hc, configured, hset, Bool.not_true, Bool.false_eq_true, if_false]

theorem post_eq {c : Connection ν} (hc : c.session = some s) (hs : Sound s) (takes : c.refusesFields = false)
    {url : Value} {body : Body} {b : Bytes} (truth : url.truth = true) (bytes : bodyBytes? body = .ok (some b)) :
    c.post url body =
      let a := transfer c.settings.cap.toInt url (posted b s) c.reporter c.network
      (a.1, { c with session := some (a.2.1.release s.lists.length), reporter := a.2.2.1, network := a.2.2.2 }) := by
  have hset : s.setMethodPost (.bytes b) = .ok { s with method := .post, body := b } := by
    simp [Session.setMethodPost, Session.whenOpen, hs.1, Value.bytes?]
  have hattach := attach_eq (s := { s with method := .post, body := b }) hs.1
  simp only [Session.newList] at hattach
  simp only [post, truth, bytes, takes, withSession, hc, configured, hset, postWith, Session.newList, hattach,
    Option.isSome_some, Bool.not_true, Bool.false_eq_true, if_false, if_true]
  rfl

/-- A call that is accepted, and the body that it posts, if it posts one. -/
inductive Call.Accepted (text : String) (u : Url) : Option Bytes → Call → Prop
  | get {url : Value} (aims : Aims url text u) : Accepted text u none (.get url)
  | post {url : Value} {body : Body} {b : Bytes} (aims : Aims url text u) (bytes : bodyBytes? body = .ok (some b)) :
    Accepted text u (some b) (.post url body)

theorem Call.Accepted.unique {k : Call} {text text' : String} {u u' : Url} {body body' : Option Bytes}
    (h : k.Accepted text u body) (h' : k.Accepted text' u' body') : text = text' ∧ u = u' ∧ body = body' := by
  cases h with
  | get aims =>
    cases h' with
    | get aims' =>
      obtain ⟨htext, hu⟩ := aims.unique aims'
      exact ⟨htext, hu, rfl⟩
  | post aims bytes =>
    cases h' with
    | post aims' bytes' =>
      obtain ⟨htext, hu⟩ := aims.unique aims'
      exact ⟨htext, hu, Except.ok.inj (bytes.symm.trans bytes')⟩

theorem Call.accepted_or (k : Call) :
    (∃ text u body, k.Accepted text u body) ∨ ∀ text u body, ¬k.Accepted text u body := by
  by_cases h : ∃ text u body, k.Accepted text u body
  · exact .inl h
  · exact .inr fun text u body accepted => h ⟨text, u, body, accepted⟩

/-- The request of an accepted call. -/
def requested (u : Url) : Option Bytes → Http.Request
  | none => { method := .get, host := u.origin.hostField, target := u.target, fields := [], body := [] }
  | some b => { method := .post, host := u.origin.hostField, target := u.target, fields := [contentLine], body := b }

/-- What a call does to a session and its network. -/
inductive Called (k : Call) (s : Session) (w : ν) : Session → ν → Prop
  | refused {t : Session} (refused : ∀ text u body, ¬k.Accepted text u body) (same : s.SameStream t) : Called k s w t w
  | made {text : String} {u : Url} {body : Option Bytes} {t t' : Session} (accepted : k.Accepted text u body)
    (same : s.SameStream t) (url : t.url = some (text, u)) (request : t.request u = requested u body)
    (left : (t.perform w).2.1.SameStream t') (status : t'.status = (t.perform w).2.1.status) :
    Called k s w t' (t.perform w).2.2

theorem Sound.same (h : Sound s) (same : s.SameStream t) : Sound t :=
  ⟨same.closed.trans h.1, same.defects.trans h.2⟩

theorem sameStream_released (s : Session) : s.SameStream (released s) := ⟨rfl, rfl, rfl, rfl, rfl, id⟩

theorem called_get {url : Value} (hs : Sound s) (r : Reporter) (w : ν) :
    Called (.get url) s w (transfer cap url (getting s) r w).2.1 (transfer cap url (getting s) r w).2.2.2 := by
  have hsound : Sound (getting s) := hs
  rcases transfer_after cap hsound url r w with ⟨text, u, haims, hsession, hnetwork⟩ | ⟨hno, hsession, hnetwork⟩
  · rw [hsession, hnetwork]
    exact .made (.get haims) ⟨rfl, rfl, rfl, rfl, rfl, nofun⟩ rfl rfl (sameStream_released _) rfl
  · rw [hsession, hnetwork]
    refine .refused (fun text u body h => ?_) ⟨rfl, rfl, rfl, rfl, rfl, id⟩
    cases h with
    | get aims => exact hno text u aims

theorem sameStream_posted (b : Bytes) (s : Session) : s.SameStream (posted b s) :=
  ⟨rfl, rfl, rfl, rfl, rfl, id⟩

theorem request_posted {text : String} {u : Url} {b : Bytes} :
    (prepared cap text u (posted b s)).request u = requested u (some b) := by
  have hfields : (prepared cap text u (posted b s)).extraFields = [contentLine] := by
    simp [Session.extraFields, prepared, readied, diagnosed, posted, posting, HeaderList.fields]
  unfold Session.request
  rw [hfields]
  rfl

theorem status_release (id : ListId) (s : Session) : (s.release id).status = s.status := by
  unfold Session.release
  split <;> rfl

theorem called_post {url : Value} {body : Body} {b : Bytes} (hs : Sound s) (bytes : bodyBytes? body = .ok (some b))
    (l : ListId) (r : Reporter) (w : ν) : Called (.post url body) s w ((transfer cap url (posted b s) r w).2.1.release l)
      (transfer cap url (posted b s) r w).2.2.2 := by
  have hsound : Sound (posted b s) := hs
  rcases transfer_after cap hsound url r w with ⟨text, u, haims, hsession, hnetwork⟩ | ⟨hno, hsession, hnetwork⟩
  · rw [hsession, hnetwork]
    refine .made (.post haims bytes) ⟨rfl, rfl, rfl, rfl, rfl, nofun⟩ rfl request_posted ?_ (status_release _ _)
    exact (sameStream_released _).trans (Session.sameStream_release l _)
  · rw [hsession, hnetwork]
    refine .refused (fun text u body' h => ?_) ?_
    · cases h with
      | post aims => exact hno text u aims
    · exact (sameStream_posted b s).trans (Session.sameStream_release l _)

/-- **A call on an open connection makes one transfer, with its own request, or none.** -/
theorem called {c : Connection ν} (hc : c.session = some s) (hs : Sound s) (takes : c.refusesFields = false) (k : Call) :
    (c.call k).2.refusesFields = false
      ∧ ∃ t, (c.call k).2.session = some t ∧ Called k s c.network t (c.call k).2.network := by
  have hidle (hno : ∀ text u body, ¬k.Accepted text u body) {a : Except Fault Answer × Reporter}
      (h : c.call k = c.answerWith a) : (c.call k).2.refusesFields = false
        ∧ ∃ t, (c.call k).2.session = some t ∧ Called k s c.network t (c.call k).2.network := by
    rw [h]
    exact ⟨takes, s, hc, .refused hno (.refl s)⟩
  cases k with
  | get url =>
    cases htruth : url.truth with
    | false =>
      refine hidle (fun text u body h => ?_) (a := report noUrl c.reporter) (by simp [call, get, htruth])
      cases h with
      | get aims =>
        rw [aims.truth] at htruth
        cases htruth
    | true =>
      have hget : c.call (.get url) = c.get url := rfl
      rw [hget, get_eq hc hs htruth]
      exact ⟨takes, _, rfl, called_get hs _ _⟩
  | post url body =>
    cases htruth : url.truth with
    | false =>
      refine hidle (fun text u b h => ?_) (a := report noUrl c.reporter) (by simp [call, post, htruth])
      cases h with
      | post aims =>
        rw [aims.truth] at htruth
        cases htruth
    | true =>
      have hno (none : ∀ b, bodyBytes? body ≠ .ok (some b)) (text : String) (u : Url) (b : Option Bytes) :
          ¬(Call.post url body).Accepted text u b := by
        rintro (_ | ⟨_, bytes⟩)
        exact none _ bytes
      rcases hbytes : bodyBytes? body with f | _ | b
      · refine hidle (hno (by simp [hbytes])) (a := (.error f, c.reporter)) ?_
        simp [call, post, htruth, hbytes, answerWith]
      · refine hidle (hno (by simp [hbytes])) (a := report noBody c.reporter) ?_
        simp [call, post, htruth, hbytes]
      · have hpost : c.call (.post url body) = c.post url body := rfl
        rw [hpost, post_eq hc hs takes htruth hbytes]
        exact ⟨takes, _, rfl, called_post hs hbytes _ _ _⟩

/-! ## A garbled call -/

/-- The fault that a call breaks off with before it does anything: that of a body which UTF-8 cannot write. -/
def Call.garbling? : Call → Option Fault
  | .get _ => none
  | .post url body =>
    match url.truth, bodyBytes? body with
    | true, .error f => some f
    | _, _ => none

/-- What a call answers that is refused with an outcome, unless it is garbled. -/
def Call.refused (k : Call) (o : Outcome) (r : Reporter) : Except Fault Answer × Reporter :=
  match k.garbling? with
  | some f => (.error f, r)
  | none => report o r

theorem Call.refused_cases (k : Call) (o : Outcome) (r : Reporter) :
    (∃ f, k.garbling? = some f ∧ k.refused o r = (.error f, r))
      ∨ k.garbling? = none ∧ k.refused o r = report o r := by
  unfold Call.refused
  cases h : k.garbling? with
  | some f => exact .inl ⟨f, rfl, rfl⟩
  | none => exact .inr ⟨rfl, rfl⟩

theorem Call.listener_refused (k : Call) (o : Outcome) (r : Reporter) : (k.refused o r).2.listener = r.listener := by
  rcases k.refused_cases o r with ⟨f, -, h⟩ | ⟨-, h⟩ <;> rw [h]
  rfl

theorem Call.refused_unison {r r' : Reporter} (k : Call) (listener : r.listener = r'.listener) (o : Outcome) :
    Unison r r' (k.refused o r) (k.refused o r') := by
  unfold Call.refused
  cases k.garbling? with
  | some f => exact unison_silent _ r r'
  | none => exact report_unison listener o

/-- **A garbled call breaks off and does nothing**, whether the connection is open or closed. -/
theorem call_garbled {c : Connection ν} {k : Call} {f : Fault} (garbled : k.garbling? = some f) :
    c.call k = (.error f, c) := by
  cases k with
  | get url => cases garbled
  | post url body =>
    cases htruth : url.truth with
    | false => simp [Call.garbling?, htruth] at garbled
    | true =>
      rcases hbytes : bodyBytes? body with g | b
      · obtain rfl : g = f := by simpa [Call.garbling?, htruth, hbytes] using garbled
        simp [call, post, htruth, hbytes]
      · simp [Call.garbling?, htruth, hbytes] at garbled

theorem Call.Accepted.clear {k : Call} {text : String} {u : Url} {body : Option Bytes} (h : k.Accepted text u body) :
    k.garbling? = none := by
  cases h with
  | get aims => rfl
  | post aims bytes => simp [Call.garbling?, aims.truth, bytes]

/-! ## A closed connection -/

/-- The header lists that a call makes, as it leaves them. -/
def Call.lists : Call → List HeaderList
  | .get _ => []
  | .post url body =>
    match url.truth, bodyBytes? body with
    | true, .ok (some _) => [⟨none, false, 1⟩]
    | _, _ => []

theorem release_contentList : contentList.release = ⟨none, false, 1⟩ := by
  simp [contentList, HeaderList.add, HeaderList.release, field?_contentType]

/-- What a call on a closed connection is refused with. -/
def Call.closedRefusal (refusesFields : Bool) : Call → Outcome
  | .get url => if url.truth then setupFailed "Connection is closed" else noUrl
  | .post url body =>
    if url.truth then
      match bodyBytes? body with
      | .ok (some _) => if refusesFields then HeaderList.refusal else setupFailed "Connection is closed"
      | _ => noBody
    else noUrl

/-- **A call on a closed connection is refused**, and does nothing but make its header list. -/
theorem call_closed_eq {c : Connection ν} (hc : c.session = none) (k : Call) : c.call k
    = ({ c with strays := c.strays ++ k.lists } : Connection ν).answerWith
        (k.refused (k.closedRefusal c.refusesFields) c.reporter) := by
  obtain ⟨settings, session, reporter, network, refusesFields, strays⟩ := c
  obtain rfl : session = none := hc
  cases k with
  | get url =>
    cases htruth : url.truth <;>
      simp [call, get, withSession, htruth, Call.lists, Call.refused, Call.garbling?, Call.closedRefusal]
  | post url body =>
    cases htruth : url.truth with
    | false => simp [call, post, htruth, Call.lists, Call.refused, Call.garbling?, Call.closedRefusal]
    | true =>
      rcases hbytes : bodyBytes? body with f | _ | b
      · simp [call, post, htruth, hbytes, Call.lists, Call.refused, Call.garbling?, answerWith]
      · simp [call, post, htruth, hbytes, Call.lists, Call.refused, Call.garbling?, Call.closedRefusal]
      · cases refusesFields with
        | true =>
          simp [call, post, htruth, hbytes, Call.lists, Call.refused, Call.garbling?, Call.closedRefusal, stray,
            HeaderList.release]
        | false =>
          simp [call, post, htruth, hbytes, withSession, Call.lists, Call.refused, Call.garbling?, Call.closedRefusal,
            stray, release_contentList]

/-- A call on a closed connection does nothing to its network. -/
theorem call_closed {c : Connection ν} (hc : c.session = none) (k : Call) : (c.call k).2.session = none
    ∧ (c.call k).2.network = c.network ∧ (c.call k).2.refusesFields = c.refusesFields := by
  rw [call_closed_eq hc]
  exact ⟨hc, rfl, rfl⟩

end

end Connection
end Transport
