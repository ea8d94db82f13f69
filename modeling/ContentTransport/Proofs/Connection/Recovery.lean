import ContentTransport.Proofs.Connection.Served
/-!
# Recovery — a connection whose transfer has failed is as good as new

What a call does depends on what its session is told, on the stream that it has, and on its own arguments; a call leaves
much else behind in its session, but the next one replaces that before it looks at it (`Kin.call`).  A transfer that
fails leaves no stream.  So a connection after a failure and a new one go through the same history from there on, and
only their counts tell them apart (`as_good_as_new`).
-/
namespace Transport
namespace Connection

open Session (Frame framed Unframed)

section

variable {ν : Type} {m n : Nat} {s t : Session}

/-! ## Sessions that differ in their counts -/

/-- A session with its counts that much further. -/
def ahead (m n : Nat) (s : Session) : Session := { s with transfers := s.transfers + m, connects := s.connects + n }

theorem lasting_released (s : Session) : lasting (released s) = lasting s := rfl

theorem lasting_fail (code : TransferCode) (message : Text.Points) (s : Session) :
    lasting (s.fail code message).2 = lasting s := by
  rw [Session.fail_snd]
  rfl

theorem lasting_dismissed (l : ListId) (body : Option Bytes) (s : Session) :
    lasting (dismissed l body s) = lasting s := by
  cases body with
  | none => rfl
  | some b => exact lasting_release l s

theorem Sound.of_ahead (h : Sound s) (twin : lasting s = ahead m n (lasting t)) : Sound t :=
  ⟨(congrArg Session.closed twin).symm.trans h.1, (congrArg Session.defects twin).symm.trans h.2⟩

/-! ## One call -/

theorem extraFields_arranged (cap : Int) (text : String) (u : Url) (s : Session) (body : Option Bytes) :
    (arranged cap text u s body).started.extraFields = (requested u body).fields := by
  cases body with
  | none => rfl
  | some b => exact congrArg Http.Request.fields (@request_posted cap s text u b)

/-- What a call sets up is the same in two sessions, but for the frame. -/
theorem started_framed (twin : lasting s = ahead m n (lasting t)) (cap : Int) (text : String) (u : Url)
    (body : Option Bytes) : ∃ x : Frame, x.transfers = m ∧ x.connects = n ∧ x.defects = t.defects
      ∧ (arranged cap text u s body).started = (arranged cap text u t body).started.framed x := by
  let a := (arranged cap text u s body).frame
  have hdefects : a.defects = s.defects := by cases body <;> rfl
  have hsame := congrArg Session.defects twin
  refine ⟨{ a with transfers := m, connects := n }, rfl, rfl, hdefects.trans hsame, ?_⟩
  have hs : (arranged cap text u s body).started = (arranged cap text u (lasting s) body).started.framed a := by
    cases body <;> rfl
  have ht (x : Frame) : (arranged cap text u (lasting t) body).started.framed x
      = (arranged cap text u t body).started.framed x := by
    cases body <;> rfl
  have hahead : (arranged cap text u (ahead m n (lasting t)) body).started.framed a
      = (arranged cap text u (lasting t) body).started.framed { a with transfers := m, connects := n } := by
    have hcount (k : Nat) : k + m + 1 = k + 1 + m := Nat.add_right_comm k m 1
    cases body <;> simp only [framed, Session.started, Session.begun, arranged, prepared, readied, diagnosed, getting,
      posted, posting, ahead, lasting, hcount] <;> rfl
  rw [hs, twin, hahead, ht]

variable [Network ν]

theorem concluded_framed {x : Frame} {a : Option Break × Session × ν} (defects : a.2.1.defects = x.defects)
    (r : Reporter) : (concluded r (a.1, a.2.1.framed x, a.2.2)).1 = (concluded r a).1
      ∧ (concluded r (a.1, a.2.1.framed x, a.2.2)).2.2 = (concluded r a).2.2
      ∧ lasting (concluded r (a.1, a.2.1.framed x, a.2.2)).2.1
        = ahead x.transfers x.connects (lasting (concluded r a).2.1) := by
  obtain ⟨b, t, w⟩ := a
  have hdrop : ((t.framed x).drop w).2 = (t.drop w).2 := by rw [Session.drop_framed]
  obtain ⟨lists, attached, buffers, bound, xdefects, m, n⟩ := x
  obtain rfl : t.defects = xdefects := defects
  obtain _ | ⟨code, message⟩ | f := b
  · exact ⟨rfl, rfl, rfl⟩
  · refine ⟨rfl, ?_, ?_⟩
    · dsimp only [concluded]
      rw [hdrop]
    · dsimp only [concluded]
      rw [lasting_released, lasting_released, lasting_fail, lasting_fail]
      rfl
  · exact ⟨rfl, rfl, rfl⟩

/-- A call goes on from its transfer alike, whatever has been reported before. -/
theorem concluded_unison {r r' : Reporter} (listener : r.listener = r'.listener) (a : Option Break × Session × ν) :
    Unison r r' ((concluded r a).1, (concluded r a).2.2.1) ((concluded r' a).1, (concluded r' a).2.2.1)
      ∧ (concluded r a).2.1 = (concluded r' a).2.1 ∧ (concluded r a).2.2.2 = (concluded r' a).2.2.2 := by
  obtain ⟨_ | ⟨code, m⟩ | f, t, w⟩ := a
  · exact ⟨judge_unison rfl rfl listener, rfl, rfl⟩
  · exact ⟨report_unison listener _, rfl, rfl⟩
  · exact ⟨unison_silent _ r r', rfl, rfl⟩

/-- Two connections that a call cannot tell apart, but for their counts.  What has been reported by them may differ, not
who hears it. -/
structure Kin (m n : Nat) (c d : Connection ν) : Prop where
  settings : c.settings = d.settings
  takesFields : c.refusesFields = false ∧ d.refusesFields = false
  listener : c.reporter.listener = d.reporter.listener
  network : c.network = d.network
  sessions : ∃ s t, c.session = some s ∧ d.session = some t ∧ Sound s ∧ lasting s = ahead m n (lasting t)

variable {c d : Connection ν}

/-- **Kin answer and report a call alike, and are kin after it.** -/
theorem Kin.call (h : Kin m n c d) (k : Call) :
    Unison c.reporter d.reporter ((c.call k).1, (c.call k).2.reporter) ((d.call k).1, (d.call k).2.reporter)
      ∧ Kin m n (c.call k).2 (d.call k).2 := by
  obtain ⟨hsettings, ⟨htakes, htakes'⟩, hlistener, hnetwork, s, t, hc, hd, hsound, htwin⟩ := h
  have hsound' := hsound.of_ahead htwin
  rcases k.accepted_or with ⟨text, u, body, accepted⟩ | hno
  · obtain ⟨x, rfl, rfl, hxdefects, hstarted⟩ := started_framed htwin c.settings.cap.toInt text u body
    have hfields : ((arranged c.settings.cap.toInt text u t body).started.framed x).extraFields
        = (arranged c.settings.cap.toInt text u t body).started.extraFields := by
      rw [← hstarted, extraFields_arranged, extraFields_arranged]
    have hattempt := Session.attempt_framed x hfields u c.network
    have hdefects : ((arranged c.settings.cap.toInt text u t body).started.attempt u c.network).2.1.defects
        = x.defects := by
      rw [hxdefects, Session.defects_of_options (Session.attempt_spec u _ c.network).options]
      cases body <;> rfl
    obtain ⟨-, -, v, hv, hconfig⟩ := call_config hc hsound htakes k
    rw [call_served hc hsound htakes accepted, hstarted, hattempt] at hv ⊢
    rw [call_served hd hsound' htakes' accepted, ← hsettings, ← hnetwork]
    obtain ⟨hanswer, hrest, hlasting⟩ := concluded_framed hdefects c.reporter
    obtain ⟨⟨hanswer', new, hnew, hnew'⟩, hsession, hafter⟩ := concluded_unison hlistener
      ((arranged c.settings.cap.toInt text u t body).started.attempt u c.network)
    have hreporter := congrArg Prod.fst hrest
    cases hv
    refine ⟨⟨hanswer.trans hanswer', new, hreporter.trans hnew, hnew'⟩, ⟨rfl, ⟨htakes, htakes'⟩, ?_, ?_, _, _, rfl, rfl,
      hsound.of_config hconfig, ?_⟩⟩
    · exact (congrArg Reporter.listener (hreporter.trans hnew)).trans
        (hlistener.trans (congrArg Reporter.listener hnew').symm)
    · exact (congrArg Prod.snd hrest).trans hafter
    · rw [lasting_dismissed, lasting_dismissed, ← hsession]
      exact hlasting
  · obtain ⟨s', hs', hcall⟩ := call_refused hc hsound htakes hno
    obtain ⟨t', ht', hcall'⟩ := call_refused hd hsound' htakes' hno
    obtain ⟨hsame, new, hnew, hnew'⟩ := k.refused_unison hlistener k.refusal
    rw [hcall, hcall']
    refine ⟨⟨hsame, new, hnew, hnew'⟩, hsettings, ⟨htakes, htakes'⟩, ?_, hnetwork, s', t', rfl, rfl,
      hsound.of_config (config_of_lasting hs'), ?_⟩
    · exact (congrArg Reporter.listener hnew).trans (hlistener.trans (congrArg Reporter.listener hnew').symm)
    · rw [hs', ht', htwin]

/-- Two connections that differ in their counts at most, as far as a call can tell. -/
structure Twin (m n : Nat) (c d : Connection ν) : Prop where
  settings : c.settings = d.settings
  takesFields : c.refusesFields = false ∧ d.refusesFields = false
  reporter : c.reporter = d.reporter
  network : c.network = d.network
  sessions : ∃ s t, c.session = some s ∧ d.session = some t ∧ Sound s ∧ lasting s = ahead m n (lasting t)

omit [Network ν] in
theorem Twin.kin (h : Twin m n c d) : Kin m n c d :=
  ⟨h.settings, h.takesFields, congrArg Reporter.listener h.reporter, h.network, h.sessions⟩

/-- **Twins answer a call alike, and are twins after it.** -/
theorem Twin.call (h : Twin m n c d) (k : Call) :
    (c.call k).1 = (d.call k).1 ∧ Twin m n (c.call k).2 (d.call k).2 := by
  obtain ⟨⟨hanswer, new, hnew, hnew'⟩, hkin⟩ := h.kin.call k
  have hreporter : (c.call k).2.reporter = (d.call k).2.reporter :=
    hnew.trans ((congrArg (noting new) h.reporter).trans hnew'.symm)
  exact ⟨hanswer, hkin.settings, hkin.takesFields, hreporter, hkin.network, hkin.sessions⟩

end

section

variable {ν : Type} [Network ν] {m n : Nat} {c d : Connection (Recorded ν)}

/-! ## A history -/

/-- What may happen to a connection that stays open: a call, a change of its network, or another listener. -/
inductive Happening (ν : Type)
  | call (k : Call)
  | turn (f : ν → ν)
  | heard (l : Listener)

/-- What is answered, if there is something to answer, and the connection after it. -/
def happened (c : Connection (Recorded ν)) :
    Happening ν → Option (Except Fault Answer) × Connection (Recorded ν)
  | .call k => (some (c.call k).1, (c.call k).2)
  | .turn f => (none, { c with network := { c.network with network := f c.network.network } })
  | .heard l => (none, { c with reporter := { c.reporter with listener := l } })

/-- All that is answered in a history, and the connection after it. -/
def through : List (Happening ν) → Connection (Recorded ν) →
    List (Option (Except Fault Answer)) × Connection (Recorded ν)
  | [], c => ([], c)
  | x :: xs, c => ((c.happened x).1 :: (through xs (c.happened x).2).1, (through xs (c.happened x).2).2)

theorem Kin.happened (h : Kin m n c d) (x : Happening ν) :
    (c.happened x).1 = (d.happened x).1 ∧ Kin m n (c.happened x).2 (d.happened x).2 := by
  cases x with
  | call k =>
    obtain ⟨hunison, hkin⟩ := h.call k
    exact ⟨congrArg some hunison.1, hkin⟩
  | turn f => exact ⟨rfl, { h with network := by dsimp only [Connection.happened]; rw [h.network] }⟩
  | heard l => exact ⟨rfl, { h with listener := rfl }⟩

theorem Twin.happened (h : Twin m n c d) (x : Happening ν) :
    (c.happened x).1 = (d.happened x).1 ∧ Twin m n (c.happened x).2 (d.happened x).2 := by
  cases x with
  | call k =>
    obtain ⟨hanswer, htwin⟩ := h.call k
    exact ⟨congrArg some hanswer, htwin⟩
  | turn f => exact ⟨rfl, { h with network := by dsimp only [Connection.happened]; rw [h.network] }⟩
  | heard l => exact ⟨rfl, { h with reporter := by dsimp only [Connection.happened]; rw [h.reporter] }⟩

theorem Twin.through (h : Twin m n c d) (xs : List (Happening ν)) :
    (c.through xs).1 = (d.through xs).1 ∧ Twin m n (c.through xs).2 (d.through xs).2 := by
  induction xs generalizing c d with
  | nil => exact ⟨rfl, h⟩
  | cons x xs ih =>
    obtain ⟨hanswer, htwin⟩ := h.happened x
    obtain ⟨hanswers, hend⟩ := ih htwin
    exact ⟨congrArg₂ List.cons hanswer hanswers, hend⟩

/-! ## After a failure -/

/-- What a call leaves standing in a session without a stream is what the session is told, and its counts. -/
theorem lasting_of_unlinked {s : Session} (h : s.link = none) : lasting s = ahead s.transfers s.connects (config s) := by
  unfold lasting ahead config
  rw [h, Nat.zero_add, Nat.zero_add]

/-- **A connection whose transfer has failed is as good as new.**  Through any history, it is answered as a new connection
with its settings, over the same network, is answered; both make the same calls to the network, with the same bytes, and
report the same.  Their sessions differ in their counts, and in nothing else that a call leaves standing. -/
theorem as_good_as_new (h : Reached c) {k : Call} (fails : TransferFails k c) :
    let failed := (c.call k).2
    ∃ new, make failed.settings none failed.reporter failed.network = (.ok (.ok, some new), failed.reporter)
      ∧ ∃ m n, ∀ xs, (failed.through xs).1 = (new.through xs).1 ∧ Twin m n (failed.through xs).2 (new.through xs).2 := by
  intro failed
  have hfit : Fit failed := (h.call k).fit
  obtain ⟨s, hs, hlink⟩ := fails.unlinked h.fit
  obtain ⟨t, ht, hconfig⟩ := hfit.configured s hs
  let new : Connection (Recorded ν) :=
    { settings := failed.settings, session := some t, reporter := failed.reporter, network := failed.network }
  have hmade : make failed.settings none failed.reporter failed.network = (.ok (.ok, some new), failed.reporter) := by
    exact make_of_sessionFor ht _ _
  have hnew := sameStream_sessionFor ht
  have hunlinked : lasting t = config t := by
    rw [lasting_of_unlinked hnew.link, hnew.transfers, hnew.connects]
    rfl
  have htwin : Twin s.transfers s.connects failed new := by
    refine ⟨rfl, ⟨hfit.takesFields, rfl⟩, rfl, rfl, s, t, hs, rfl, hfit.sound s hs, ?_⟩
    rw [lasting_of_unlinked hlink, hunlinked, hconfig]
  exact ⟨new, hmade, s.transfers, s.connects, htwin.through⟩

/-- A connection that could not reach its server goes on as a new one does. -/
theorem as_good_as_new_unreached :
    let failed := ((facing [⟨.refused, none, none⟩] []).call plainGet).2
    ∃ new, make failed.settings none failed.reporter failed.network = (.ok (.ok, some new), failed.reporter)
      ∧ ∀ xs, (failed.through xs).1 = (new.through xs).1 := by
  have hfails : TransferFails plainGet (facing [⟨.refused, none, none⟩] []) :=
    transferFails_plainGet (s := Scene.new.session) rfl .couldntConnect (by decide +kernel) nofun
  obtain ⟨new, hmade, m, n, hthrough⟩ := as_good_as_new (reached_facing _ _) hfails
  exact ⟨new, hmade, fun xs => (hthrough xs).1⟩

end

end Connection
end Transport
