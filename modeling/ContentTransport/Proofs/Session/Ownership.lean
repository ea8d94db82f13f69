import ContentTransport.Proofs.Session.Run
/-!
# Ownership — whose streams are open

At every point of a run the stream of the session is the only one that may be open (`streams_owned`), so a session never
leaks one: not where a stream cannot be opened or secured, not where a transfer is made again, and not where a fault
escapes.  A transfer that fails leaves no stream open, and neither does a closed session, for which nothing is ever
connected, read or written again.  The handshakes of the run fail with faults of the system or of the runtime only, for
which the session closes the stream.
-/
namespace Transport

open ScriptedNetwork

namespace Session

def stream? (s : Session) : Option StreamId := s.link.map (·.stream)

theorem stream?_stand (c : Condition) (s : Session) : (s.stand c).stream? = s.stream? := by
  unfold stream? stand
  cases s.link <;> rfl

/-- What holds of a session and its network between two steps: no other stream is open than the one that the session
has, and the session takes the faults of the handshakes to come. -/
structure Tidy (s : Session) (w : ScriptedNetwork) : Prop where
  owns : ∀ id, isOpen id w = true → s.stream? = some id
  numbered : w.opened = List.range w.streams.length
  handled : ∀ f ∈ w.tlsFaults, f.isSystem = true ∨ f.kind = .runtime

theorem Tidy.alike {s t : Session} {w w' : ScriptedNetwork} (h : Tidy s w) (hs : t.stream? = s.stream?)
    (hw : Alike w w') : Tidy t w' where
  owns id ho := by
    rw [hs]
    exact h.owns id (by rw [← hw.isOpen]; exact ho)
  numbered := by rw [hw.opened, hw.count]; exact h.numbered
  handled f hf := h.handled f (hw.tls f hf)

theorem Tidy.none_open {s : Session} {w : Recorded ScriptedNetwork} (h : Tidy s w.network) (id : StreamId) :
    isOpen id (s.drop w).2.network = false := by
  rw [Bool.eq_false_iff]
  intro ho
  cases hl : s.link with
  | none =>
    rw [drop_of_none hl] at ho
    have hs := h.owns id ho
    rw [stream?, hl] at hs
    cases hs
  | some l =>
    rw [drop_of_some hl] at ho
    have ho : isOpen id (ScriptedNetwork.close l.stream w.network) = true := ho
    rw [isOpen_close, Bool.and_eq_true, bne_iff_ne] at ho
    have hs := h.owns id ho.1
    rw [stream?, hl, Option.map_some, Option.some.injEq] at hs
    exact ho.2 hs.symm

theorem Tidy.drop {s : Session} {w : Recorded ScriptedNetwork} (h : Tidy s w.network) (t : Session) :
    Tidy t (s.drop w).2.network where
  owns id ho := by
    rw [h.none_open id] at ho
    cases ho
  numbered := by
    obtain ⟨hopened, hcount, -⟩ := drop_rest s w
    rw [hopened, hcount]
    exact h.numbered
  handled f hf := by
    rw [(drop_rest s w).2.2.1] at hf
    exact h.handled f hf

/-! ## Through a transfer -/

theorem Tidy.finish {s : Session} {w : Recorded ScriptedNetwork} (h : Tidy s w.network) (keep ended : Bool)
    (surplus : Bytes) : Tidy (s.finish keep surplus ended w).1 (s.finish keep surplus ended w).2.network := by
  unfold Session.finish
  split
  · exact h.alike (stream?_stand _ _) (.refl _)
  · exact h.drop _

theorem Tidy.finishAtEnd {s : Session} {w : Recorded ScriptedNetwork} (h : Tidy s w.network) (keep : Bool)
    (r : Http.Reader) : Tidy (finishAtEnd keep r s w).2.1 (finishAtEnd keep r s w).2.2.network := by
  unfold Session.finishAtEnd
  split
  · exact h
  · exact h.finish _ _ _

theorem Tidy.ending {stream : StreamId} {keep ended : Bool} {r : Http.Reader} {st : Http.Reader.Standing} {s : Session}
    {w : Recorded ScriptedNetwork} {a : Option Break × Session × Recorded ScriptedNetwork} (h : Tidy s w.network)
    (e : Ending stream keep ended r st s w a) : Tidy a.2.1 a.2.2.network := by
  cases e with
  | complete => exact h.finish _ _ _
  | switched => exact h
  | broken => exact h
  | silent => exact h.finishAtEnd _ _
  | closed _ read => exact (h.alike rfl (alike_read (Recorded.read_eq read).1)).finishAtEnd _ _
  | failed _ read => exact h.alike rfl (alike_read (Recorded.read_eq read).1)

theorem stream?_obey {es : List Http.Event} {s t : Session} {b : Option Break} (h : s.obey es = (b, t)) :
    t.stream? = s.stream? := by
  rw [told_of_obey h]
  rfl

theorem Tidy.receipt {stream : StreamId} {keep ended : Bool} {r : Http.Reader} {s : Session}
    {w : Recorded ScriptedNetwork} {a : Option Break × Session × Recorded ScriptedNetwork} (h : Tidy s w.network)
    (c : Receipt stream keep ended r s w a) : Tidy a.2.1 a.2.2.network := by
  cases c with
  | @interrupted reads mid b t path _ _ obeyed =>
    have ht : t.stream? = s.stream? := stream?_obey obeyed
    exact h.alike ht path.network.alike
  | @heard reads mid t a path _ _ obeyed ending =>
    have ht : t.stream? = s.stream? := stream?_obey obeyed
    exact (h.alike (t := t.counting reads.flatten.length) ht path.network.alike).ending ending

theorem Tidy.course {u : Url} {stream : StreamId} {surplus : Bytes} {ended : Bool} {s : Session}
    {w : Recorded ScriptedNetwork} {a : Option Break × Session × Recorded ScriptedNetwork} (h : Tidy s w.network)
    (c : Course u stream surplus ended s w a) : Tidy a.2.1 a.2.2.network := by
  cases c with
  | refused => exact h
  | unsent _ _ path last =>
    exact h.alike (stream?_stand _ _) (path.network.alike.trans (alike_write (Recorded.write_eq last).1))
  | withdrawn _ path _ => exact h.alike (stream?_stand _ _) path.network.alike
  | answered _ path _ receipt => exact (h.alike (stream?_stand _ _) path.network.alike).receipt receipt

theorem tlsBreak?_isSome {f : NetworkFault} (h : f.isSystem = true ∨ f.kind = .runtime) (timeout : Float) :
    (tlsBreak? timeout (.network f)).isSome = true := by
  unfold tlsBreak?
  split
  · rfl
  · have hc : (Fault.isSystem (.network f) || Fault.isRuntime (.network f)) = true := by
      rcases h with h | h
      · rw [show Fault.isSystem (.network f) = f.isSystem from rfl, h, Bool.true_or]
      · rw [show Fault.isRuntime (.network f) = (f.kind == .runtime) from rfl, h, beq_self_eq_true, Bool.or_true]
    rw [if_pos hc]
    rfl

theorem Tidy.connected {o : Origin} {s : Session} {w mid : Recorded ScriptedNetwork} {id : StreamId}
    (h : Tidy s w.network)
    (connect : Network.connect o.host (.int o.port) (.float s.timeout) (s.drop w).2 = (.ok id, mid)) :
    Tidy (s.linked o id) mid.network := by
  have hc := (Recorded.connect_eq connect).1
  obtain ⟨hid, hstreams, hopened, htls, -⟩ := connect_ok hc
  have hd := h.drop s
  refine ⟨fun other ho => ?_, ?_, fun f hf => hd.handled f (htls ▸ hf)⟩
  · rw [isOpen_connect hc, h.none_open, Bool.false_or, beq_iff_eq] at ho
    rw [ho]
    rfl
  · rw [hopened, hd.numbered, hstreams, List.length_append, hid]
    exact List.range_succ.symm

theorem Tidy.opening {o : Origin} {s : Session} {w : Recorded ScriptedNetwork}
    {a : Except Break StreamId × Session × Recorded ScriptedNetwork} (h : Tidy s w.network) (c : Opening o s w a) :
    Tidy a.2.1 a.2.2.network := by
  cases c with
  | unconnected connect => exact (h.drop _).alike rfl (alike_connect (Recorded.connect_eq connect).1)
  | plain _ connect => exact h.connected connect
  | secured _ connect secure =>
    obtain ⟨halike, -, hid⟩ := secure_spec (Recorded.secure_eq secure).1
    rcases hid with ⟨g, -, hg⟩ | hid
    · cases hg
    · cases hid
      exact (h.connected connect).alike rfl halike
  | @unsecured id mid w' f b _ connect secure _ =>
    obtain ⟨halike, -, -⟩ := secure_spec (Recorded.secure_eq secure).1
    exact ((h.connected connect).alike (t := s.linked o id) rfl halike).drop (w := w') _
  | abandoned _ connect secure fault =>
    obtain ⟨-, -, hid⟩ := secure_spec (Recorded.secure_eq secure).1
    rcases hid with ⟨g, hg, he⟩ | hid
    · cases he
      have hsome := tlsBreak?_isSome ((h.connected connect).handled g hg) s.timeout
      rw [fault] at hsome
      cases hsome
    · cases hid

theorem Tidy.anew {u : Url} {s : Session} {w : Recorded ScriptedNetwork}
    {a : Option Break × Session × Recorded ScriptedNetwork} (h : Tidy s w.network) (c : Anew u s w a) :
    Tidy a.2.1 a.2.2.network := by
  cases c with
  | unopened opening => exact h.opening opening
  | opened opening course => exact (h.opening opening).course course

theorem Tidy.attempt {u : Url} {s : Session} {w : Recorded ScriptedNetwork}
    {a : Option Break × Session × Recorded ScriptedNetwork} (h : Tidy s w.network) (c : Attempt u s w a) :
    Tidy a.2.1 a.2.2.network := by
  cases c with
  | fresh _ anew => exact h.anew anew
  | reused _ course _ => exact h.course course
  | repeated _ course _ _ anew => exact (h.course course).anew anew

end Session

/-! ## Through a run -/

namespace Scene

/-- What holds between two acts: besides the order of the streams, a session that is closed or has no URL has none. -/
structure Kempt (c : Scene) : Prop where
  tidy : c.session.Tidy c.network.network
  closed : c.session.closed = true → c.session.link = none
  aimless : c.session.url = none → c.session.link = none
  defects : c.session.defects = {}

theorem Kempt.sameStream {c : Scene} {s : Session} (h : c.Kempt) (hs : c.session.SameStream s) :
    Kempt { c with session := s } where
  tidy := h.tidy.alike (by rw [Session.stream?, hs.link]; rfl) (.refl _)
  closed hc := hs.link.trans (h.closed (hs.closed ▸ hc))
  aimless hu := hs.link.trans (h.aimless (hs.aimed hu))
  defects := hs.defects.trans h.defects

theorem Kempt.scripted {c : Scene} {f : ScriptedNetwork → ScriptedNetwork} (h : c.Kempt)
    (streams : ∀ w, (f w).streams = w.streams) (opened : ∀ w, (f w).opened = w.opened)
    (tls : ∀ g ∈ (f c.network.network).tlsFaults, g.isSystem = true ∨ g.kind = .runtime) : (c.scripted f).Kempt where
  tidy := by
    refine ⟨fun id ho => h.tidy.owns id ?_, ?_, tls⟩
    · rwa [isOpen, stream?, Scene.scripted, streams] at ho
    · rw [Scene.scripted, opened, streams]
      exact h.tidy.numbered
  closed := h.closed
  aimless := h.aimless
  defects := h.defects

/-- A transfer that fails leaves no stream open; one that a closed session refuses finds none. -/
theorem Kempt.none_open {c : Scene} (h : c.Kempt) {code : TransferCode} (ha : c.answer = .ok code) (hne : code ≠ .ok)
    (id : StreamId) : isOpen id c.performed.network.network = false := by
  have hp := Session.perform_spec c.session c.network
  unfold performed
  rw [answer] at ha
  generalize c.session.perform c.network = a at hp ha
  have hidle (hl : c.session.link = none) : isOpen id c.network.network = false := by
    rw [← Session.drop_of_none hl c.network]
    exact h.tidy.none_open id
  cases hp with
  | closed hc => exact hidle (h.closed hc)
  | aimless _ hu => exact hidle (h.aimless hu)
  | done =>
    cases ha
    exact absurd rfl hne
  | failed _ _ attempt =>
    have ht : c.session.started.Tidy c.network.network := h.tidy.alike rfl (.refl _)
    exact (ht.attempt attempt).none_open id
  | escaped => cases ha

theorem Kempt.performed {c : Scene} (h : c.Kempt) : c.performed.Kempt := by
  have hp := Session.perform_spec c.session c.network
  have ho := Session.options_perform c.session c.network
  unfold Scene.performed
  generalize c.session.perform c.network = a at hp ho ⊢
  have hclosed := Session.closed_of_options ho
  have hurl := Session.url_of_options ho
  have hdefects := (Session.defects_of_options ho).trans h.defects
  have ht : c.session.started.Tidy c.network.network := h.tidy.alike rfl (.refl _)
  have hbegun (code : TransferCode) (m : Text.Points) : (c.session.begun.fail code m).2.link = c.session.link := by
    rw [Session.fail_snd]
    rfl
  -- a transfer that is made needs an open session with a URL, and changes neither
  have hmade (hc : c.session.closed = false) {x : String × Url} (hu : c.session.url = some x)
      (hk : a.2.1.Tidy a.2.2.network) : Kempt ⟨a.2.1, a.2.2⟩ := by
    refine ⟨hk, fun hc' => ?_, fun hu' => ?_, hdefects⟩
    · rw [hclosed, hc] at hc'
      cases hc'
    · rw [hurl, hu] at hu'
      cases hu'
  cases hp with
  | closed hc =>
    have hl := (hbegun .badFunctionArgument "Session is closed").trans (h.closed hc)
    refine ⟨h.tidy.alike ?_ (.refl _), fun _ => hl, fun _ => hl, hdefects⟩
    rw [Session.stream?, Session.stream?, hl, h.closed hc]
  | aimless _ hu =>
    have hl := (hbegun .urlMalformat "No URL set").trans (h.aimless hu)
    refine ⟨h.tidy.alike ?_ (.refl _), fun _ => hl, fun _ => hl, hdefects⟩
    rw [Session.stream?, Session.stream?, hl, h.aimless hu]
  | done hc hu attempt => exact hmade hc hu (ht.attempt attempt)
  | failed hc hu attempt => exact hmade hc hu ((ht.attempt attempt).drop _)
  | escaped hc hu attempt => exact hmade hc hu (ht.attempt attempt)

theorem closed_of_closed {c : Scene} (h : c.session.closed = true) : c.closed = c := by
  unfold closed Session.close
  rw [if_pos h]

theorem closed_of_open {c : Scene} (h : c.session.closed = false) :
    c.closed.session.SameStream { c.session with link := none, closed := true }
      ∧ c.closed.network = (c.session.drop c.network).2 := by
  unfold closed Session.close
  rw [if_neg (by rw [h]; exact Bool.false_ne_true)]
  dsimp only
  rw [Session.drop_fst]
  exact ⟨⟨rfl, rfl, rfl, rfl, rfl, id⟩, rfl⟩

theorem Kempt.closed_scene {c : Scene} (h : c.Kempt) : c.closed.Kempt := by
  cases hc : c.session.closed with
  | true => rwa [closed_of_closed hc]
  | false =>
    obtain ⟨hs, hw⟩ := closed_of_open hc
    have hl : c.closed.session.link = none := hs.link.symm
    refine ⟨?_, fun _ => hl, fun _ => hl, hs.defects.symm.trans h.defects⟩
    rw [hw]
    exact h.tidy.drop _

/-- **Every act keeps the streams in order.** -/
theorem Kempt.after {c : Scene} (h : c.Kempt) (a : Act)
    (handled : ∀ f, a = .tlsFault f → f.isSystem = true ∨ f.kind = .runtime) : (c.after a).Kempt := by
  cases a with
  | set x =>
    cases hx : x.apply c.session with
    | error f =>
      rw [after_set_error hx]
      exact h
    | ok s =>
      rw [after_set_ok hx]
      exact h.sameStream (Session.sameStream_apply hx)
  | newList => exact h.sameStream (Session.sameStream_newList _)
  | addField l name value => exact h.sameStream (Session.sameStream_addField l name value _)
  | release l => exact h.sameStream (Session.sameStream_release l _)
  | perform => exact h.performed
  | close => exact h.closed_scene
  | reply r => exact h.scripted (fun _ => rfl) (fun _ => rfl) h.tidy.handled
  | connectFault f => exact h.scripted (fun _ => rfl) (fun _ => rfl) h.tidy.handled
  | tlsFault f =>
    refine h.scripted (fun _ => rfl) (fun _ => rfl) (fun g hg => ?_)
    rcases List.mem_append.1 hg with hg | hg
    · exact h.tidy.handled g hg
    · cases List.mem_singleton.1 hg
      exact handled f rfl
  | writeFault f => exact h.scripted (fun _ => rfl) (fun _ => rfl) h.tidy.handled

theorem kempt_new : Kempt new where
  tidy := ⟨fun _ h => (nomatch h), rfl, fun _ h => (nomatch h)⟩
  closed _ := rfl
  aimless _ := rfl
  defects := rfl

theorem kempt_run (acts : List Act) (handled : ∀ f, .tlsFault f ∈ acts → f.isSystem = true ∨ f.kind = .runtime) :
    (run acts new).Kempt :=
  run_keeps acts (fun a ha _ hc => hc.after a fun f hf => handled f (hf ▸ ha)) new kempt_new

/-! ## After the end -/

/-- A closed session: it has no stream, and what it did stays as it was. -/
structure Shut (wire : List WireEvent) (transfers connects : Nat) (c : Scene) : Prop where
  closed : c.session.closed = true
  defects : c.session.defects = {}
  none_open : ∀ id, isOpen id c.network.network = false
  wire : c.network.wire = wire
  transfers : c.session.transfers = transfers
  connects : c.session.connects = connects

theorem Shut.sameStream {wire : List WireEvent} {n m : Nat} {c : Scene} {s : Session} (h : c.Shut wire n m)
    (hs : c.session.SameStream s) : Shut wire n m { c with session := s } :=
  ⟨hs.closed.trans h.closed, hs.defects.trans h.defects, h.none_open, h.wire, hs.transfers.trans h.transfers,
    hs.connects.trans h.connects⟩

theorem Shut.answer {wire : List WireEvent} {n m : Nat} {c : Scene} (h : c.Shut wire n m) :
    c.answer = .ok .badFunctionArgument := by
  have hp := Session.perform_spec c.session c.network
  unfold Scene.answer
  generalize c.session.perform c.network = a at hp ⊢
  cases hp with
  | closed => rfl
  | aimless hc => rw [h.closed] at hc; cases hc
  | done hc => rw [h.closed] at hc; cases hc
  | failed hc => rw [h.closed] at hc; cases hc
  | escaped hc => rw [h.closed] at hc; cases hc

theorem Shut.performed {wire : List WireEvent} {n m : Nat} {c : Scene} (h : c.Shut wire n m) :
    c.performed.Shut wire n m := by
  have hp := Session.perform_spec c.session c.network
  unfold Scene.performed
  generalize c.session.perform c.network = a at hp ⊢
  cases hp with
  | closed =>
    rw [Session.fail_snd]
    exact ⟨h.closed, h.defects, h.none_open, h.wire, h.transfers, h.connects⟩
  | aimless hc => rw [h.closed] at hc; cases hc
  | done hc => rw [h.closed] at hc; cases hc
  | failed hc => rw [h.closed] at hc; cases hc
  | escaped hc => rw [h.closed] at hc; cases hc

/-- **No act brings a closed session back to life.** -/
theorem Shut.after {wire : List WireEvent} {n m : Nat} {c : Scene} (h : c.Shut wire n m) (a : Act) :
    (c.after a).Shut wire n m := by
  cases a with
  | set x =>
    rw [after_set_error (Session.apply_of_closed h.closed h.defects x)]
    exact h
  | newList => exact h.sameStream (Session.sameStream_newList _)
  | addField l name value => exact h.sameStream (Session.sameStream_addField l name value _)
  | release l => exact h.sameStream (Session.sameStream_release l _)
  | perform => exact h.performed
  | close =>
    unfold Scene.after
    rwa [closed_of_closed h.closed]
  | reply r => exact ⟨h.closed, h.defects, h.none_open, h.wire, h.transfers, h.connects⟩
  | connectFault f => exact ⟨h.closed, h.defects, h.none_open, h.wire, h.transfers, h.connects⟩
  | tlsFault f => exact ⟨h.closed, h.defects, h.none_open, h.wire, h.transfers, h.connects⟩
  | writeFault f => exact ⟨h.closed, h.defects, h.none_open, h.wire, h.transfers, h.connects⟩

theorem Kempt.shut {c : Scene} (h : c.Kempt) :
    c.closed.Shut c.closed.network.wire c.session.transfers c.session.connects := by
  cases hc : c.session.closed with
  | true =>
    rw [closed_of_closed hc]
    refine ⟨hc, h.defects, fun id => ?_, rfl, rfl, rfl⟩
    rw [← Session.drop_of_none (h.closed hc) c.network]
    exact h.tidy.none_open id
  | false =>
    obtain ⟨hs, hw⟩ := closed_of_open hc
    refine ⟨hs.closed.symm, hs.defects.symm.trans h.defects, fun id => ?_, rfl, hs.transfers.symm, hs.connects.symm⟩
    rw [hw]
    exact h.tidy.none_open id

theorem openStreams_eq_nil {w : ScriptedNetwork} (h : ∀ id, isOpen id w = false) : w.openStreams = [] :=
  List.filter_eq_nil_iff.2 fun id _ => by rw [h id]; exact Bool.false_ne_true

/-- **The open streams of a run are those that its session owns**: at most one at any point, none after a transfer that
answers with a failure, and none after the session is closed, from when on every setting is refused, every transfer
answers that the session is closed, and no call reaches the network. -/
theorem streams_owned (acts : List Act)
    (handled : ∀ f, .tlsFault f ∈ acts → f.isSystem = true ∨ f.kind = .runtime) :
    let c := run acts new
    (∀ id ∈ c.network.network.openStreams, ∃ l, c.session.link = some l ∧ l.stream = id)
      ∧ c.network.network.openStreams.length ≤ 1
      ∧ (∀ code, c.answer = .ok code → code ≠ .ok → c.performed.network.network.openStreams = [])
      ∧ ∀ more, let d := c.closed.run more
          d.network.network.openStreams = []
            ∧ (∀ x : Setting, x.apply d.session = .error (Session.refuse "Session is closed"))
            ∧ d.answer = .ok .badFunctionArgument
            ∧ d.network.wire = c.closed.network.wire
            ∧ d.session.transfers = c.session.transfers ∧ d.session.connects = c.session.connects := by
  intro c
  have h : c.Kempt := kempt_run acts handled
  have howns : ∀ id ∈ c.network.network.openStreams, c.session.stream? = some id := fun id hid =>
    h.tidy.owns id (List.mem_filter.1 hid).2
  refine ⟨fun id hid => ?_, ?_, fun code ha hne => openStreams_eq_nil (h.none_open ha hne), fun more => ?_⟩
  · exact Option.map_eq_some_iff.1 (howns id hid)
  · have hnodup : c.network.network.openStreams.Nodup := by
      unfold openStreams
      rw [h.tidy.numbered]
      exact List.nodup_range.filter _
    match hids : c.network.network.openStreams with
    | [] => exact Nat.zero_le 1
    | [_] => exact Nat.le_refl 1
    | i :: j :: rest =>
      rw [hids] at hnodup howns
      have hij : some i = some j :=
        (howns i List.mem_cons_self).symm.trans (howns j (List.mem_cons_of_mem _ List.mem_cons_self))
      rw [Option.some.injEq] at hij
      rw [hij, List.nodup_cons] at hnodup
      exact absurd List.mem_cons_self hnodup.1
  · intro d
    have hd : d.Shut c.closed.network.wire c.session.transfers c.session.connects :=
      run_keeps more (fun a _ _ hc => hc.after a) _ h.shut
    exact ⟨openStreams_eq_nil hd.none_open, Session.apply_of_closed hd.closed hd.defects, hd.answer, hd.wire,
      hd.transfers, hd.connects⟩

/-- A handshake that fails with a fault of the runtime is among the faults that the session takes. -/
theorem streams_owned_failing_handshake :
    let acts : List Act := [.set (.url (.text "https://h/")), .tlsFault ⟨.runtime, none, none⟩]
    let c := run acts new
    (∀ f, .tlsFault f ∈ acts → f.isSystem = true ∨ f.kind = .runtime)
      ∧ c.answer = .ok .sslConnectError ∧ c.performed.network.network.openStreams = []
      ∧ c.performed.network.network.opened = [0]
      ∧ ∀ more, (c.closed.run more).network.network.openStreams = [] := by
  intro acts c
  have handled : ∀ f, .tlsFault f ∈ acts → f.isSystem = true ∨ f.kind = .runtime := by
    intro f hf
    right
    simp only [acts, List.mem_cons, reduceCtorEq, false_or, List.not_mem_nil, or_false, Act.tlsFault.injEq] at hf
    rw [hf]
  obtain ⟨-, -, failed, shut⟩ := streams_owned acts handled
  have answer : c.answer = .ok .sslConnectError := rfl
  refine ⟨handled, answer, failed _ answer ?_, ?_, fun more => (shut more).1⟩
  · decide
  · decide +kernel

end Scene
end Transport
