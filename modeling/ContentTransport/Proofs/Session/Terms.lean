import ContentTransport.Proofs.Session.Resend
import Mathlib.Data.List.Induction
/-!
# Terms — under which timeout and which verification a request travels

A stream is opened with the timeout and the verification that are set at the time, and both stay with it: they are not
asked for when it is used again.  So the terms of a request are those of the transfer that opened its stream
(`requests_keep_the_terms_of_their_stream`), and a request may travel over an unverified stream although verification is
set (`unverified_stream_is_used_again`).  These are statements about every network.
-/
namespace Transport

/-- What a stream is opened with. -/
structure Terms where
  timeout : Float
  verify : Bool

def Session.terms (s : Session) : Terms := ⟨s.timeout, s.verifyTls⟩

namespace WireEvent

/-- What a call opens, it opens on the terms. -/
def On (x : Terms) : WireEvent → Prop
  | connect _ _ timeout _ => timeout = .float x.timeout
  | secure _ _ timeout verify _ => timeout = .float x.timeout ∧ verify = x.verify
  | _ => True

/-- The stream that a call reads from or writes to. -/
def carries? : WireEvent → Option StreamId
  | read id _ _ => some id
  | write id _ _ => some id
  | _ => none

/-- Whether a call that secures a stream asks for verification. -/
def verification? : WireEvent → Option Bool
  | secure _ _ _ verify _ => some verify
  | _ => none

theorem gives?_of_unopening {e : WireEvent} (h : e.opens = false) : e.gives? = none := by
  cases e with
  | connect => cases h
  | secure => cases h
  | _ => rfl

theorem on_of_unopening {e : WireEvent} (x : Terms) (h : e.opens = false) : e.On x := by
  cases e with
  | connect => cases h
  | secure => cases h
  | _ => trivial

end WireEvent

theorem Talk.gives {id : StreamId} {es : List WireEvent} (h : Talk id es) : ∀ e ∈ es, e.gives? = none :=
  fun e he => WireEvent.gives?_of_unopening (h e he).2

theorem Talk.on {id : StreamId} {es : List WireEvent} (h : Talk id es) (x : Terms) : ∀ e ∈ es, e.On x :=
  fun e he => WireEvent.on_of_unopening x (h e he).2

theorem Talk.carries {id other : StreamId} {es : List WireEvent} (h : Talk id es) {e : WireEvent} (he : e ∈ es)
    (carried : e.carries? = some other) : other = id := by
  have hs := (h e he).1
  cases e with
  | read => exact Option.some.inj (carried.symm.trans hs)
  | write => exact Option.some.inj (carried.symm.trans hs)
  | _ => cases carried

theorem Silent.carries {es : List WireEvent} (h : Silent es) {e : WireEvent} (he : e ∈ es) : e.carries? = none := by
  cases e with
  | read i n x => exact absurd he (h.unread i n x)
  | write i p x => exact absurd he (h.write i p x)
  | _ => rfl

/-! ## Openings -/

/-- The calls that open a stream to an origin on some terms. -/
inductive Opens (o : Origin) (x : Terms) (id : StreamId) : List WireEvent → Prop
  | plain (scheme : o.scheme ≠ "https") :
    Opens o x id [.connect o.host (.int o.port) (.float x.timeout) (.ok id)]
  | secured (bare : StreamId) (scheme : o.scheme = "https") :
    Opens o x id [.connect o.host (.int o.port) (.float x.timeout) (.ok bare),
      .secure bare o.host (.float x.timeout) x.verify (.ok id)]

/-- The last opening of a stream among some calls: to an origin, on some terms. -/
def OpenedOn (o : Origin) (x : Terms) (id : StreamId) (es : List WireEvent) : Prop :=
  ∃ before calls after, es = before ++ calls ++ after ∧ Opens o x id calls ∧ ∀ e ∈ after, e.gives? ≠ some id

theorem OpenedOn.append {o : Origin} {x : Terms} {id : StreamId} {es fs : List WireEvent} (h : OpenedOn o x id es)
    (later : ∀ e ∈ fs, e.gives? ≠ some id) : OpenedOn o x id (es ++ fs) := by
  obtain ⟨before, calls, after, rfl, hopens, hafter⟩ := h
  refine ⟨before, calls, after ++ fs, List.append_assoc _ _ _, hopens, fun e he => ?_⟩
  rcases List.mem_append.1 he with he | he
  · exact hafter e he
  · exact later e he

theorem OpenedOn.prepend {o : Origin} {x : Terms} {id : StreamId} {es : List WireEvent} (h : OpenedOn o x id es)
    (fs : List WireEvent) : OpenedOn o x id (fs ++ es) := by
  obtain ⟨before, calls, after, rfl, hopens, hafter⟩ := h
  exact ⟨fs ++ before, calls, after, by rw [List.append_assoc, List.append_assoc, List.append_assoc], hopens, hafter⟩

/-- Where a stream for an origin comes from after some calls: they have opened it on the terms, or it is the one that was
held before them, and they have opened none. -/
def Given (held : Option (StreamId × Origin)) (x : Terms) (o : Origin) (es : List WireEvent) (id : StreamId) : Prop :=
  OpenedOn o x id es ∨ (held = some (id, o) ∧ ∀ e ∈ es, e.gives? = none)

theorem Given.later {x : Terms} {o : Origin} {es : List WireEvent} {id : StreamId} (h : Given none x o es id)
    (held : Option (StreamId × Origin)) (before : List WireEvent) : Given held x o (before ++ es) id := by
  rcases h with h | ⟨h, -⟩
  · exact .inl (h.prepend before)
  · cases h

/-- Every read and write goes to a stream that comes from the calls before it, or is held. -/
def Borne (held : Option (StreamId × Origin)) (x : Terms) (o : Origin) (es : List WireEvent) : Prop :=
  ∀ pre e post id, es = pre ++ e :: post → e.carries? = some id → Given held x o pre id

theorem Borne.of_silent {held : Option (StreamId × Origin)} {x : Terms} {o : Origin} {es : List WireEvent}
    (h : Silent es) : Borne held x o es := by
  rintro pre e post id rfl hid
  exact nomatch (h.carries (List.mem_append_right pre List.mem_cons_self)).symm.trans hid

theorem Borne.append {held held' : Option (StreamId × Origin)} {x : Terms} {o : Origin} {es fs : List WireEvent}
    (h : Borne held x o es) (h' : Borne held' x o fs)
    (given : ∀ gs id, Given held' x o gs id → Given held x o (es ++ gs) id) : Borne held x o (es ++ fs) := by
  intro pre e post id he hid
  rcases List.append_eq_append_iff.1 he with ⟨ms, rfl, hfs⟩ | ⟨ms, rfl, hpost⟩
  · exact given ms id (h' ms e post id hfs hid)
  · cases ms with
    | nil =>
      have hg := given [] id (h' [] e post id hpost.symm hid)
      rwa [List.append_nil, List.append_nil] at hg
    | cons m ms =>
      rw [List.cons_append, List.cons.injEq] at hpost
      exact h pre e ms id (by rw [hpost.1]) hid

theorem Borne.of_talk {held : Option (StreamId × Origin)} {x : Terms} {o : Origin} {id : StreamId}
    {es : List WireEvent} (talk : Talk id es) (h : held = some (id, o)) : Borne held x o es := by
  rintro pre e post other rfl hother
  obtain rfl := talk.carries (List.mem_append_right pre List.mem_cons_self) hother
  exact .inr ⟨h, fun e he => talk.gives e (List.mem_append_left _ he)⟩

namespace Session

variable {ν : Type} [Network ν]

/-! ## The stream that an exchange leaves -/

/-- A step keeps the stream of the session, or closes it at its end and lets go of it. -/
def Retains {β : Type} (l : Link) (s : Session) (a : β × Session × ν) : Prop :=
  a.2.1.held = s.held ∨ (a.2.1.link = none ∧ ∃ w, a.2.2 = Network.close l.stream w)

theorem retains_finish {l : Link} {s : Session} (link : s.link = some l) (b : Option Break) (keep ended : Bool)
    (surplus : Bytes) (w : ν) : s.Retains l (b, s.finish keep surplus ended w) := by
  unfold finish
  split
  · exact .inl (held_stand _ link)
  · refine .inr ⟨?_, w, drop_of_some link w⟩
    rw [drop_fst]

theorem retains_finishAtEnd {l : Link} {s : Session} (link : s.link = some l) (keep : Bool) (r : Http.Reader) (w : ν) :
    s.Retains l (finishAtEnd keep r s w) := by
  unfold finishAtEnd
  split
  · exact .inl rfl
  · exact retains_finish link _ _ _ _ w

theorem Ending.retains {l : Link} {stream : StreamId} {keep ended : Bool} {r : Http.Reader} {st : Http.Reader.Standing}
    {s : Session} {w : ν} {a : Option Break × Session × ν} (h : Ending stream keep ended r st s w a)
    (link : s.link = some l) : s.Retains l a := by
  cases h with
  | complete => exact retains_finish link _ _ _ _ w
  | switched => exact .inl rfl
  | broken => exact .inl rfl
  | silent => exact retains_finishAtEnd link _ _ w
  | closed => exact retains_finishAtEnd link _ _ _
  | failed => exact .inl rfl

theorem Receipt.retains {l : Link} {stream : StreamId} {keep ended : Bool} {r : Http.Reader} {s : Session} {w : ν}
    {a : Option Break × Session × ν} (h : Receipt stream keep ended r s w a) (link : s.link = some l) :
    s.Retains l a := by
  have hlink {es : List Http.Event} {t : Session} {b : Option Break} (obeyed : s.obey es = (b, t)) (n : Nat) :
      (t.counting n).link = s.link := by
    rw [told_of_obey obeyed]
    rfl
  have hheld {es : List Http.Event} {t : Session} {b : Option Break} (obeyed : s.obey es = (b, t)) (n : Nat) :
      (t.counting n).held = s.held := by
    rw [held, hlink obeyed n, held]
  cases h with
  | interrupted _ _ _ obeyed => exact .inl (hheld obeyed _)
  | heard _ _ _ obeyed ending =>
    rcases ending.retains ((hlink obeyed _).trans link) with hsame | hclosed
    · exact .inl (hsame.trans (hheld obeyed _))
    · exact .inr hclosed

theorem Course.retains {u : Url} {l : Link} {surplus : Bytes} {ended : Bool} {s : Session} {w : ν}
    {a : Option Break × Session × ν} (c : Course u l.stream surplus ended s w a) (link : s.link = some l) :
    s.Retains l a := by
  cases c with
  | refused => exact .inl rfl
  | unsent => exact .inl (held_stand _ link)
  | withdrawn => exact .inl (held_stand _ link)
  | answered _ _ _ receipt =>
    rcases receipt.retains (l := { l with condition := .busy }) (link_stand .busy link) with hsame | hclosed
    · exact .inl (hsame.trans (held_stand _ link))
    · exact .inr hclosed

/-! ## A transfer -/

/-- What a transfer does on some terms, with the stream that it may find. -/
structure Termed (found : Option (StreamId × Origin)) (x : Terms) (o : Origin) (w : Recorded ν)
    (a : Option Break × Session × Recorded ν) (es : List WireEvent) : Prop where
  wire : a.2.2.wire = w.wire ++ es
  on : ∀ e ∈ es, e.On x
  borne : Borne found x o es
  left : ∀ l, a.2.1.link = some l → l.origin = o ∧ Given found x o es l.stream

theorem Dials.on {o : Origin} {s : Session} {r : Except Break StreamId} {es : List WireEvent} (h : Dials o s r es) :
    ∀ e ∈ es, e.On s.terms := by
  cases h with
  | unconnected => exact List.forall_mem_singleton.2 rfl
  | plain => exact List.forall_mem_singleton.2 rfl
  | secured => exact List.forall_mem_cons.2 ⟨rfl, List.forall_mem_singleton.2 ⟨rfl, rfl⟩⟩
  | unsecured =>
    exact List.forall_mem_cons.2 ⟨rfl, List.forall_mem_cons.2 ⟨⟨rfl, rfl⟩, List.forall_mem_singleton.2 trivial⟩⟩
  | abandoned => exact List.forall_mem_cons.2 ⟨rfl, List.forall_mem_singleton.2 ⟨rfl, rfl⟩⟩

theorem Dials.opens {o : Origin} {s : Session} {id : StreamId} {es : List WireEvent} (h : Dials o s (.ok id) es) :
    OpenedOn o s.terms id es := by
  have hopens : Opens o s.terms id es := by
    cases h with
    | plain _ scheme => exact .plain scheme
    | secured bare _ scheme => exact .secured bare scheme
  exact ⟨[], es, [], (List.append_nil _).symm, hopens, nofun⟩

theorem Opening.termed {o : Origin} {s : Session} {w : Recorded ν} {a : Except Break StreamId × Session × Recorded ν}
    (c : Opening o s w a) :
    ∃ es, a.2.2.wire = w.wire ++ es ∧ Silent es ∧ (∀ e ∈ es, e.On s.terms)
      ∧ (∀ id, a.1 = .ok id → OpenedOn o s.terms id es ∧ a.2.1.link = some { stream := id, origin := o })
      ∧ ∀ b, a.1 = .error b → a.2.1.link = none := by
  obtain ⟨es, hwire, hdials, hopened, hfailed⟩ := c.dials
  refine ⟨s.parting ++ es, hwire, (silent_parting s).append hdials.silent, fun e he => ?_, fun id hid => ⟨?_, ?_⟩,
    fun b hb => ?_⟩
  · rcases List.mem_append.1 he with he | he
    · obtain ⟨l, -, rfl⟩ := List.mem_map.1 he
      trivial
    · exact hdials.on e he
  · rw [hid] at hdials
    exact hdials.opens.prepend _
  · rw [hopened id hid]
    rfl
  · rw [hfailed b hb]

theorem Course.termed {u : Url} {l : Link} {surplus : Bytes} {ended : Bool} {s : Session} {w : Recorded ν}
    {a : Option Break × Session × Recorded ν} (c : Course u l.stream surplus ended s w a) (link : s.link = some l)
    (origin : l.origin = u.origin) (x : Terms) :
    ∃ es, Talk l.stream es ∧ Termed (some (l.stream, u.origin)) x u.origin w a es := by
  obtain ⟨es, h⟩ := c.conversed link
  refine ⟨es, h.talk, h.wire, h.talk.on x, .of_talk h.talk rfl, fun l' hl' => ?_⟩
  rcases c.retains link with hsame | ⟨hnone, -⟩
  · rw [held, held, hl', link, Option.map_some, Option.map_some, Option.some.injEq, Prod.mk.injEq] at hsame
    rw [hsame.1, hsame.2]
    exact ⟨origin, .inr ⟨rfl, h.talk.gives⟩⟩
  · rw [hl'] at hnone
    cases hnone

theorem Anew.termed {u : Url} {s : Session} {w : Recorded ν} {a : Option Break × Session × Recorded ν}
    (c : Anew u s w a) : ∃ es, Termed none s.terms u.origin w a es := by
  cases c with
  | @unopened b t w' opening =>
    obtain ⟨es, hwire, hsilent, hon, -, hunlinked⟩ := opening.termed
    exact ⟨es, hwire, hon, .of_silent hsilent, fun l hl => nomatch (hunlinked b rfl).symm.trans hl⟩
  | @opened id t w' a opening course =>
    obtain ⟨es, hwire, hsilent, hon, hgives, -⟩ := opening.termed
    obtain ⟨hopened, hlink⟩ := hgives id rfl
    obtain ⟨fs, htalk, h⟩ :=
      course.termed (l := { stream := id, origin := u.origin }) hlink rfl s.terms
    -- what the exchange has from the session, this transfer has opened
    have hgiven (gs : List WireEvent) (other : StreamId) (hg : Given (some (id, u.origin)) s.terms u.origin gs other) :
        Given none s.terms u.origin (es ++ gs) other := by
      rcases hg with hg | ⟨heq, hgs⟩
      · exact .inl (hg.prepend es)
      · cases heq
        refine .inl (hopened.append fun e he => ?_)
        rw [hgs e he]
        exact nofun
    refine ⟨es ++ fs, ?_, fun e he => ?_, (Borne.of_silent hsilent).append h.borne hgiven, fun l hl => ?_⟩
    · rw [h.wire, hwire, List.append_assoc]
    · rcases List.mem_append.1 he with he | he
      · exact hon e he
      · exact h.on e he
    · obtain ⟨horigin, hg⟩ := h.left l hl
      exact ⟨horigin, hgiven fs _ hg⟩

omit [Network ν] in
theorem Termed.of_none {x : Terms} {o : Origin} {w : Recorded ν} {a : Option Break × Session × Recorded ν}
    {es : List WireEvent} (h : Termed none x o w a es) (found : Option (StreamId × Origin)) : Termed found x o w a es :=
  ⟨h.wire, h.on, fun pre e post id he hid => (h.borne pre e post id he hid).later found [], fun l hl =>
    ⟨(h.left l hl).1, (h.left l hl).2.later found []⟩⟩

theorem origin_of_usable {o : Origin} {s : Session} {w : ν} {l : Link} {surplus : Bytes} {ended : Bool}
    (h : s.reusable? o w = some (l, surplus, ended)) : l.origin = o := by
  obtain ⟨hl, hc⟩ := usable_link h
  unfold reusable? at h
  rw [hl] at h
  dsimp only at h
  rw [hc] at h
  dsimp only at h
  split at h
  · rename_i ho
    exact ho.1
  · cases h

theorem terms_of_options {s t : Session} (h : s.options = t.options) : s.terms = t.terms := by
  have hx := congrArg (fun s : Session => s.terms) h
  exact hx

/-- **What a transfer opens, it opens on the terms in force; what it finds, it uses as it is.** -/
theorem Attempt.termed {u : Url} {s : Session} {w : Recorded ν} {a : Option Break × Session × Recorded ν}
    (c : Attempt u s w a) : ∃ es, Termed s.held s.terms u.origin w a es := by
  have hheld {l : Link} {surplus : Bytes} {ended : Bool} (usable : s.reusable? u.origin w = some (l, surplus, ended)) :
      s.held = some (l.stream, u.origin) := by
    rw [held, (usable_link usable).1, Option.map_some, origin_of_usable usable]
  cases c with
  | fresh _ anew =>
    obtain ⟨es, h⟩ := anew.termed
    exact ⟨es, h.of_none _⟩
  | reused usable course _ =>
    obtain ⟨es, -, h⟩ := course.termed (usable_link usable).1 (origin_of_usable usable) s.terms
    rw [hheld usable]
    exact ⟨es, h⟩
  | @repeated l surplus ended code m t mid a usable course _ _ anew =>
    obtain ⟨es, htalk, h⟩ := course.termed (usable_link usable).1 (origin_of_usable usable) s.terms
    obtain ⟨fs, h'⟩ := anew.termed
    rw [terms_of_options course.options] at h'
    have hwire : mid.wire = w.wire ++ es := h.wire
    refine ⟨es ++ fs, ?_, fun e he => ?_, ?_, fun l' hl' => ?_⟩
    · rw [h'.wire, hwire, List.append_assoc]
    · rcases List.mem_append.1 he with he | he
      · exact h.on e he
      · exact h'.on e he
    -- the second attempt uses what it has opened itself, whatever the first one did
    · rw [hheld usable]
      exact h.borne.append h'.borne fun gs id hg => hg.later _ es
    · obtain ⟨horigin, hg⟩ := h'.left l' hl'
      exact ⟨horigin, hg.later _ es⟩

/-- What a call for a transfer does on the terms of its session. -/
structure OnTerms (s : Session) (w : Recorded ν) (a : Except Fault TransferCode × Session × Recorded ν)
    (es : List WireEvent) : Prop where
  wire : a.2.2.wire = w.wire ++ es
  on : ∀ e ∈ es, e.On s.terms
  borne : ∀ pre e post id, es = pre ++ e :: post → e.carries? = some id →
    ∃ text u, s.url = some (text, u) ∧ Given s.held s.terms u.origin pre id
  left : ∀ l, a.2.1.link = some l → Given s.held s.terms l.origin es l.stream

omit [Network ν] in
/-- A call whose transfer leaves its session as it is. -/
theorem Termed.onTerms {text : String} {u : Url} {s : Session} {w : Recorded ν}
    {a : Option Break × Session × Recorded ν} {es : List WireEvent} (h : Termed s.held s.terms u.origin w a es)
    (url : s.url = some (text, u)) (answer : Except Fault TransferCode) : OnTerms s w (answer, a.2) es := by
  refine ⟨h.wire, h.on, fun pre e post id he hid => ⟨text, u, url, h.borne pre e post id he hid⟩, fun l hl => ?_⟩
  obtain ⟨horigin, hgiven⟩ := h.left l hl
  rw [horigin]
  exact hgiven

theorem perform_onTerms (s : Session) (w : Recorded ν) : ∃ es, OnTerms s w (s.perform w) es := by
  have hspec := perform_spec s w
  generalize s.perform w = a at hspec ⊢
  -- a transfer that has nowhere to go leaves the stream as it is
  have hidle (code : TransferCode) (m : Text.Points) :
      OnTerms s w (.ok code, (s.begun.fail code m).2, w) [] := by
    refine ⟨(List.append_nil _).symm, nofun, by simp, fun l hl => .inr ⟨?_, nofun⟩⟩
    have hl : (s.begun.fail code m).2.link = some l := hl
    rw [fail_snd] at hl
    have hl : s.link = some l := hl
    rw [held, hl]
    rfl
  cases hspec with
  | closed => exact ⟨[], hidle _ _⟩
  | aimless => exact ⟨[], hidle _ _⟩
  | done _ url attempt =>
    obtain ⟨es, h⟩ := attempt.termed
    exact ⟨es, h.onTerms (s := s) url _⟩
  | escaped _ url attempt =>
    obtain ⟨es, h⟩ := attempt.termed
    exact ⟨es, h.onTerms (s := s) url _⟩
  | @failed text u code m t w' _ url attempt =>
    obtain ⟨es, h⟩ := attempt.termed
    obtain ⟨ds, hds, hclose⟩ := drop_wire t w'
    have hwire : w'.wire = w.wire ++ es := h.wire
    have hquiet : Borne none s.terms u.origin ds := .of_silent (silent_closes hclose)
    have hborne : Borne s.held s.terms u.origin (es ++ ds) := h.borne.append hquiet fun gs id hg => hg.later _ es
    refine ⟨es ++ ds, ?_, fun e he => ?_, fun pre e post id he hid => ⟨text, u, url, hborne pre e post id he hid⟩,
      fun l hl => ?_⟩
    · rw [hds, hwire, List.append_assoc]
    · rcases List.mem_append.1 he with he | he
      · exact h.on e he
      · obtain ⟨id, rfl⟩ := hclose e he
        trivial
    · have hl : ({ t with link := none }.fail code m).2.link = some l := hl
      rw [fail_snd] at hl
      cases hl

/-! ## Every history -/

end Session

/-- What is done with a session over a network, which may turn into another at any time. -/
inductive Move (ν : Type)
  | set (x : Setting)
  | newList
  | addField (l : ListId) (name value : Value)
  | release (l : ListId)
  | perform
  | close
  | turn (n : ν)

namespace Move

variable {ν : Type} [Network ν]

/-- The session and its network after a move; a setting that is refused changes nothing. -/
def after (s : Session) (w : Recorded ν) : Move ν → Session × Recorded ν
  | set x => ((x.apply s).toOption.getD s, w)
  | newList => (s.newList.2, w)
  | addField l name value => ((s.addField l name value).2, w)
  | release l => (s.release l, w)
  | perform => (s.perform w).2
  | close => s.close w
  | turn n => (s, { w with network := n })

/-- The session and its network after some moves, from a new session on. -/
def lived (n : ν) (ms : List (Move ν)) : Session × Recorded ν :=
  ms.foldl (fun c m => m.after c.1 c.2) ({ readSize_pos := Session.readSize_new_pos }, { network := n })

/-- Whether a move sets the timeout or the verification. -/
def setsTerms : Move ν → Bool
  | set (.timeout _) => true
  | set (.verifyTls _) => true
  | _ => false

theorem lived_concat (n : ν) (ms : List (Move ν)) (m : Move ν) :
    lived n (ms ++ [m]) = m.after (lived n ms).1 (lived n ms).2 := List.foldl_append

theorem apply_getD {x : Setting} {s : Session} {P : Session → Prop} (refused : P s)
    (accepted : ∀ t, x.apply s = .ok t → P t) : P ((x.apply s).toOption.getD s) := by
  cases h : x.apply s with
  | error f => exact refused
  | ok t => exact accepted t h

open Session (SameStream)

/-- A move other than a transfer leaves the stream and the record alone, or closes the stream. -/
theorem after_unperformed {m : Move ν} (h : m ≠ perform) (s : Session) (w : Recorded ν) :
    ((m.after s w).1.link = s.link ∧ (m.after s w).2.wire = w.wire)
      ∨ ((m.after s w).1.link = none ∧ (m.after s w).2 = (s.drop w).2) := by
  cases m with
  | perform => exact absurd rfl h
  | set x =>
    have hlink : ((x.apply s).toOption.getD s).link = s.link :=
      apply_getD (P := fun t => t.link = s.link) rfl fun t ht => (Session.sameStream_apply ht).link
    exact .inl ⟨hlink, rfl⟩
  | newList => exact .inl ⟨rfl, rfl⟩
  | addField l name value => exact .inl ⟨(Session.sameStream_addField l name value s).link, rfl⟩
  | release l => exact .inl ⟨(Session.sameStream_release l s).link, rfl⟩
  | turn n => exact .inl ⟨rfl, rfl⟩
  | close =>
    change ((s.close w).1.link = s.link ∧ (s.close w).2.wire = w.wire)
      ∨ ((s.close w).1.link = none ∧ (s.close w).2 = (s.drop w).2)
    unfold Session.close
    split
    · exact .inl ⟨rfl, rfl⟩
    · dsimp only
      rw [Session.drop_fst]
      exact .inr ⟨rfl, rfl⟩

theorem terms_bind {s t : Session} {b : Option BufferId} (h : s.bind b = .ok t) : t.terms = s.terms := by
  unfold Session.bind Session.whenSound at h
  split at h
  · cases h
    rfl
  · cases h
  · obtain ⟨-, h⟩ := Session.whenOpen_ok h
    split at h
    · cases h
      rfl
    · split at h
      · cases h
        rfl
      · cases h

omit [Network ν] in
/-- A setting of something else leaves the terms alone. -/
theorem terms_apply {x : Setting} {s t : Session} (h : x.apply s = .ok t)
    (other : (set x : Move ν).setsTerms = false) : t.terms = s.terms := by
  cases x with
  | timeout v => cases other
  | verifyTls v => cases other
  | readSize v =>
    obtain ⟨-, h⟩ := Session.whenOpen_ok h
    split at h
    · cases h
      rfl
    · cases h
  | methodPost body =>
    obtain ⟨-, h⟩ := Session.whenOpen_ok h
    split at h
    · cases h
      rfl
    · cases h
  | url v =>
    obtain ⟨-, h⟩ := Session.whenOpen_ok h
    split at h
    · split at h
      · cases h
      · split at h
        · cases h
          rfl
        · cases h
    · cases h
  | attach l =>
    simp only [Setting.apply, Session.attach] at h
    cases hs : s.setHeaders (some l) with
    | error f => rw [hs] at h; cases h
    | ok u =>
      rw [hs] at h
      obtain ⟨-, hu⟩ := Session.whenOpen_ok hs
      cases hu
      cases h
      rfl
  | receiver r =>
    simp only [Setting.apply, Session.setReceiver] at h
    split at h
    · cases h
    · obtain ⟨-, h⟩ := Session.whenOpen_ok h
      cases h
      rfl
  | buffer v =>
    simp only [Setting.apply, Session.bindValue] at h
    split at h
    · exact terms_bind h
    · exact terms_bind (s := (s.allocate _).2) h
    · unfold Session.whenSound at h
      split at h
      · cases h
        rfl
      · cases h
      · obtain ⟨-, h⟩ := Session.whenOpen_ok h
        cases h
  | _ =>
    obtain ⟨-, h⟩ := Session.whenOpen_ok h
    cases h
    rfl

/-- **The terms stay as they are until they are set.** -/
theorem terms_after {m : Move ν} (other : m.setsTerms = false) (s : Session) (w : Recorded ν) :
    (m.after s w).1.terms = s.terms := by
  cases m with
  | set x => exact apply_getD (P := fun t => t.terms = s.terms) rfl fun t ht => terms_apply ht other
  | newList => rfl
  | turn n => rfl
  | perform => exact Session.terms_of_options (Session.options_perform s w)
  | addField l name value =>
    change (s.addField l name value).2.terms = s.terms
    unfold Session.addField
    split <;> rfl
  | release l =>
    change (s.release l).terms = s.terms
    unfold Session.release
    split <;> rfl
  | close =>
    change (s.close w).1.terms = s.terms
    unfold Session.close
    split
    · rfl
    · dsimp only
      rw [Session.drop_fst]
      rfl

/-- A stream to an origin that an earlier transfer has opened, on the terms in force then, and that no later call has
given.  The terms are those of now unless they have been set since. -/
structure Founded (n : ν) (ms : List (Move ν)) (o : Origin) (id : StreamId) (before after : List (Move ν))
    (calls later : List WireEvent) : Prop where
  moves : ms = before ++ perform :: after
  added : (lived n (before ++ [perform])).2.wire = (lived n before).2.wire ++ calls
  opened : OpenedOn o (lived n before).1.terms id calls
  wire : (lived n ms).2.wire = (lived n (before ++ [perform])).2.wire ++ later
  last : ∀ e ∈ later, e.gives? ≠ some id
  unset : (∀ m ∈ after, m.setsTerms = false) → (lived n before).1.terms = (lived n ms).1.terms

theorem Founded.concat {n : ν} {ms : List (Move ν)} {o : Origin} {id : StreamId} {before after : List (Move ν)}
    {calls later : List WireEvent} (h : Founded n ms o id before after calls later) (m : Move ν) {es : List WireEvent}
    (wire : (lived n (ms ++ [m])).2.wire = (lived n ms).2.wire ++ es) (gives : ∀ e ∈ es, e.gives? = none) :
    Founded n (ms ++ [m]) o id before (after ++ [m]) calls (later ++ es) where
  moves := by rw [h.moves, List.append_assoc, List.cons_append]
  added := h.added
  opened := h.opened
  wire := by rw [wire, h.wire, List.append_assoc]
  last e he := by
    rcases List.mem_append.1 he with he | he
    · exact h.last e he
    · rw [gives e he]
      exact nofun
  unset hall := by
    rw [h.unset fun m' hm' => hall m' (List.mem_append_left _ hm'), lived_concat]
    exact (terms_after (hall m (List.mem_append_right _ List.mem_cons_self)) _ _).symm

theorem founded_now {n : ν} {ms : List (Move ν)} {o : Origin} {id : StreamId} {es : List WireEvent}
    (wire : (lived n (ms ++ [perform])).2.wire = (lived n ms).2.wire ++ es)
    (opened : OpenedOn o (lived n ms).1.terms id es) : Founded n (ms ++ [perform]) o id ms [] es [] where
  moves := rfl
  added := wire
  opened := opened
  wire := (List.append_nil _).symm
  last := nofun
  unset _ := by
    rw [lived_concat]
    exact (terms_after rfl _ _).symm

/-- The stream of a session has been opened by one of its transfers. -/
theorem founded_link (n : ν) (ms : List (Move ν)) : ∀ l, (lived n ms).1.link = some l →
    ∃ before after calls later, Founded n ms l.origin l.stream before after calls later := by
  induction ms using List.reverseRecOn with
  | nil => exact nofun
  | append_singleton ms m ih =>
    intro l hl
    rw [lived_concat] at hl
    by_cases hm : m = perform
    · subst hm
      obtain ⟨es, h⟩ := Session.perform_onTerms (lived n ms).1 (lived n ms).2
      have hwire : (lived n (ms ++ [perform])).2.wire = (lived n ms).2.wire ++ es := by
        rw [lived_concat]
        exact h.wire
      rcases h.left l hl with hopened | ⟨hheld, hgives⟩
      · exact ⟨ms, [], es, [], founded_now hwire hopened⟩
      · obtain ⟨l', hl', heq⟩ := Option.map_eq_some_iff.1 hheld
        rw [Prod.mk.injEq] at heq
        obtain ⟨before, after, calls, later, hf⟩ := ih l' hl'
        rw [heq.1, heq.2] at hf
        exact ⟨before, _, calls, _, hf.concat perform hwire hgives⟩
    · rcases after_unperformed hm (lived n ms).1 (lived n ms).2 with ⟨hlink, hwire⟩ | ⟨hlink, -⟩
      · obtain ⟨before, after, calls, later, hf⟩ := ih l (hlink.symm.trans hl)
        have hsame : (lived n (ms ++ [m])).2.wire = (lived n ms).2.wire ++ [] := by
          rw [lived_concat, List.append_nil]
          exact hwire
        exact ⟨before, _, calls, _, hf.concat m hsame nofun⟩
      · exact nomatch hlink.symm.trans hl

/-- **A request keeps the terms of its stream.**  Whatever a transfer opens, it opens with the timeout and the
verification in force.  Every read and write of it is on a stream for its origin, which either it has opened itself
before, or it has found, having opened none: then an earlier transfer opened that stream, with the timeout and the
verification in force at that one.  These are the ones in force now if neither was set in between. -/
theorem requests_keep_the_terms_of_their_stream (n : ν) (ms : List (Move ν)) :
    let c := lived n ms
    ∃ es, (c.1.perform c.2).2.2.wire = c.2.wire ++ es ∧ (∀ e ∈ es, e.On c.1.terms)
      ∧ ∀ pre e post id, es = pre ++ e :: post → e.carries? = some id → ∃ text u, c.1.url = some (text, u)
          ∧ (OpenedOn u.origin c.1.terms id pre
            ∨ (∀ e ∈ pre, e.gives? = none)
              ∧ ∃ before after calls later, Founded n ms u.origin id before after calls later) := by
  intro c
  obtain ⟨es, h⟩ := Session.perform_onTerms c.1 c.2
  refine ⟨es, h.wire, h.on, fun pre e post id he hid => ?_⟩
  obtain ⟨text, u, hurl, hgiven⟩ := h.borne pre e post id he hid
  refine ⟨text, u, hurl, ?_⟩
  rcases hgiven with hopened | ⟨hheld, hgives⟩
  · exact .inl hopened
  · obtain ⟨l, hl, heq⟩ := Option.map_eq_some_iff.1 hheld
    rw [Prod.mk.injEq] at heq
    obtain ⟨before, after, calls, later, hf⟩ := founded_link n ms l hl
    rw [heq.1, heq.2] at hf
    exact .inr ⟨hgives, before, after, calls, later, hf⟩

/-- A request over a stream that was opened without verification and with a longer timeout than are in force. -/
theorem unverified_stream_is_used_again :
    let replies := [Bytes.ofText "HTTP/1.1 200 OK\r\nContent-Length: 1\r\n\r\na",
      Bytes.ofText "HTTP/1.1 200 OK\r\nContent-Length: 1\r\n\r\nb"]
    let network := replies.foldl (fun w data => w.queueReply { data := data }) ({} : ScriptedNetwork)
    let c := lived network [.set (.verifyTls (.bool false)), .set (.url (.text "https://h/")), .perform,
      .set (.verifyTls (.bool true)), .set (.timeout (.int 5))]
    let wire := (c.1.perform c.2).2.2.wire
    c.1.verifyTls = true ∧ (c.1.timeout == 5) = true
      ∧ WireEvent.connections wire = 1 ∧ wire.filterMap WireEvent.verification? = [false]
      ∧ WireEvent.writesTo 0 (wire.drop c.2.wire.length) ≠ [] := by
  decide +kernel

end Move
end Transport
