import ContentTransport.Proofs.Network.Stock
import ContentTransport.Proofs.Session.GivenUp
/-!
# Bounded — how often a transfer reads

A transfer attempts its request on one stream, or on two.  An attempt goes on reading as long as a read gives something,
and reads no more after one that does not (`Bout`).  So a transfer reads twice more at most than it is given bytes, on
any network; and a scripted network has only so many bytes to give (`transfer_ends`).
-/
namespace Transport

namespace WireEvent

def answer? : WireEvent → Option (Except Fault Bytes)
  | read _ _ a => some a
  | _ => none

/-- What reads answer, from whichever streams. -/
def answers (es : List WireEvent) : List (Except Fault Bytes) := es.filterMap answer?

theorem answers_append (es fs : List WireEvent) : answers (es ++ fs) = answers es ++ answers fs :=
  List.filterMap_append

theorem given_eq_answers (es : List WireEvent) : given es = (answers es).filterMap data? := by
  rw [answers, List.filterMap_filterMap, given]
  congr 1
  funext e
  cases e <;> rfl

theorem answers_of_silent {es : List WireEvent} (h : Silent es) : answers es = [] := by
  refine List.filterMap_eq_nil_iff.2 fun e he => ?_
  cases e with
  | read id n a => exact absurd he (h.unread id n a)
  | _ => rfl

theorem answers_reads (id : StreamId) (n : Nat) (ps : List Bytes) : answers (reads id n ps) = ps.map .ok := by
  have h : (answer? ∘ fun p => read id n (.ok p)) = some ∘ .ok := funext fun p => rfl
  rw [answers, reads, List.filterMap_map, h, List.filterMap_eq_map]

theorem answers_writes (id : StreamId) (ps : List Bytes) : answers (writes id ps) = [] := by
  refine List.filterMap_eq_nil_iff.2 fun e he => ?_
  obtain ⟨p, -, rfl⟩ := mem_writes he
  rfl

/-- Every read but the last gives something. -/
def Unbroken (es : List WireEvent) : Prop := ∀ a ∈ (answers es).dropLast, data? a ≠ none

theorem length_le_given {as : List (Except Fault Bytes)} (h : ∀ a ∈ as, data? a ≠ none) :
    as.length ≤ (as.filterMap data?).flatten.length := by
  induction as with
  | nil => exact Nat.le_refl 0
  | cons a as ih =>
    have hrest := ih fun x hx => h x (List.mem_cons_of_mem _ hx)
    obtain ⟨p, hp⟩ := Option.ne_none_iff_exists'.1 (h a List.mem_cons_self)
    have hne : p ≠ [] := by
      unfold data? at hp
      split at hp
      · cases hp
        exact List.cons_ne_nil _ _
      · cases hp
    have := List.length_pos_iff.2 hne
    rw [List.filterMap_cons_some hp, List.flatten_cons, List.length_append, List.length_cons]
    omega

/-- Reads that go on only while they give something are at most one more than the bytes that they give. -/
theorem Unbroken.length_le {es : List WireEvent} (h : Unbroken es) :
    (answers es).length ≤ (given es).flatten.length + 1 := by
  rw [given_eq_answers]
  unfold Unbroken at h
  rcases List.eq_nil_or_concat (answers es) with hnil | ⟨as, a, has⟩
  · rw [hnil]
    exact Nat.zero_le _
  · rw [List.concat_eq_append] at has
    rw [has, List.dropLast_concat] at h
    have := length_le_given h
    rw [has, List.filterMap_append, List.flatten_append, List.length_append, List.length_append, List.length_singleton]
    omega

theorem Unbroken.of_reads {id : StreamId} {n : Nat} {ps : List Bytes} {es : List WireEvent} (h : ∀ p ∈ ps, p ≠ [])
    (last : (answers es).length ≤ 1) : Unbroken (reads id n ps ++ es) := by
  have hps : ∀ a ∈ ps.map Except.ok, data? (a : Except Fault Bytes) ≠ none := by
    intro a ha
    obtain ⟨p, hp, rfl⟩ := List.mem_map.1 ha
    rw [ScriptedNetwork.data?_ok (h p hp)]
    exact Option.some_ne_none p
  unfold Unbroken
  rw [answers_append, answers_reads]
  match answers es, last with
  | [], _ =>
    rw [List.append_nil]
    exact fun a ha => hps a (List.dropLast_subset _ ha)
  | [x], _ =>
    rw [List.dropLast_concat]
    exact hps

theorem Unbroken.of_none {es : List WireEvent} (h : answers es = []) : Unbroken es := by
  unfold Unbroken
  rw [h]
  exact fun a ha => nomatch ha

theorem Unbroken.append_left {es fs : List WireEvent} (h : answers es = []) (hf : Unbroken fs) :
    Unbroken (es ++ fs) := by
  unfold Unbroken
  rw [answers_append, h]
  exact hf

end WireEvent

open WireEvent (answers Unbroken)

namespace Session

section

variable {ν : Type} [Network ν] {u : Url} {s t : Session} {w : Recorded ν} {id : StreamId} {keep ended : Bool}
  {a : Option Break × Session × Recorded ν}

/-! ## An attempt -/

/-- Calls of one attempt at a request: they write and read on one stream, and no read follows one that gives nothing. -/
structure Bout (u : Url) (s : Session) (id : StreamId) (es : List WireEvent) : Prop where
  tries : Tries u s id es
  here : ∀ other n x, .read other n x ∈ es → other = id
  unbroken : Unbroken es

theorem finishAtEnd_wire (keep : Bool) (r : Http.Reader) (s : Session) (w : Recorded ν) :
    ∃ es, (finishAtEnd keep r s w).2.2.wire = w.wire ++ es ∧ Silent es := by
  unfold finishAtEnd
  split
  · exact ⟨[], (List.append_nil _).symm, silent_nil⟩
  · obtain ⟨es, hwire, hes⟩ := finish_wire (keep && r.keepAlive) true [] s w
    exact ⟨es, hwire, silent_closes hes⟩

/-- Once a reply is not to go on, one read is made at most. -/
theorem Ending.answers_le {r : Http.Reader} {st : Http.Reader.Standing} (c : Ending id keep ended r st s w a) :
    ∃ es, a.2.2.wire = w.wire ++ es ∧ (answers es).length ≤ 1 := by
  have hquiet {es : List WireEvent} (h : Silent es) : (answers es).length ≤ 1 := by
    rw [WireEvent.answers_of_silent h]
    exact Nat.zero_le 1
  cases c with
  | @complete surplus _ _ =>
    obtain ⟨es, hwire, hes⟩ := finish_wire (keep && r.keepAlive) ended surplus s w
    exact ⟨es, hwire, hquiet (silent_closes hes)⟩
  | switched => exact ⟨[], (List.append_nil _).symm, Nat.zero_le 1⟩
  | broken => exact ⟨[], (List.append_nil _).symm, Nat.zero_le 1⟩
  | silent =>
    obtain ⟨es, hwire, hes⟩ := finishAtEnd_wire keep r s w
    exact ⟨es, hwire, hquiet hes⟩
  | @closed _ _ w' _ read =>
    obtain ⟨es, hwire, hes⟩ := finishAtEnd_wire keep r s w'
    rw [(Recorded.read_eq read).2, List.append_assoc] at hwire
    refine ⟨_, hwire, ?_⟩
    rw [WireEvent.answers_append, WireEvent.answers_of_silent hes, List.append_nil]
    exact Nat.le_refl 1
  | failed _ read => exact ⟨_, (Recorded.read_eq read).2, Nat.le_refl 1⟩

theorem Receipt.unbroken {reader : Http.Reader} (c : Receipt id keep ended reader s w a) :
    ∃ es, a.2.2.wire = w.wire ++ es ∧ Unbroken es := by
  cases c with
  | @interrupted reads mid b t path _ _ _ =>
    refine ⟨_, path.wire, ?_⟩
    rw [← List.append_nil (WireEvent.reads _ _ _)]
    exact .of_reads path.ne_nil (Nat.zero_le 1)
  | heard path _ _ _ ending =>
    obtain ⟨es, hwire, hlast⟩ := ending.answers_le
    rw [path.wire, List.append_assoc] at hwire
    exact ⟨_, hwire, .of_reads path.ne_nil hlast⟩

theorem Course.unbroken {surplus : Bytes} (c : Course u id surplus ended s w a) :
    ∃ es, a.2.2.wire = w.wire ++ es ∧ Unbroken es := by
  cases c with
  | refused => exact ⟨[], (List.append_nil _).symm, .of_none rfl⟩
  | @unsent out done rest p f mid w' _ _ path last =>
    have hlast : answers [.write id p (.error f)] = [] := rfl
    refine ⟨_, ?_, .append_left (WireEvent.answers_writes id done) (.of_none hlast)⟩
    rw [(Recorded.write_eq last).2, path.wire, List.append_assoc]
  | withdrawn _ path => exact ⟨_, path.wire, .of_none (WireEvent.answers_writes _ _)⟩
  | answered _ path _ receipt =>
    obtain ⟨es, hwire, hes⟩ := receipt.unbroken
    rw [path.wire, List.append_assoc] at hwire
    exact ⟨_, hwire, .append_left (WireEvent.answers_writes _ _) hes⟩

/-- Calls that open no stream read from the one that they are about. -/
theorem Talk.here {es : List WireEvent} (h : Talk id es) (other : StreamId) (n : Nat) (x : Except Fault Bytes)
    (hm : .read other n x ∈ es) : other = id := Option.some.inj (h _ hm).1

theorem Course.bout {l : Link} {surplus : Bytes} (c : Course u l.stream surplus ended s w a) (link : s.link = some l) :
    ∃ es, Conversed u l s w a es ∧ Bout u s l.stream es := by
  obtain ⟨es, h⟩ := c.conversed link
  obtain ⟨es', hwire, hunbroken⟩ := c.unbroken
  obtain rfl : es = es' := List.append_cancel_left (h.wire.symm.trans hwire)
  exact ⟨es, h, .of_talk silent_nil h.talk h.once, Talk.here h.talk, hunbroken⟩

theorem Anew.bout (c : Anew u s w a) : ∃ id es, a.2.2.wire = w.wire ++ es ∧ Bout u s id es := by
  cases c with
  | @unopened b t w' opening =>
    obtain ⟨es, h⟩ := opening.dialled
    refine ⟨0, es, h.wire, ?_, fun other n x hm => absurd hm (h.silent.unread other n x),
      .of_none (WireEvent.answers_of_silent h.silent)⟩
    rw [← List.append_nil es]
    exact .of_talk h.silent (talk_nil 0) List.nil_prefix
  | @opened id t w' a opening course =>
    obtain ⟨es, h⟩ := opening.dialled
    obtain ⟨fs, hc, hbout⟩ := course.bout (l := { stream := id, origin := u.origin }) (h.gives id rfl).1
    refine ⟨id, es ++ fs, ?_, .of_talk h.silent hc.talk (pieces_of_options opening.options u ▸ hc.once),
      fun other n x hm => ?_, .append_left (WireEvent.answers_of_silent h.silent) hbout.unbroken⟩
    · rw [hc.wire, h.wire, List.append_assoc]
    · rcases List.mem_append.1 hm with hm | hm
      · exact absurd hm (h.silent.unread other n x)
      · exact hbout.here other n x hm

/-! ## A transfer -/

/-- The calls of a transfer: of no attempt, if it has nowhere to go, of one, or of two; then a stream may be closed. -/
inductive Spent (s : Session) : List WireEvent → Prop
  | idle (aimless : s.closed = true ∨ s.url = none) : Spent s []
  | once {text : String} {u : Url} {id : StreamId} {es ds : List WireEvent} (url : s.url = some (text, u))
      (bout : Bout u s id es) (closes : ∀ e ∈ ds, ∃ id, e = .close id) : Spent s (es ++ ds)
  | twice {text : String} {u : Url} {id id' : StreamId} {es fs ds : List WireEvent} (url : s.url = some (text, u))
      (first : Bout u s id es) (second : Bout u s id' fs) (closes : ∀ e ∈ ds, ∃ id, e = .close id) :
    Spent s (es ++ fs ++ ds)

omit [Network ν] in
theorem Bout.of_options {es : List WireEvent} (h : Bout u s id es) (options : s.options = t.options) : Bout u t id es :=
  ⟨h.tries.of_options options, h.here, h.unbroken⟩

theorem Attempt.spent {text : String} (c : Attempt u s.started w a) (url : s.url = some (text, u)) :
    ∃ es, a.2.2.wire = w.wire ++ es ∧ ∀ ds, (∀ e ∈ ds, ∃ id, e = .close id) → Spent s (es ++ ds) := by
  have hstarted : s.started.options = s.options := rfl
  cases c with
  | fresh _ anew =>
    obtain ⟨id, es, hwire, hbout⟩ := anew.bout
    exact ⟨es, hwire, fun ds hds => .once url (hbout.of_options hstarted) hds⟩
  | reused usable course =>
    obtain ⟨es, hc, hbout⟩ := course.bout (usable_link usable).1
    exact ⟨es, hc.wire, fun ds hds => .once url (hbout.of_options hstarted) hds⟩
  | repeated usable course _ _ anew =>
    obtain ⟨es, hc, hbout⟩ := course.bout (usable_link usable).1
    obtain ⟨id, fs, hwire, hbout'⟩ := anew.bout
    refine ⟨es ++ fs, ?_, fun ds hds =>
      .twice url (hbout.of_options hstarted) (hbout'.of_options course.options) hds⟩
    rw [hwire, hc.wire, List.append_assoc]

/-- **A transfer attempts its request twice at most**, on any network. -/
theorem perform_spent (s : Session) (w : Recorded ν) :
    ∃ es, (s.perform w).2.2.wire = w.wire ++ es ∧ Spent s es := by
  have hspec := perform_spec s w
  generalize s.perform w = a at hspec ⊢
  cases hspec with
  | closed h => exact ⟨[], (List.append_nil _).symm, .idle (.inl h)⟩
  | aimless _ h => exact ⟨[], (List.append_nil _).symm, .idle (.inr h)⟩
  | done _ url attempt =>
    obtain ⟨es, hwire, hes⟩ := attempt.spent url
    exact ⟨es, hwire, List.append_nil es ▸ hes [] nofun⟩
  | @failed _ _ _ _ t w' _ url attempt =>
    obtain ⟨es, hwire, hes⟩ := attempt.spent url
    obtain ⟨ds, hds, hclose⟩ := drop_wire t w'
    have hwire : w'.wire = w.wire ++ es := hwire
    rw [hwire, List.append_assoc] at hds
    exact ⟨es ++ ds, hds, hes ds hclose⟩
  | escaped _ url attempt =>
    obtain ⟨es, hwire, hes⟩ := attempt.spent url
    exact ⟨es, hwire, List.append_nil es ▸ hes [] nofun⟩

omit [Network ν] in
theorem Spent.length_le {es : List WireEvent} (h : Spent s es) :
    (answers es).length ≤ (WireEvent.given es).flatten.length + 2 := by
  have hcloses {ds : List WireEvent} (h : ∀ e ∈ ds, ∃ id, e = .close id) : answers ds = [] :=
    WireEvent.answers_of_silent (silent_closes h)
  cases h with
  | idle => exact Nat.zero_le _
  | once _ bout closes =>
    have := bout.unbroken.length_le
    rw [WireEvent.answers_append, hcloses closes, WireEvent.given_append, WireEvent.given_of_closes closes,
      List.append_nil, List.append_nil]
    omega
  | twice _ first second closes =>
    have := first.unbroken.length_le
    have := second.unbroken.length_le
    rw [WireEvent.answers_append, hcloses closes, WireEvent.given_append, WireEvent.given_of_closes closes,
      List.append_nil, List.append_nil, WireEvent.answers_append, WireEvent.given_append, List.flatten_append,
      List.length_append, List.length_append]
    omega

end

/-! ## What every call keeps -/

section

variable {ν : Type} [Network ν] {P : ν → Prop} {u : Url} {s : Session} {w : ν} {id : StreamId} {keep ended : Bool}
  {a : Option Break × Session × ν}

theorem drop_kept (keeps : Keeps P) (h : P w) (s : Session) : P (s.drop w).2 := by
  unfold drop
  split
  · exact keeps.close h _
  · exact h

theorem finish_kept (keeps : Keeps P) (h : P w) (keep ended : Bool) (surplus : Bytes) (s : Session) :
    P (s.finish keep surplus ended w).2 := by
  unfold finish
  split
  · exact h
  · exact drop_kept keeps h s

theorem finishAtEnd_kept (keeps : Keeps P) (h : P w) (keep : Bool) (r : Http.Reader) (s : Session) :
    P (finishAtEnd keep r s w).2.2 := by
  unfold finishAtEnd
  split
  · exact h
  · exact finish_kept keeps h _ _ _ s

theorem Ending.kept {r : Http.Reader} {st : Http.Reader.Standing} (c : Ending id keep ended r st s w a)
    (keeps : Keeps P) (h : P w) : P a.2.2 := by
  cases c with
  | complete => exact finish_kept keeps h _ _ _ s
  | switched => exact h
  | broken => exact h
  | silent => exact finishAtEnd_kept keeps h _ _ s
  | closed _ read => exact finishAtEnd_kept keeps (keeps.read h read) _ _ s
  | failed _ read => exact keeps.read h read

theorem Receipt.kept {reader : Http.Reader} (c : Receipt id keep ended reader s w a) (keeps : Keeps P) (h : P w) :
    P a.2.2 := by
  cases c with
  | interrupted path => exact path.keeps keeps h
  | heard path _ _ _ ending => exact ending.kept keeps (path.keeps keeps h)

theorem Course.kept {surplus : Bytes} (c : Course u id surplus ended s w a) (keeps : Keeps P) (h : P w) : P a.2.2 := by
  cases c with
  | refused => exact h
  | unsent _ _ path last => exact keeps.write (path.keeps keeps h) last
  | withdrawn _ path => exact path.keeps keeps h
  | answered _ path _ receipt => exact receipt.kept keeps (path.keeps keeps h)

theorem Opening.kept {o : Origin} {x : Except Break StreamId × Session × ν} (c : Opening o s w x) (keeps : Keeps P)
    (h : P w) : P x.2.2 := by
  have hdrop := drop_kept keeps h s
  cases c with
  | unconnected connect => exact keeps.connect hdrop connect
  | plain _ connect => exact keeps.connect hdrop connect
  | secured _ connect secure => exact keeps.secure (keeps.connect hdrop connect) secure
  | unsecured _ connect secure => exact keeps.close (keeps.secure (keeps.connect hdrop connect) secure) _
  | abandoned _ connect secure => exact keeps.secure (keeps.connect hdrop connect) secure

theorem Anew.kept (c : Anew u s w a) (keeps : Keeps P) (h : P w) : P a.2.2 := by
  cases c with
  | unopened opening => exact opening.kept keeps h
  | opened opening course => exact course.kept keeps (opening.kept keeps h)

theorem Attempt.kept (c : Attempt u s w a) (keeps : Keeps P) (h : P w) : P a.2.2 := by
  cases c with
  | fresh _ anew => exact anew.kept keeps h
  | reused _ course => exact course.kept keeps h
  | repeated _ course _ _ anew => exact anew.kept keeps (course.kept keeps h)

/-- **What every call of a network keeps, a transfer keeps.** -/
theorem perform_kept (keeps : Keeps P) (h : P w) (s : Session) : P (s.perform w).2.2 := by
  have hspec := perform_spec s w
  generalize s.perform w = x at hspec ⊢
  cases hspec with
  | closed => exact h
  | aimless => exact h
  | done _ _ attempt => exact attempt.kept keeps h
  | failed _ _ attempt => exact drop_kept keeps (attempt.kept keeps h) _
  | escaped _ _ attempt => exact attempt.kept keeps h

theorem close_kept (keeps : Keeps P) (h : P w) (s : Session) : P (s.close w).2 := by
  unfold close
  split
  · exact h
  · exact drop_kept keeps h s

end
end Session

/-! ## A run -/

namespace Scene

open ScriptedNetwork

theorem onward_new : new.network.network.Onward where
  replies _ h := nomatch h
  streams _ h := nomatch h

theorem onward_run {acts : List Act} (forward : ∀ r, .reply r ∈ acts → r.Forward) :
    (run acts new).network.network.Onward := by
  refine run_keeps acts (P := fun c => c.network.network.Onward) (fun a ha c h => ?_) new onward_new
  have hbalanced : Balanced _ c.network := ⟨h, rfl⟩
  cases a with
  | set x =>
    cases hx : x.apply c.session with
    | error f => rwa [after_set_error hx]
    | ok s => rwa [after_set_ok hx]
  | newList => exact h
  | addField => exact h
  | release => exact h
  | perform => exact (Session.perform_kept (balanced_keeps _) hbalanced c.session).1
  | close => exact (Session.close_kept (balanced_keeps _) hbalanced c.session).1
  | reply r =>
    refine ⟨fun q hq => ?_, h.streams⟩
    rcases List.mem_append.1 hq with hq | hq
    · exact h.replies q hq
    · rw [List.mem_singleton.1 hq]
      exact forward r ha
  | connectFault => exact ⟨h.replies, h.streams⟩
  | tlsFault => exact ⟨h.replies, h.streams⟩
  | writeFault => exact ⟨h.replies, h.streams⟩

/-- **Every transfer ends.**  It attempts its request twice at most, and no read of an attempt follows one that gives
nothing, whatever the server sends.  So it reads twice more at most than it is given bytes; and what it is given, the
network has no more. -/
theorem transfer_ends (acts : List Act) (forward : ∀ r, .reply r ∈ acts → r.Forward) :
    let c := run acts new
    c.performed.network.wire = c.network.wire ++ c.wired ∧ Session.Spent c.session c.wired
      ∧ (answers c.wired).length ≤ (WireEvent.given c.wired).flatten.length + 2
      ∧ (WireEvent.given c.wired).flatten.length + c.performed.network.network.stock = c.network.network.stock := by
  intro c
  obtain ⟨es, hwire, hspent⟩ := Session.perform_spent c.session c.network
  have hwired : c.wired = es := wired_eq hwire
  have hbalanced : Balanced _ c.network := ⟨onward_run forward, rfl⟩
  obtain ⟨-, hstock⟩ := Session.perform_kept (balanced_keeps _) hbalanced c.session
  rw [hwire, WireEvent.given_append, List.flatten_append, List.length_append] at hstock
  rw [hwired]
  refine ⟨hwire, hspent, hspent.length_le, ?_⟩
  have hperformed : c.performed.network = (c.session.perform c.network).2.2 := rfl
  rw [hperformed]
  omega

/-- A reply in pieces, and then, on the same stream, the beginning of one: the last read gives nothing. -/
theorem transfer_ends_truncated :
    let acts : List Act := [.set (.url (.text "http://h/")),
      .reply { data := Bytes.ofText "HTTP/1.1 200 OK\r\nContent-Length: 3\r\n\r\nabc", limit := some 15 }, .perform,
      .reply { data := Bytes.ofText "HTTP/1.1 200", limit := some 5 }]
    let c := run acts new
    (∀ r, .reply r ∈ acts → r.Forward) ∧ Session.Spent c.session c.wired
      ∧ (answers c.wired).length = 4 ∧ (WireEvent.given c.wired).flatten.length = 12
      ∧ c.network.network.stock = 12 := by
  intro acts c
  have hforward : ∀ r, .reply r ∈ acts → r.Forward := by
    intro r hr
    simp only [acts, List.mem_cons, Act.reply.injEq, reduceCtorEq, List.not_mem_nil, false_or, or_false] at hr
    rcases hr with rfl | rfl <;> decide
  obtain ⟨-, hspent, -, -⟩ := transfer_ends acts hforward
  exact ⟨hforward, hspent, by decide +kernel, by decide +kernel, by decide +kernel⟩

end Scene
end Transport
