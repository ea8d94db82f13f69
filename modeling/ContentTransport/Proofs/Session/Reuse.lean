import ContentTransport.Proofs.Session.Traffic
import Mathlib.Data.List.Induction
/-!
# Reuse — which stream a request is written to

Every request goes to a stream that serves its origin (`Serves`): one that was connected to the host and the port of the
origin, with TLS for that host exactly if the scheme asks for it.  A stream that has served a request before is written
to again only if it is open and rests (`Rested`): the last exchange on it was for the same origin, wrote all of its
request, and read all of its reply, and both let the stream go on.  The other way round, a transfer to the origin of a
stream that is open and rests begins on that stream, and connects nothing (`requests_reach_their_origin`).

A reply that ends with its stream is read to its end like any other, and then lets the stream go on as well.  So the
session writes its next request to a stream that the server has ended (`ended_stream_is_written_again`).
-/
namespace Transport

open ScriptedNetwork

namespace Scene

open Session (Sound Ends held)

/-! ## A run -/

/-- An act other than a transfer leaves the stream and the record alone, or closes the stream. -/
theorem after_other {a : Act} (h : a ≠ .perform) (c : Scene) :
    ((c.after a).session.link = c.session.link ∧ (c.after a).network.wire = c.network.wire
        ∧ (c.after a).network.network.streams = c.network.network.streams)
      ∨ ((c.after a).session.link = none ∧ (c.after a).network = (c.session.drop c.network).2) := by
  cases a with
  | perform => exact absurd rfl h
  | close =>
    cases hc : c.session.closed with
    | true =>
      have hsame : c.after .close = c := by
        unfold after closed Session.close
        rw [if_pos hc]
      rw [hsame]
      exact .inl ⟨rfl, rfl, rfl⟩
    | false =>
      right
      unfold after closed Session.close
      rw [if_neg (by rw [hc]; exact Bool.false_ne_true)]
      dsimp only
      rw [Session.drop_fst]
      exact ⟨rfl, rfl⟩
  | set x =>
    cases hx : x.apply c.session with
    | error f =>
      rw [after_set_error hx]
      exact .inl ⟨rfl, rfl, rfl⟩
    | ok s =>
      rw [after_set_ok hx]
      exact .inl ⟨(Session.sameStream_apply hx).link, rfl, rfl⟩
  | newList => exact .inl ⟨rfl, rfl, rfl⟩
  | addField l name value => exact .inl ⟨(Session.sameStream_addField l name value c.session).link, rfl, rfl⟩
  | release l => exact .inl ⟨(Session.sameStream_release l c.session).link, rfl, rfl⟩
  | reply => exact .inl ⟨rfl, rfl, rfl⟩
  | connectFault => exact .inl ⟨rfl, rfl, rfl⟩
  | tlsFault => exact .inl ⟨rfl, rfl, rfl⟩
  | writeFault => exact .inl ⟨rfl, rfl, rfl⟩

/-- What holds between two acts. -/
structure Steady (c : Scene) : Prop where
  sound : Sound c.session.held c.network
  ends : c.session.Ends c.network.wire

theorem Steady.transferred {c : Scene} (h : c.Steady) : c.Transferred := Scene.transferred h.sound h.ends

/-- Nothing but the stream, the record and the streams of the network counts. -/
theorem Steady.same {c d : Scene} (h : c.Steady) (link : d.session.link = c.session.link)
    (wire : d.network.wire = c.network.wire) (streams : d.network.network.streams = c.network.network.streams) :
    d.Steady := by
  have hheld : d.session.held = c.session.held := by rw [held, held, link]
  refine ⟨⟨fun e he id hid => ?_, fun id p b ho hm => ?_, fun id o ho => ?_⟩, fun l left ended hl hc => ?_⟩
  · rw [streams]
    exact h.sound.known e (wire ▸ he) id hid
  · rw [hheld]
    refine h.sound.owns id p b ?_ (wire ▸ hm)
    unfold isOpen stream? at ho ⊢
    rwa [streams] at ho
  · rw [wire]
    exact h.sound.serves id o (hheld ▸ ho)
  · rw [wire]
    exact h.ends l left ended (link ▸ hl) hc

theorem Steady.after {c : Scene} (h : c.Steady) (a : Act) : (c.after a).Steady := by
  by_cases ha : a = .perform
  · rw [ha]
    exact ⟨h.transferred.sound, h.transferred.ends⟩
  · rcases after_other ha c with ⟨hl, hw, hs⟩ | ⟨hl, hn⟩
    · exact h.same hl hw hs
    · refine ⟨?_, fun l left ended hl' => ?_⟩
      · rw [held, hl, hn]
        exact h.sound.drop
      · rw [hl] at hl'
        cases hl'

theorem steady_run (acts : List Act) : (run acts new).Steady :=
  run_keeps acts (fun a _ _ h => h.after a) new
    ⟨⟨fun _ h => (nomatch h), fun _ _ _ _ h => (nomatch h), fun _ _ h => (nomatch h)⟩, fun _ _ _ h => (nomatch h)⟩

theorem Steady.wire_after {c : Scene} (h : c.Steady) (a : Act) :
    ∃ es, (c.after a).network.wire = c.network.wire ++ es := by
  by_cases ha : a = .perform
  · rw [ha]
    exact ⟨c.wired, h.transferred.wire⟩
  · rcases after_other ha c with ⟨-, hw, -⟩ | ⟨-, hn⟩
    · exact ⟨[], by rw [hw, List.append_nil]⟩
    · obtain ⟨es, hes, -⟩ := Session.drop_wire c.session c.network
      exact ⟨es, by rw [hn, hes]⟩

theorem wire_run (acts more : List Act) :
    ∃ es, (run (acts ++ more) new).network.wire = (run acts new).network.wire ++ es := by
  induction more using List.reverseRecOn with
  | nil => exact ⟨[], by rw [List.append_nil, List.append_nil]⟩
  | append_singleton more a ih =>
    obtain ⟨es, hes⟩ := ih
    obtain ⟨fs, hfs⟩ := (steady_run (acts ++ more)).wire_after a
    refine ⟨es ++ fs, ?_⟩
    rw [← List.append_assoc, run_append _ [a], ← List.append_assoc, ← hes]
    exact hfs

/-- A stream that rests: the last transfer that used it made a whole exchange on it, for an origin. -/
def Rested (acts : List Act) (o : Origin) (id : StreamId) (ended : Bool) : Prop :=
  ∃ before after es, acts = before ++ .perform :: after ∧ (run before new).Concluded o id ended
    ∧ (run acts new).network.wire = (run before new).performed.network.wire ++ es ∧ ∀ e ∈ es, e.stream? ≠ some id

theorem run_concat (acts : List Act) (a : Act) : run (acts ++ [a]) new = (run acts new).after a := run_append acts [a] new

theorem rested_of_concluded {acts : List Act} {o : Origin} {id : StreamId} {ended : Bool}
    (h : (run acts new).Concluded o id ended) : Rested (acts ++ [.perform]) o id ended := by
  refine ⟨acts, [], [], rfl, h, ?_, fun _ h => nomatch h⟩
  rw [run_concat, List.append_nil]
  rfl

theorem Rested.concat {acts : List Act} {o : Origin} {id : StreamId} {ended : Bool} (h : Rested acts o id ended)
    (a : Act) {es : List WireEvent} (wire : (run (acts ++ [a]) new).network.wire = (run acts new).network.wire ++ es)
    (others : ∀ e ∈ es, e.stream? ≠ some id) : Rested (acts ++ [a]) o id ended := by
  obtain ⟨before, after, fs, rfl, hc, hw, hfs⟩ := h
  refine ⟨before, after ++ [a], fs ++ es, ?_, hc, ?_, fun e he => ?_⟩
  · rw [List.append_assoc]
    rfl
  · rw [wire, hw, List.append_assoc]
  · rcases List.mem_append.1 he with he | he
    · exact hfs e he
    · exact others e he

theorem rested_concat {acts : List Act} {a : Act} {o : Origin} {id : StreamId} {ended : Bool}
    (h : Rested (acts ++ [a]) o id ended) :
    (a = .perform ∧ (run acts new).Concluded o id ended)
      ∨ (Rested acts o id ended ∧ ∃ es, (run (acts ++ [a]) new).network.wire = (run acts new).network.wire ++ es
          ∧ ∀ e ∈ es, e.stream? ≠ some id) := by
  obtain ⟨before, after, es, heq, hc, hw, hes⟩ := h
  rcases List.eq_nil_or_concat after with rfl | ⟨after, b, rfl⟩
  · obtain ⟨rfl, hb⟩ := List.append_inj' heq rfl
    cases hb
    exact .inl ⟨rfl, hc⟩
  · rw [List.concat_eq_append, ← List.cons_append, ← List.append_assoc] at heq
    obtain ⟨rfl, hb⟩ := List.append_inj' heq rfl
    cases hb
    obtain ⟨fs, hfs⟩ := wire_run (before ++ [.perform]) after
    obtain ⟨gs, hgs⟩ := wire_run (before ++ .perform :: after) [a]
    rw [run_concat, List.append_assoc] at hfs
    have hfs : (run (before ++ .perform :: after) new).network.wire = (run before new).performed.network.wire ++ fs := hfs
    rw [hgs, hfs, List.append_assoc] at hw
    have hsplit := List.append_cancel_left hw
    refine .inr ⟨⟨before, after, fs, rfl, hc, hfs, fun e he => hes e ?_⟩, gs, hgs, fun e he => hes e ?_⟩
    · rw [← hsplit]
      exact List.mem_append_left _ he
    · rw [← hsplit]
      exact List.mem_append_right _ he

theorem Concluded.wrote {c : Scene} {o : Origin} {id : StreamId} {ended : Bool} (h : c.Concluded o id ended) :
    ∃ p, .write id p (.ok ()) ∈ c.wired := by
  obtain ⟨-, text, u, -, -, out, reads, hreq, -, -, hw, -⟩ := h
  obtain ⟨target, fields, body, hb⟩ := Http.Request.head_of_write hreq
  rw [hb, List.map_cons] at hw
  have hm : (Http.headBytes (c.session.request u).method target fields, true) ∈ WireEvent.writesTo id c.wired := by
    rw [hw]
    exact List.mem_cons_self
  obtain ⟨a, ha, hok⟩ := WireEvent.mem_of_writesTo hm
  refine ⟨Http.headBytes (c.session.request u).method target fields, ?_⟩
  cases a with
  | ok x => exact ha
  | error f => cases hok

theorem Rested.wrote {acts : List Act} {o : Origin} {id : StreamId} {ended : Bool} (h : Rested acts o id ended) :
    ∃ p, .write id p (.ok ()) ∈ (run acts new).network.wire := by
  obtain ⟨before, after, es, -, hconc, hw, -⟩ := h
  obtain ⟨p, hp⟩ := hconc.wrote
  refine ⟨p, ?_⟩
  rw [hw, (steady_run before).transferred.wire]
  exact List.mem_append_left _ (List.mem_append_right _ hp)

theorem Concluded.unique {c : Scene} {o o' : Origin} {id : StreamId} {ended ended' : Bool}
    (h : c.Concluded o id ended) (h' : c.Concluded o' id ended') : o = o' ∧ ended = ended' := by
  obtain ⟨-, text, u, hu, ho, out, reads, -, -, -, -, hne, hr, -⟩ := h
  obtain ⟨-, text', u', hu', ho', out', reads', -, -, -, -, hne', hr', -⟩ := h'
  rw [hu] at hu'
  cases hu'
  refine ⟨ho.symm.trans ho', ?_⟩
  rw [hr] at hr'
  have hinj : ∀ p q : Bytes, (.ok p : Except Fault Bytes) = .ok q → p = q := fun p q h => by cases h; rfl
  have hsame := (List.map_inj_right hinj).1 hr'
  cases ended with
  | true =>
    cases ended' with
    | true => rfl
    | false =>
      rw [if_pos rfl, if_neg Bool.false_ne_true, List.append_nil] at hsame
      rw [← hsame] at hne'
      exact absurd (List.mem_append_right _ List.mem_cons_self) hne'
  | false =>
    cases ended' with
    | false => rfl
    | true =>
      rw [if_pos rfl, if_neg Bool.false_ne_true, List.append_nil] at hsame
      rw [hsame] at hne
      exact absurd (List.mem_append_right _ List.mem_cons_self) hne

/-- What is known of the stream of the session from the acts so far. -/
structure Traced (acts : List Act) : Prop where
  rested : ∀ l left ended, (run acts new).session.link = some l → l.condition = .idle left ended →
    Rested acts l.origin l.stream ended
  resting : ∀ l o ended, (run acts new).session.link = some l → Rested acts o l.stream ended →
    o = l.origin ∧ ∃ left, l.condition = .idle left ended

theorem Traced.perform {acts : List Act} (h : Traced acts) : Traced (acts ++ [.perform]) := by
  have ht := (steady_run acts).transferred
  have hwire : (run (acts ++ [.perform]) new).network.wire = (run acts new).network.wire ++ (run acts new).wired := by
    rw [run_concat]
    exact ht.wire
  have hkept {l : Link} (hl : (run (acts ++ [.perform]) new).session.link = some l) := ht.kept l (by
    rw [run_concat] at hl
    exact hl)
  constructor
  · intro l left ended hl hc
    rcases hkept hl with ⟨hnone, hl'⟩ | ⟨hbusy, -⟩ | ⟨left', ended', hc', hconc⟩
    · refine (h.rested l left ended hl' hc).concat .perform hwire fun e he => ?_
      rw [hnone] at he
      cases he
    · rw [hc] at hbusy
      cases hbusy
    · rw [hc] at hc'
      cases hc'
      exact rested_of_concluded hconc
  · intro l o ended hl hr
    rcases rested_concat hr with ⟨-, hconc⟩ | ⟨hr, es, hes, hothers⟩
    · rcases hkept hl with ⟨hnone, -⟩ | ⟨-, hfail, -⟩ | ⟨left, ended', hc, hconc'⟩
      · obtain ⟨p, hp⟩ := hconc.wrote
        rw [hnone] at hp
        cases hp
      · exact absurd hconc.1 hfail
      · obtain ⟨rfl, rfl⟩ := hconc.unique hconc'
        exact ⟨rfl, left, hc⟩
    · rw [hwire] at hes
      have hes := List.append_cancel_left hes
      subst hes
      rcases hkept hl with ⟨-, hl'⟩ | ⟨-, -, p, b, hm⟩ | ⟨left, ended', hc, hconc⟩
      · exact h.resting l o ended hl' hr
      · exact absurd rfl (hothers _ hm)
      · obtain ⟨p, hm⟩ := hconc.wrote
        exact absurd rfl (hothers _ hm)

theorem Traced.other {acts : List Act} (h : Traced acts) {a : Act} (ha : a ≠ .perform) : Traced (acts ++ [a]) := by
  have hcase := after_other ha (run acts new)
  rw [← run_concat] at hcase
  rcases hcase with ⟨hl, hw, -⟩ | ⟨hl, -⟩
  · constructor
    · intro l left ended hl' hc
      have hsame : (run (acts ++ [a]) new).network.wire = (run acts new).network.wire ++ [] := by
        rw [hw, List.append_nil]
      exact (h.rested l left ended (hl ▸ hl') hc).concat a hsame fun _ h => nomatch h
    · intro l o ended hl' hr
      rcases rested_concat hr with ⟨hp, -⟩ | ⟨hr, -⟩
      · exact absurd hp ha
      · exact h.resting l o ended (hl ▸ hl') hr
  · constructor
    · intro l left ended hl'
      rw [hl] at hl'
      cases hl'
    · intro l o ended hl'
      rw [hl] at hl'
      cases hl'

theorem traced (acts : List Act) : Traced acts := by
  induction acts using List.reverseRecOn with
  | nil => exact ⟨fun _ _ _ h => (nomatch h), fun _ _ _ h => (nomatch h)⟩
  | append_singleton acts a ih =>
    by_cases ha : a = .perform
    · rw [ha]
      exact ih.perform
    · exact ih.other ha

theorem writes_after_other {a : Act} (ha : a ≠ .perform) {c : Scene} {id : StreamId} {p : Bytes} {b : Except Fault Unit}
    (h : .write id p b ∈ (c.after a).network.wire) : .write id p b ∈ c.network.wire := by
  rcases after_other ha c with ⟨-, hw, -⟩ | ⟨-, hn⟩
  · rwa [hw] at h
  · obtain ⟨es, hes, hclose⟩ := Session.drop_wire c.session c.network
    rw [hn, hes] at h
    rcases List.mem_append.1 h with h | h
    · exact h
    · obtain ⟨_, he⟩ := hclose _ h
      cases he

/-- **Every request goes to its origin, on a stream that is free for it.**  Only transfers write.  Each write of a
transfer goes to a stream that serves the origin of the URL, at most one request to one stream; a stream that was written
to before is open and rests after an exchange for that origin, whose reply may have been ended by the end of the stream.
And an open stream that rests after an exchange for the origin is the one that the transfer begins with. -/
theorem requests_reach_their_origin (acts : List Act) :
    let c := run acts new
    (∀ a id p b, a ≠ .perform → .write id p b ∈ (c.after a).network.wire → .write id p b ∈ c.network.wire)
      ∧ c.performed.network.wire = c.network.wire ++ c.wired
      ∧ (∀ es id p a rest, c.wired = es ++ .write id p a :: rest → ∃ text u, c.session.url = some (text, u)
          ∧ Serves (c.network.wire ++ es) u.origin id
          ∧ (WireEvent.writesTo id c.wired).map Prod.fst <+: c.session.pieces u
          ∧ (WireEvent.writesTo id c.network.wire ≠ [] → isOpen id c.network.network = true
              ∧ ∃ ended, Rested acts u.origin id ended ∧ (ended = true ↔ EndRead id c.network.wire)))
      ∧ ∀ text u id ended, c.session.closed = false → c.session.url = some (text, u) →
          isOpen id c.network.network = true → Rested acts u.origin id ended →
          (∃ l left, c.session.reusable? u.origin c.network = some (l, left, ended) ∧ l.stream = id)
            ∧ ∀ p ps, c.session.pieces u = p :: ps → ∃ b rest, c.wired = .write id p b :: rest := by
  intro c
  have hsteady := steady_run acts
  have ht : c.Transferred := hsteady.transferred
  have htraced := traced acts
  refine ⟨fun a id p b ha h => writes_after_other ha h, ht.wire, fun es id p a rest he => ?_,
    fun text u id ended hc hu ho hr => ?_⟩
  · obtain ⟨text, u, hu, hs, hwhere⟩ := ht.owned es id p a rest he
    refine ⟨text, u, hu, hs, ht.once text u id hu, fun hwritten => ?_⟩
    rcases hwhere with ⟨l, left, ended, hr, rfl⟩ | hfresh
    · obtain ⟨hl, hc, horigin, ho⟩ := Session.reusable?_iff.1 hr
      exact ⟨ho, ended, horigin ▸ htraced.rested l left ended hl hc, (hsteady.ends l left ended hl hc).1⟩
    · exact absurd (WireEvent.writesTo_of_others hfresh) hwritten
  · obtain ⟨p, hm⟩ := hr.wrote
    obtain ⟨⟨_, o⟩, hheld, rfl⟩ := Option.map_eq_some_iff.1 (hsteady.sound.owns id p _ ho hm)
    obtain ⟨l, hl, hlo⟩ := Option.map_eq_some_iff.1 hheld
    cases hlo
    obtain ⟨horigin, left, hcond⟩ := htraced.resting l u.origin ended hl hr
    have hreuse := Session.reusable?_iff.2 ⟨hl, hcond, horigin.symm, ho⟩
    exact ⟨⟨l, left, hreuse, rfl⟩, ht.begins text u l left ended hc hu hreuse⟩

/-- A request to a stream that the server has ended: its last reply ended with the stream, and so did not rest it for
good. -/
theorem ended_stream_is_written_again :
    let acts : List Act := [.set (.url (.text "http://h/")),
      .reply { data := Bytes.ofText "HTTP/1.1 200 OK\r\n\r\na" }, .perform]
    let c := run acts new
    WireEvent.writesTo 0 c.network.wire ≠ [] ∧ EndRead 0 c.network.wire
      ∧ (∃ p b rest, c.wired = .write 0 p b :: rest) ∧ ∀ o, ¬ Rested acts o 0 false := by
  intro acts c
  have hl : c.session.link = some { stream := 0, origin := ⟨"http", "h", 80⟩, condition := .idle [] true } := by
    decide +kernel
  have hu : c.session.url = some ("http://h/", ⟨⟨"http", "h", 80⟩, "/"⟩) := by decide +kernel
  have hr := Session.reusable?_iff.2 ⟨hl, rfl, rfl, show isOpen 0 c.network.network = true by decide +kernel⟩
  have hsteady := steady_run acts
  refine ⟨by decide +kernel, (hsteady.ends _ _ _ hl rfl).1.1 rfl, ?_, fun o ho => ?_⟩
  · have hne : c.session.pieces ⟨⟨"http", "h", 80⟩, "/"⟩ ≠ [] := by decide +kernel
    obtain ⟨p, ps, hp⟩ := List.exists_cons_of_ne_nil hne
    exact ⟨p, hsteady.transferred.begins _ _ _ _ _ (by decide +kernel) hu hr p ps hp⟩
  · obtain ⟨-, left, hc⟩ := (traced acts).resting _ o false hl ho
    cases hc

end Scene

end Transport
