import ContentTransport.Proofs.Http.Counted
import ContentTransport.Proofs.Network.Succession
import ContentTransport.Proofs.Session.Capped
/-!
# Resting — a session between two replies

A session rests if it has no stream, or one that has given all of its last reply, over a network in which no fault is to
come (`Rests`).  A transfer from there takes the one next reply, whether it uses its stream again or opens another, and
if it does not break off the session rests again (`Attempt.succession`).
-/
namespace Transport
namespace Session

open ScriptedNetwork

/-- A session that is ready for the next of some replies. -/
structure Rests (replies : List Reply) (s : Session) (w : ScriptedNetwork) : Prop where
  queues : Queues replies w
  idle : ∀ l, s.link = some l → l.condition = .idle [] false ∧ Blank l.stream w

theorem rests_of_unlinked {replies : List Reply} {s : Session} {w : ScriptedNetwork} (h : Queues replies w)
    (unlinked : s.link = none) : Rests replies s w :=
  ⟨h, fun _ hl => nomatch unlinked.symm.trans hl⟩

theorem queues_drop {replies : List Reply} {w : ScriptedNetwork} (h : Queues replies w) (s : Session) :
    Queues replies (s.drop w).2 := by
  cases hl : s.link with
  | none => rwa [drop_of_none hl]
  | some l =>
    rw [drop_of_some hl]
    exact h.close l.stream

/-- One reply has been taken, and if nothing has broken off the session rests. -/
structure Passed (rest : List Reply) (a : Option Break × Session × ScriptedNetwork) : Prop where
  queues : Queues rest a.2.2
  rests : a.1 = none → Rests rest a.2.1 a.2.2

section

variable {cap : Int} {m : Http.Message} {rest : List Reply} {s : Session} {w : ScriptedNetwork} {stream : StreamId}
  {a : Option Break × Session × ScriptedNetwork}

theorem finish_rests {k : Bool} (on : ∀ l, s.link = some l → l.stream = stream) (blank : Blank stream w)
    (queues : Queues rest w) : Rests rest (s.finish k [] false w).1 (s.finish k [] false w).2 := by
  unfold finish
  cases k with
  | true =>
    rw [if_pos rfl]
    refine ⟨queues, fun l hl => ?_⟩
    obtain ⟨l', hl', rfl⟩ := Option.map_eq_some_iff.1 hl
    exact ⟨rfl, on l' hl' ▸ blank⟩
  | false =>
    rw [if_neg Bool.false_ne_true]
    exact rests_of_unlinked (queues_drop queues s) (by rw [drop_fst])

/-- **A reply that its last byte completes is read to that byte**, and the stream rests after it. -/
theorem Receipt.succession {keep proposed : Bool} (r : Receipt stream keep false { proposed := proposed } s w a)
    (giving : Giving stream m.bytes rest w) (closes : m.Closes) (on : ∀ l, s.link = some l → l.stream = stream) :
    Passed rest a := by
  cases r with
  | @interrupted reads mid b t path hungry _ obeyed =>
    obtain ⟨left, -, hgiving, hanswered⟩ := path.giving s.readSize_pos giving
    have hne : reads ≠ [] := by
      rintro rfl
      cases obeyed
    exact ⟨hgiving.queues (hanswered hne), nofun⟩
  | @heard reads mid t a path hungry _ obeyed ending =>
    obtain ⟨left, hleft, hgiving, hanswered⟩ := path.giving s.readSize_pos giving
    have hstands := closes.standing hleft proposed
    have hsize : t.readSize = s.readSize := by
      rw [told_of_obey obeyed]
      rfl
    have hlink : t.link = s.link := by
      rw [told_of_obey obeyed]
      rfl
    have hne : left = [] → reads ≠ [] := by
      rintro rfl rfl
      exact m.bytes_ne_nil hleft
    rw [hstands] at ending
    by_cases hall : left = []
    · subst hall
      have hqueues := hgiving.queues (hanswered (hne rfl))
      have hblank := hgiving.rests (hanswered (hne rfl))
      rw [if_pos rfl] at ending
      cases ending with
      | complete =>
        have hrests (k : Bool) :=
          finish_rests (k := k) (s := t.counting reads.flatten.length) (fun l hl => on l (hlink ▸ hl)) hblank hqueues
        exact ⟨(hrests _).queues, fun _ => hrests _⟩
    · rw [if_neg hall] at ending
      have hread {b : Except Fault Bytes} {v : ScriptedNetwork}
          (h : Network.read stream (t.counting reads.flatten.length).readSize mid = (b, v)) : ∃ p, p ≠ [] ∧ b = .ok p := by
        rcases hgiving.delivers.read (show 0 < (t.counting reads.flatten.length).readSize from hsize ▸ s.readSize_pos) h
          with ⟨rfl, -⟩ | ⟨p, _, hp, hb, -⟩
        · exact absurd rfl hall
        · exact ⟨p, hp, hb⟩
      cases ending with
      | silent h => cases h
      | closed _ read =>
        obtain ⟨p, hp, hb⟩ := hread read
        cases hb
        exact absurd rfl hp
      | failed _ read =>
        obtain ⟨p, -, hb⟩ := hread read
        cases hb

theorem Course.succession {u : Url} {limit : Option Int} (c : Course u stream [] false s w a) (sends : s.Sends u)
    (blank : Blank stream w) (queues : Queues (⟨m.bytes, limit, none⟩ :: rest) w)
    (hlimit : ∀ l, limit = some l → 1 ≤ l) (closes : m.Closes) (on : ∀ l, s.link = some l → l.stream = stream) :
    Passed rest a := by
  have hready := blank.ready queues hlimit
  obtain ⟨out, hout, hfault⟩ := sends
  cases c with
  | refused request =>
    rw [hout] at request
    cases request
  | unsent request pieces path last =>
    obtain ⟨hok, -⟩ := (hready.after_writes path).1.write last
    cases hok
  | withdrawn request path fault =>
    rw [hout] at request
    cases request
    rw [hfault] at fault
    cases fault
  | @answered out' mid _ request path fault receipt =>
    obtain ⟨target, fields, body, hpieces⟩ := Http.Request.head_of_write request
    have hgiving := Giving.of_writes hready queues m.bytes_ne_nil path (by rw [hpieces]; exact List.cons_ne_nil _ _)
    refine receipt.succession hgiving closes fun l hl => ?_
    obtain ⟨l', hl', rfl⟩ := Option.map_eq_some_iff.1 hl
    exact on l' hl'

theorem Opening.queues {o : Origin} {id : StreamId} {t : Session} {w' : ScriptedNetwork} {replies : List Reply}
    (c : Opening o s w (.ok id, t, w')) (h : Queues replies w) : Queues replies w' ∧ Blank id w' := by
  have hdropped : Queues replies (s.drop w).2 := queues_drop h s
  have hconnect {j : StreamId} {v : ScriptedNetwork}
      (hc : Network.connect o.host (.int o.port) (.float s.timeout) (s.drop w).2 = (.ok j, v)) :
      Queues replies v ∧ Blank j v := by
    obtain ⟨hblank, hreplies⟩ := blank_connect hc
    exact ⟨⟨(hdropped.toWilling.connect hc).2, hreplies.trans hdropped.replies⟩, hblank⟩
  cases c with
  | plain scheme connect => exact hconnect connect
  | secured scheme connect secure =>
    obtain ⟨hqueues, hblank⟩ := hconnect connect
    obtain ⟨rfl, hblank', hreplies⟩ := hblank.secure secure
    exact ⟨⟨(hqueues.toWilling.secure secure).2, hreplies.trans hqueues.replies⟩, hblank'⟩

/-- **A transfer takes the next reply, and leaves the session at rest.** -/
theorem Attempt.succession {u : Url} {limit : Option Int} (c : Attempt u s w a)
    (rests : Rests (⟨m.bytes, limit, none⟩ :: rest) s w) (hlimit : ∀ l, limit = some l → 1 ≤ l) (sends : s.Sends u)
    (closes : m.Closes) (h : CollectsWithin cap s) (hcap : 0 ≤ cap) (hempty : s.inbox = {}) (hstatus : s.status = none) :
    Taken cap m a.1 a.2.1 ∧ Passed rest a := by
  have hanew {b : Option Break × Session × ScriptedNetwork} (anew : Anew u s w b) :
      Taken cap m b.1 b.2.1 ∧ Passed rest b := by
    have hanswers := rests.queues.answers hlimit (u.origin.scheme == "https")
    refine ⟨anew.taken sends hanswers h hcap hempty hstatus, ?_⟩
    cases anew with
    | unopened opening =>
      obtain ⟨_, ha, -⟩ := opening.ready hanswers
      cases ha
    | opened opening course =>
      obtain ⟨hqueues, hblank⟩ := opening.queues rests.queues
      obtain ⟨id, ha, hsession, -⟩ := opening.ready hanswers
      cases ha
      dsimp only at hsession
      subst hsession
      exact course.succession sends hblank hqueues hlimit closes fun l hl => by cases hl; rfl
  have hcourse {l : Link} {surplus : Bytes} {ended : Bool} {b : Option Break × Session × ScriptedNetwork}
      (usable : s.reusable? u.origin w = some (l, surplus, ended)) (course : Course u l.stream surplus ended s w b) :
      Taken cap m b.1 b.2.1 ∧ Passed rest b := by
    obtain ⟨hl, hcondition, -⟩ := reusable?_eq_some.1 usable
    obtain ⟨hidle, hblank⟩ := rests.idle l hl
    cases hcondition.symm.trans hidle
    have hready := hblank.ready rests.queues hlimit
    exact ⟨course.taken sends hready h hcap hempty hstatus,
      course.succession sends hblank rests.queues hlimit closes fun l' hl' => by cases hl.symm.trans hl'; rfl⟩
  cases c with
  | fresh _ anew => exact hanew anew
  | reused usable course => exact hcourse usable course
  | @repeated _ _ _ code _ _ _ _ usable course stale =>
    obtain ⟨⟨-, hwhole, hexcess⟩, -⟩ := hcourse usable course
    by_cases hle : (m.body.length : Int) ≤ cap
    · cases (hwhole hle).1
    · obtain ⟨_, hb⟩ := hexcess (Int.not_le.1 hle)
      cases hb
      cases stale

end

end Session
end Transport
