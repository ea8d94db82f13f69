import ContentTransport.Proofs.Connection.Served
import ContentTransport.Proofs.Session.Faults
/-!
# Faults — which faults of the network escape from a call

A call answers with an outcome and a body unless it is garbled, or a call to the network answers with a fault that its
handler does not take: then the fault escapes from the call (`escapes_from_call`).  After a transfer that has failed no
stream is left open, but for those whose handshake such a fault has ended, which nothing closes any more.
-/
namespace Transport
namespace Connection

open WireEvent (unclosed)
open Session (Composed)

section

variable {ν : Type} [Network ν] {c : Connection (Recorded ν)} {r : Reporter} {s t : Session}

/-! ## What a call answers -/

theorem composed_arranged {cap : Int} {text : String} {u : Url} {body : Option Bytes}
    (whole : ∃ n, Session.milliseconds s.timeout = .ok n) : Composed (arranged cap text u s body).started := by
  have hreceiver : (arranged cap text u s body).started.receiver = some (.capped cap Receiver.abort) := by
    cases body <;> rfl
  have htime : (arranged cap text u s body).started.timeout = s.timeout := by cases body <;> rfl
  refine ⟨htime ▸ whole, fun r hr passed size piece f hf => ?_⟩
  rw [hreceiver] at hr
  cases hr
  cases hf

theorem wire_concluded (r : Reporter) (a : Option Break × Session × Recorded ν) :
    ∃ es, (concluded r a).2.2.2.wire = a.2.2.wire ++ es ∧ ∀ e ∈ es, ∃ id, e = .close id := by
  obtain ⟨_ | ⟨code, m⟩ | f, t, w⟩ := a
  · exact ⟨[], (List.append_nil _).symm, nofun⟩
  · exact Session.drop_wire t w
  · exact ⟨[], (List.append_nil _).symm, nofun⟩

def stream? (c : Connection (Recorded ν)) : Option StreamId := (c.session.bind (·.link)).map (·.stream)

/-- Every stream that the record shows open is the one of the session, or has been abandoned. -/
def Accounted (c : Connection (Recorded ν)) : Prop :=
  ∀ id ∈ unclosed c.network.wire, c.stream? = some id ∨ Abandoned c.network.wire id

omit [Network ν] in
theorem stream?_of_session (hc : c.session = some s) : c.stream? = s.link.map (·.stream) := by
  rw [stream?, hc]
  rfl

omit [Network ν] in
theorem accounted_of_session (hc : c.session = some s) : Accounted c ↔ s.Accounted c.network.wire := by
  unfold Accounted Session.Accounted
  rw [stream?_of_session hc]

theorem accounted_concluded (r : Reporter) {a : Option Break × Session × Recorded ν}
    (h : a.2.1.Accounted a.2.2.wire) : (concluded r a).2.1.Accounted (concluded r a).2.2.2.wire := by
  obtain ⟨_ | ⟨code, m⟩ | f, t, w⟩ := a
  · exact h
  · exact h.drop _
  · exact h

theorem Accounted.call (h : Accounted c) (fit : Fit c) (k : Call) : Accounted (c.call k).2 := by
  cases hc : c.session with
  | none =>
    obtain ⟨hsession, hnetwork, -⟩ := call_closed hc k
    unfold Accounted stream? at h ⊢
    rw [hsession, hnetwork]
    rwa [hc] at h
  | some s =>
    have hsound := fit.sound s hc
    have hs := (accounted_of_session hc).1 h
    rcases k.accepted_or with ⟨text, u, body, accepted⟩ | hno
    · have hspec := Session.attempt_spec u (arranged c.settings.cap.toInt text u s body).started c.network
      have hlink : (arranged c.settings.cap.toInt text u s body).started.link = s.link := by cases body <;> rfl
      have hbegin : (arranged c.settings.cap.toInt text u s body).started.Accounted c.network.wire := by
        intro id hid
        rw [hlink]
        exact hs id hid
      rw [call_served hc hsound fit.takesFields accepted, accounted_of_session rfl]
      intro id hid
      rw [link_dismissed]
      exact accounted_concluded c.reporter (hspec.accounted hbegin) id hid
    · obtain ⟨t, hlasting, hcall⟩ :=
        call_refused hc hsound fit.takesFields hno
      have hlink := congrArg Session.link hlasting
      have hlink : t.link = s.link := hlink
      rw [hcall, accounted_of_session rfl]
      intro id hid
      rw [hlink]
      exact hs id hid

theorem Accounted.close (h : Accounted c) (fit : Fit c) : Accounted c.close := by
  unfold Connection.close
  split
  · exact h
  · rename_i s hc
    have hs := (accounted_of_session hc).1 h
    have hopen := (fit.sound s hc).1
    unfold Session.close
    rw [if_neg (by rw [hopen]; exact Bool.false_ne_true)]
    exact hs.drop { s with link := none }

theorem Reached.accounted (h : Reached c) : Accounted c := by
  induction h with
  | made h =>
    intro id hid
    rw [(fit_of_make h).2.1] at hid
    cases hid
  | call h k ih => exact ih.call h.fit k
  | close h ih => exact ih.close h.fit
  | heard _ l ih => exact ih
  | turn _ n ih => exact ih

/-! ## Every connection -/

def boom : NetworkFault := ⟨.runtime, none, some "boom"⟩

end

end Connection
end Transport
