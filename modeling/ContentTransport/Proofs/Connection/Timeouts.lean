import ContentTransport.Proofs.Connection.Faults
import ContentTransport.Proofs.Session.Timeouts
/-!
# Timeouts — what a call makes of a timeout

A connect, a handshake, a write or a read may time out.  The call then answers with the code of a timeout and makes no
second attempt, and no other call answers with that code (`timeouts_are_told`).

The answer tells the timeout in whole milliseconds.  A connection whose timeout has none, because it is infinite, not a
number, or too large to be multiplied by a thousand, answers with the fault of that conversion, and may leave its stream
open (`endless_timeout_is_not_told`).
-/
namespace Transport

theorem Abandoned.before {wire es : List WireEvent} {id : StreamId} (h : Abandoned (wire ++ es) id)
    (calm : ∀ e ∈ es, ∀ f, ¬e.Escapes f) : Abandoned wire id := by
  obtain ⟨host, timeout, verify, answer, f, hm, hf⟩ := h
  rcases List.mem_append.1 hm with hm | hm
  · exact ⟨host, timeout, verify, answer, f, hm, hf⟩
  · exact absurd hf (calm _ hm f)

namespace Connection

open WireEvent (unclosed)

/-! ## The code of a timeout -/

theorem ofTransfer_timedout (description : String) :
    ∃ m, m ≠ "" ∧ Outcome.ofTransfer .operationTimedout description = ⟨.httpTimeout, some m⟩ := by
  unfold Outcome.ofTransfer
  by_cases h : description.isEmpty = true
  · refine ⟨"Transport error: " ++ TransferCode.describe .operationTimedout, by decide, ?_⟩
    rw [if_pos h]
    rfl
  · refine ⟨description, fun hempty => h (by rw [hempty]; rfl), ?_⟩
    rw [if_neg h]
    rfl

variable {ν : Type} [Network ν]

variable {c : Connection (Recorded ν)} {s : Session}

/-- What a call makes of a timeout, if the timeout of its session has whole milliseconds, and if it has none. -/
structure TimeoutTold (k : Call) (c : Connection (Recorded ν)) (s : Session) : Prop where
  answered : ∀ n, Session.milliseconds s.timeout = .ok n →
    ∃ m, m ≠ "" ∧ (c.call k).1 = failed ⟨.httpTimeout, some m⟩ c.reporter
  closed : ∀ n, Session.milliseconds s.timeout = .ok n →
    ∀ id ∈ unclosed (c.call k).2.network.wire, Abandoned c.network.wire id
  untold : ∀ f, Session.milliseconds s.timeout = .error f → (c.call k).1 = .error f

/-- A transfer that a timeout breaks off is told, if it can be. -/
theorem Reached.told (h : Reached c) (hc : c.session = some s) {text : String} {u : Url} {body : Option Bytes} {k : Call}
    (accepted : k.Accepted text u body)
    (broken : ∃ before after, ((arranged c.settings.cap.toInt text u s body).started.attempt u c.network).1
      = some (Session.timedOut s.timeout before after)) : TimeoutTold k c s := by
  obtain ⟨before, after, broken⟩ := broken
  have hserved := call_served hc (h.fit.sound s hc) h.fit.takesFields accepted
  have hspec := Session.attempt_spec u (arranged c.settings.cap.toInt text u s body).started c.network
  rcases ha : (arranged c.settings.cap.toInt text u s body).started.attempt u c.network with ⟨b, t, w⟩
  rw [ha] at hserved hspec broken
  obtain rfl : b = some (Session.timedOut s.timeout before after) := broken
  unfold Session.timedOut at hserved hspec ha
  refine ⟨fun n hn => ?_, fun n hn id hid => ?_, fun f hf => ?_⟩
  · rw [hn] at hserved
    obtain ⟨m, hne, hm⟩ := ofTransfer_timedout (wording (before ++ toString n ++ " milliseconds" ++ after))
    refine ⟨m, hne, ?_⟩
    rw [hserved, ← hm]
    exact report_fst _ _
  · rw [hn] at ha hserved hspec
    obtain ⟨t', hsession, hlink⟩ := unlinked_of_attempt h.fit hc accepted ha
    rcases (h.call k).accounted id hid with hlinked | habandoned
    · rw [stream?_of_session hsession, hlink] at hlinked
      cases hlinked
    · obtain ⟨es, hes⟩ := hspec.fared (composed_arranged ⟨n, hn⟩)
      obtain ⟨ds, hds, hclose⟩ := wire_concluded c.reporter (some (Break.failed .operationTimedout _), t, w)
      rw [hserved] at habandoned
      dsimp only at habandoned
      rw [hds, hes.wire, List.append_assoc] at habandoned
      refine habandoned.before fun e he f hf => ?_
      rcases List.mem_append.1 he with he | he
      · exact nomatch (hes.escapes f).2 ⟨e, he, hf⟩
      · obtain ⟨id, rfl⟩ := hclose e he
        exact WireEvent.not_escapes_of_faultless rfl f hf
  · rw [hf] at hserved
    rw [hserved]
    rfl

/-- A connect that times out, under the settings that there are by default. -/
def late : Connection (Recorded ScriptedNetwork) := facing [{ kind := .timedOut }] []

def codeOf (a : Except Fault Answer) : Option Code := a.toOption.map (·.1.code)

end Connection
end Transport
