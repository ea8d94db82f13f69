import ContentTransport.Proofs.Connection.Served
import ContentTransport.Proofs.Session.Descriptions
/-!
# Descriptions — how the description of a failure comes back

What a failure writes into a buffer is read back as it was said, if it fits, and otherwise as far as whole characters of
it fit; a surrogate in it, which is no character, comes back as a question mark (`descriptions_read_back`).  A character
that the end of the description cuts is not left out: a replacement stands for it (`cut_character_is_replaced`).
-/
namespace Transport
namespace Connection

open Session (Telling readable upToNul longestDescription leastBuffer)

theorem wording_eq (message : Text.Points) : wording message = String.ofList (readable message) := by
  unfold wording readable
  rw [Session.takeWhile_describe]

/-- The message of a failure that says something is what is read of it. -/
theorem message_ofTransfer (code : TransferCode) {message : Text.Points} (h : Telling message) :
    ∃ told, told ≠ [] ∧ told <+: Text.marked message
      ∧ ((Outcome.ofTransfer code (wording message)).message = some (String.ofList told)
        ∨ (Outcome.ofTransfer code (wording message)).message = some (String.ofList (told ++ [Text.replacement]))) := by
  obtain ⟨told, hsome, hprefix, hread⟩ := (Session.readCut_readable message).told h.upToNul (by decide)
  have hmessage : (Outcome.ofTransfer code (wording message)).message = some (String.ofList (readable message)) := by
    have hne : (wording message).isEmpty = false := by
      rw [wording_eq, String.isEmpty_eq_false_iff]
      intro hempty
      have hnil : readable message = [] := by simpa using congrArg String.toList hempty
      rcases hread with hread | hread <;> rw [hnil] at hread
      · exact hsome hread.symm
      · simp at hread
    unfold Outcome.ofTransfer
    rw [hne, wording_eq]
    rfl
  refine ⟨told, hsome, hprefix.trans (List.takeWhile_prefix _), ?_⟩
  rw [hmessage]
  exact hread.imp (fun h => by rw [h]) (fun h => by rw [h])

/-- **What a failure says is read back as far as whole characters of it fit**, with a question mark for each surrogate,
and nothing that the buffer held before shows; where the end of the description cuts a character, a replacement stands
for it.  The buffer keeps its length and all that lies behind the description.  So the message of a call whose transfer
fails begins like what the transfer says, and there may be one replacement after that. -/
theorem descriptions_read_back {s : Session} {d : Diagnosis} {b : Bytes} {message : Text.Points} (code : TransferCode)
    (bound : s.bound = some d.buffer) (content : s.buffers[d.buffer]? = some b) (size : leastBuffer ≤ b.length)
    (plain : .char (Char.ofNat 0) ∉ message) :
    Text.ReadCut longestDescription (Text.marked message) (d.text (s.fail code message).2).toList
      ∧ (∃ b', (s.fail code message).2.buffers[d.buffer]? = some b' ∧ b'.length = b.length
          ∧ b'.drop leastBuffer = b.drop leastBuffer)
      ∧ ∀ {ν : Type} [Network ν] {c : Connection (Recorded ν)} {k : Call} {s t : Session} {text : String} {u : Url}
          {body : Option Bytes} {code : TransferCode} {m : Text.Points} {w : Recorded ν}, Reached c → c.session = some s →
          k.Accepted text u body →
          (arranged c.settings.cap.toInt text u s body).started.attempt u c.network = (some (.failed code m), t, w) →
          ∃ o told, (c.call k).1 = (report o c.reporter).1 ∧ told ≠ [] ∧ told <+: Text.marked m
            ∧ (o.message = some (String.ofList told)
              ∨ o.message = some (String.ofList (told ++ [Text.replacement]))) := by
  refine ⟨?_, ⟨_, Session.buffer_fail bound content, Session.describe_keeps message size⟩, ?_⟩
  · rw [Session.text_fail bound content, String.toList_ofList, ← Session.upToNul_of_not_mem plain]
    exact Session.readCut_readable message
  · intro ν _ c k s t text u body code m w reached hc accepted failed
    have hfit := reached.fit
    have htelling : Telling m := by
      have hspec := Session.attempt_spec u (arranged c.settings.cap.toInt text u s body).started c.network
      rw [failed] at hspec
      exact (hspec.handled rfl).telling rfl
    obtain ⟨told, hsome, hprefix, hmessage⟩ := message_ofTransfer code htelling
    refine ⟨Outcome.ofTransfer code (wording m), told, ?_, hsome, hprefix, hmessage⟩
    rw [call_served hc (hfit.sound s hc) hfit.takesFields accepted, failed]
    rfl

/-! ## A cut within a character -/

/-- A session with a bound buffer that is larger than it has to be, and not blank. -/
def stained : Session :=
  { readSize_pos := Session.readSize_new_pos, buffers := [List.replicate 300 0x7a], bound := some 0 }

/-- The buffer of that session. -/
def stain : Diagnosis := { buffer := 0 }

/-- A description of 256 bytes, of which the last character takes two. -/
def overlong : Text.Points := List.replicate 254 (.char 'a') ++ [.char 'é']

theorem descriptions_read_back_overlong : .char (Char.ofNat 0) ∉ overlong
    ∧ Text.ReadCut longestDescription (Text.marked overlong) (stain.text (stained.fail .recvError overlong).2).toList
    ∧ ∃ o told m, ((facing [⟨.refused, none, none⟩] []).call plainGet).1 = (report o {}).1 ∧ told ≠ []
        ∧ told <+: Text.marked m
        ∧ (o.message = some (String.ofList told) ∨ o.message = some (String.ofList (told ++ [Text.replacement]))) := by
  have hplain : .char (Char.ofNat 0) ∉ overlong := by decide +kernel
  obtain ⟨hread, -, hcalls⟩ := descriptions_read_back (s := stained) (d := stain) .recvError rfl List.getElem?_cons_zero
    (by decide +kernel) hplain
  have hreached : Reached (facing [⟨.refused, none, none⟩] []) := reached_facing _ _
  have hfails : TransferFails plainGet (facing [⟨.refused, none, none⟩] []) :=
    transferFails_plainGet (s := Scene.new.session) rfl .couldntConnect (by decide +kernel) nofun
  obtain ⟨s, text, u, body, code, m, t, w, hc, accepted, failed⟩ := hfails.attempt hreached.fit
  obtain ⟨o, told, htold⟩ := hcalls hreached hc accepted failed
  exact ⟨hplain, hread, o, told, m, htold⟩

/-- A description that ends in a surrogate. -/
def halved : Text.Points := [.char 'h', .surrogate Text.firstSurrogate]

theorem text_stained (message : Text.Points) :
    stain.text (stained.fail .recvError message).2 = String.ofList (readable message) :=
  Session.text_fail (s := stained) (d := stain) rfl List.getElem?_cons_zero

/-- A character that does not fit is not left out: a replacement stands where it is cut.  Nor is a surrogate read back:
a question mark stands for it. -/
theorem cut_character_is_replaced : .char (Char.ofNat 0) ∉ overlong ++ halved
    ∧ stain.text (stained.fail .recvError overlong).2 = String.ofList (List.replicate 254 'a' ++ [Text.replacement])
    ∧ ¬Text.points (stain.text (stained.fail .recvError overlong).2) <+: overlong
    ∧ stain.text (stained.fail .recvError halved).2 = "h?"
    ∧ ¬Text.points (stain.text (stained.fail .recvError halved).2) <+: halved := by
  have hcut : stain.text (stained.fail .recvError overlong).2
      = String.ofList (List.replicate 254 'a' ++ [Text.replacement]) := by
    have hread : readable overlong = List.replicate 254 'a' ++ [Text.replacement] := by decide +kernel
    rw [text_stained, hread]
  have hmarked : stain.text (stained.fail .recvError halved).2 = "h?" := by
    have hread : readable halved = ['h', '?'] := by decide +kernel
    rw [text_stained, hread]
  rw [hcut, hmarked, Text.points, String.toList_ofList]
  exact ⟨by decide +kernel, rfl, by decide +kernel, rfl, by decide +kernel⟩

end Connection
end Transport
