import Mathlib.Data.List.TakeWhile
import ContentTransport.Proofs.Session.Exchange
import ContentTransport.Proofs.Text.Utf8
import ContentTransport.Session.Diagnosis
/-!
# Descriptions — what a failure writes into the buffer, and what is read of it

A description takes the place of whatever the buffer held in front of it: what is read is the description alone, with
question marks for its surrogates, as far as whole characters of it fit (`text_fail`, `readCut_readable`).  The buffer
keeps its length, and its bytes behind the place of the longest description (`describe_keeps`).  Every failure of a
transfer says something (`Handled.telling`).
-/
namespace Transport
namespace Session

/-! ## The buffer -/

/-- The characters of a description up to a NUL, where reading ends. -/
def upToNul (message : Text.Points) : List Char := (Text.marked message).takeWhile (· != Char.ofNat 0)

theorem upToNul_of_not_mem {message : Text.Points} (h : .char (Char.ofNat 0) ∉ message) :
    upToNul message = Text.marked message := by
  refine List.takeWhile_eq_self_iff.2 fun c hc => ?_
  rw [bne_iff_ne]
  rintro rfl
  obtain ⟨p, hp, hmark⟩ := List.mem_map.1 hc
  cases p with
  | char c =>
    obtain rfl : c = Char.ofNat 0 := hmark
    exact h hp
  | surrogate n => cases hmark

/-- What is read of a description. -/
def readable (message : Text.Points) : List Char :=
  Text.ofUtf8 ((Text.utf8 (upToNul message)).take longestDescription)

theorem readCut_readable (message : Text.Points) : Text.ReadCut longestDescription (upToNul message) (readable message) :=
  Text.readCut_utf8 _ _

theorem takeWhile_take_append {p : UInt8 → Bool} {z : UInt8} (stop : p z = false) (r : Bytes) :
    ∀ (n : Nat) (l : Bytes), (l.take n ++ z :: r).takeWhile p = (l.takeWhile p).take n
  | 0, l => by simp [stop]
  | _ + 1, [] => by simp [stop]
  | n + 1, b :: l => by
    cases hb : p b with
    | false => simp [hb]
    | true => simp [hb, takeWhile_take_append stop r n l]

/-- What the buffer held before does not show. -/
theorem takeWhile_describe (message : Text.Points) (buffer : Bytes) : (describe message buffer).takeWhile (· != 0)
    = (Text.utf8 (upToNul message)).take longestDescription := by
  have h := takeWhile_take_append (p := (· != 0)) (z := 0) rfl
    (buffer.drop (((Text.utf8 (Text.marked message)).take longestDescription).length + 1)) longestDescription
    (Text.utf8 (Text.marked message))
  rw [Text.takeWhile_utf8] at h
  exact h

/-- A description leaves the length of a buffer of the least size or more, and its bytes from there on. -/
theorem describe_keeps (message : Text.Points) {buffer : Bytes} (size : leastBuffer ≤ buffer.length) :
    (describe message buffer).length = buffer.length
      ∧ (describe message buffer).drop leastBuffer = buffer.drop leastBuffer := by
  have hdescribe : describe message buffer = (Text.utf8 (Text.marked message)).take longestDescription ++ 0 ::
      buffer.drop (((Text.utf8 (Text.marked message)).take longestDescription).length + 1) := rfl
  have hshort : ((Text.utf8 (Text.marked message)).take longestDescription).length ≤ 255 := List.length_take_le _ _
  have hsize : 256 ≤ buffer.length := size
  rw [hdescribe]
  generalize (Text.utf8 (Text.marked message)).take longestDescription = text at hshort ⊢
  constructor
  · rw [List.length_append, List.length_cons, List.length_drop]
    omega
  · obtain ⟨k, hk⟩ := Nat.exists_eq_add_of_le (show text.length + 1 ≤ leastBuffer from Nat.succ_le_succ hshort)
    have hdrop : leastBuffer = text.length + (k + 1) := by omega
    rw [hdrop, List.drop_length_add_append, List.drop_succ_cons, List.drop_drop]
    congr 1
    omega

variable {s : Session} {code : TransferCode} {message : Text.Points} {b : Bytes}

theorem buffer_fail {id : BufferId} (bound : s.bound = some id) (content : s.buffers[id]? = some b) :
    (s.fail code message).2.buffers[id]? = some (describe message b) := by
  unfold fail
  rw [bound]
  simp [content]

/-- A failure is described in the bound buffer, and in no other. -/
theorem buffer_fail_of_ne {id : BufferId} (other : s.bound ≠ some id) :
    (s.fail code message).2.buffers[id]? = s.buffers[id]? := by
  unfold fail
  cases hbound : s.bound with
  | none => rfl
  | some i =>
    have hne : i ≠ id := fun h => other (hbound.trans (congrArg some h))
    exact List.getElem?_modify_ne _ _ hne

/-- What is read of the bound buffer after a failure is the description of that failure. -/
theorem text_fail {d : Diagnosis} (bound : s.bound = some d.buffer) (content : s.buffers[d.buffer]? = some b) :
    d.text (s.fail code message).2 = String.ofList (readable message) := by
  unfold Diagnosis.text described
  rw [buffer_fail bound content, Option.getD_some, takeWhile_describe]
  rfl

/-! ## What a failure says -/

/-- A text that begins with a character other than NUL. -/
def Telling (message : Text.Points) : Prop := ∃ c ∈ (Text.marked message).head?, c ≠ Char.ofNat 0

theorem Telling.append (h : Telling message) (more : Text.Points) : Telling (message ++ more) := by
  obtain ⟨c, hc, hne⟩ := h
  refine ⟨c, ?_, hne⟩
  rw [Text.marked_append, List.head?_append, hc]
  rfl

theorem telling_timedOut {timeout : Float} {before after : String} (h : Telling before)
    (hb : timedOut timeout before after = .failed code message) : Telling message := by
  unfold timedOut at hb
  split at hb
  · cases hb
    exact ((h.append _).append _).append _
  · cases hb

/-- **Every failure of a transfer says something**, whatever the texts are that it shows. -/
theorem Handled.telling {x : Break} (h : Handled x) (hx : x = .failed code message) : Telling message := by
  have hliteral (text : String) (c : Char) (hc : text.toList.head? = some c) (hne : c ≠ Char.ofNat 0) : Telling text :=
    ⟨c, by rw [Text.marked_points, hc]; rfl, hne⟩
  cases h with
  | connect o timeout f =>
    unfold connectBreak at hx
    split at hx
    · exact telling_timedOut (hliteral _ 'C' rfl (by decide)) hx
    split at hx
    · cases hx
      exact (hliteral "Could not resolve host: " 'C' rfl (by decide)).append _
    split at hx
    · cases hx
      exact (hliteral "Bad port: " 'B' rfl (by decide)).append _
    split at hx
    · cases hx
      exact (((((hliteral "Failed to connect to " 'F' rfl (by decide)).append _).append _).append _).append _).append _
    · cases hx
  | secure fault =>
    unfold tlsBreak? at fault
    split at fault
    · cases fault
      exact telling_timedOut (hliteral _ 'T' rfl (by decide)) hx
    split at fault
    · cases fault
      cases hx
      exact (hliteral "TLS handshake failed: " 'T' rfl (by decide)).append _
    · cases fault
  | write timeout f =>
    unfold writeBreak at hx
    split at hx
    · exact telling_timedOut (hliteral _ 'O' rfl (by decide)) hx
    split at hx
    · cases hx
      exact (hliteral "Send failure: " 'S' rfl (by decide)).append _
    split at hx
    · cases hx
      exact (hliteral "Invalid request: " 'I' rfl (by decide)).append _
    · cases hx
  | read timeout received f =>
    unfold readBreak at hx
    split at hx
    · exact telling_timedOut (hliteral _ 'O' rfl (by decide)) hx
    split at hx
    · cases hx
      exact (hliteral "Recv failure: " 'R' rfl (by decide)).append _
    · cases hx
  | reply t f =>
    unfold replyBreak at hx
    split at hx
    · cases hx
      exact hliteral _ 'E' rfl (by decide)
    split at hx
    · cases hx
      exact (hliteral "Invalid server reply: " 'I' rfl (by decide)).append _
    · cases hx
      exact (hliteral "Transfer closed with outstanding read data remaining: " 'T' rfl (by decide)).append _
  | request text =>
    cases hx
    exact (hliteral "Invalid request: " 'I' rfl (by decide)).append _
  | switched =>
    cases hx
    exact hliteral _ 'U' rfl (by decide)
  | untaken text =>
    cases hx
    exact (hliteral "Failure writing output to destination, passed " 'F' rfl (by decide)).append _
  | escaped f => cases hx

theorem Telling.upToNul (h : Telling message) : upToNul message ≠ [] := by
  obtain ⟨c, hc, hne⟩ := h
  unfold Session.upToNul
  cases hm : Text.marked message with
  | nil =>
    rw [hm] at hc
    cases hc
  | cons d r =>
    rw [hm] at hc
    cases hc
    have hkept : (c :: r).takeWhile (· != Char.ofNat 0) = c :: r.takeWhile (· != Char.ofNat 0) :=
      List.takeWhile_cons_of_pos (bne_iff_ne.2 hne)
    rw [hkept]
    exact nofun

end Session
end Transport
