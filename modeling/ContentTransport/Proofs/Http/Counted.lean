import ContentTransport.Proofs.Http.Cuts
import ContentTransport.Proofs.Http.Request
/-!
# Counted — a reply that declares the length of its body

A server may write a status line, the length of the body as the one field, and the body (`replyText`).  Such a reply is
complete with its last byte, and not before, in whatever reads it comes (`Message.Closes.standing`); that is so for the
two statuses without a body as well, since a body of no bytes is what they then declare.
-/
namespace Transport
namespace Http

/-! ## Complete at the end -/

/-- A message that its last byte completes. -/
def Message.Closes (m : Message) : Prop := Reader.Leads (.head {}) m.bytes m.letters (.complete [])

/-- **A message that its last byte completes is complete there, with nothing to spare.** -/
theorem Message.Closes.complete_at_end {m : Message} {reads : List Bytes} {rest surplus : Bytes} {proposed : Bool}
    (closes : m.Closes) (split : m.bytes = reads.flatten ++ rest)
    (complete : (({ proposed := proposed } : Reader).hear reads).2.2 = .complete surplus) : rest = [] ∧ surplus = [] := by
  obtain ⟨hcut, hend, -⟩ := closes _ (at_new proposed)
  rw [split] at hcut hend
  have hstands := ((at_new proposed).trails.hear hcut.left).standing
  rw [Reader.standing_hear, hstands] at complete
  rw [Reader.feed_append] at hend
  generalize ({ proposed := proposed } : Reader).feed reads.flatten = here at complete hend
  have hphase : ∃ read, here.phase = .complete read ∧ surplus = read.reverse := by
    unfold Reader.standing at complete
    cases hp : here.phase with
    | complete read =>
      rw [hp] at complete
      exact ⟨read, rfl, (Reader.Standing.complete.inj complete).symm⟩
    | _ => simp [hp] at complete
  obtain ⟨read, hread, rfl⟩ := hphase
  have hphase := hend.phase
  rw [Reader.feed_of_complete hread] at hphase
  obtain ⟨hrest, rfl⟩ := List.append_eq_nil_iff.1 (Phase.complete.inj hphase)
  exact ⟨List.reverse_eq_nil_iff.1 hrest, rfl⟩

/-- How the reply stands after a part of such a message: hungry, until all of it has been read. -/
theorem Message.Closes.standing {m : Message} {reads : List Bytes} {rest : Bytes} (closes : m.Closes)
    (split : m.bytes = reads.flatten ++ rest) (proposed : Bool) :
    (({ proposed := proposed } : Reader).hear reads).2.2 = if rest = [] then .complete [] else .hungry := by
  by_cases hrest : rest = []
  · subst hrest
    rw [List.append_nil] at split
    obtain ⟨hcut, hend, -⟩ := closes _ (at_new proposed)
    rw [split] at hcut hend
    rw [if_pos rfl, Reader.standing_hear, ((at_new proposed).trails.hear hcut).standing]
    unfold Reader.standing
    rw [hend.phase]
    rfl
  · rw [if_neg hrest]
    by_cases hstands : (({ proposed := proposed } : Reader).hear reads).2.2 = .hungry
    · exact hstands
    · rcases (m.heard_all proposed split (.inr hstands)).2 with ⟨surplus, hcomplete⟩ | ⟨hhungry, -⟩
      · exact absurd (closes.complete_at_end split hcomplete).1 hrest
      · exact hhungry

theorem Message.bytes_ne_nil (m : Message) : m.bytes ≠ [] := by
  simp [bytes, HeadBlock.bytes, blockBytes, crlf]

/-! ## The reply of a server -/

/-- The head of a reply: the status line, the length of the body, and a blank line. -/
def replyHead (status : Nat) (reason body : Bytes) : Bytes :=
  Bytes.ofText "HTTP/1.1 " ++ Bytes.decimal status ++ Bytes.space :: reason ++ crlf
    ++ (Bytes.ofText "Content-Length: " ++ Bytes.decimal body.length ++ crlf) ++ crlf

/-- A reply: its head, and the body. -/
def replyText (status : Nat) (reason body : Bytes) : Bytes := replyHead status reason body ++ body

/-- What a server may reply with: a status of a final reply, a reason of one line, and a body whose length it can
declare, which is empty for the two statuses without one.  Its head is not too long. -/
structure Repliable (status : Nat) (reason body : Bytes) : Prop where
  isFinal : 200 ≤ status ∧ status ≤ 999
  bodiless : status = 204 ∨ status = 304 → body = []
  reason_isLine : reason.all isLineByte = true
  declarable : (Bytes.decimal body.length).length ≤ 20
  short : reason.length + (Bytes.decimal body.length).length + 35 ≤ Reader.longest

/-- The field that declares the length of a body. -/
def lengthField (body : Bytes) : FieldLine where
  field := Request.lengthLine body
  before := [Bytes.space]
  after := []
  name_isToken := show isToken (Bytes.ofText "Content-Length") = true by decide
  value_isFieldValue := Request.isFieldValue_digits (Bytes.all_isDigit_decimal _)
  before_isInline := by decide
  after_isInline := List.all_nil

theorem blockBytes_reply (status : Nat) (reason body : Bytes) :
    blockBytes [statusLine (49, 49) status (some reason), (lengthField body).bytes] = replyHead status reason body := by
  have hversion : Bytes.ofText "HTTP/1.1 " = Bytes.ofText "HTTP/" ++ [49, 46, 49, 32] := by decide
  have hname : Bytes.ofText "Content-Length: " = Bytes.ofText "Content-Length" ++ [Bytes.colon, Bytes.space] := by decide
  simp only [blockBytes, statusLine, replyHead, FieldLine.bytes, lengthField, Request.lengthLine, hversion, hname]
  simp [Bytes.space]

theorem length_replyHead {status : Nat} (h : 100 ≤ status ∧ status ≤ 999) (reason body : Bytes) :
    (replyHead status reason body).length = reason.length + (Bytes.decimal body.length).length + 35 := by
  obtain ⟨a, b, c, hd⟩ := Bytes.decimal_three h.1 h.2
  have hversion : (Bytes.ofText "HTTP/1.1 ").length = 9 := by decide
  have hname : (Bytes.ofText "Content-Length: ").length = 16 := by decide
  simp only [replyHead, hd, List.length_append, List.length_cons, List.length_nil, hversion, hname, crlf]
  omega

theorem declares_length {body : Bytes} (declarable : (Bytes.decimal body.length).length ≤ 20) :
    Declares ([lengthField body].map FieldLine.field) (.counted (Bytes.number 10 (Bytes.decimal body.length))) :=
  @Declares.counted [] [] (Request.lengthLine body) nofun (Request.lengthLine_isNamed body)
    (Bytes.all_isDigit_decimal body.length) (Bytes.decimal_ne_nil _) declarable

theorem version_isDigit : Bytes.isDigit 49 = true ∧ Bytes.isDigit 49 = true := by decide

theorem nothing_informs : ∀ h ∈ ([] : List HeadBlock), h.status < 200 ∧ h.status ≠ 101 :=
  List.forall_mem_nil _

def Repliable.head {status : Nat} {reason body : Bytes} (h : Repliable status reason body) : HeadBlock where
  version := (49, 49)
  status := status
  reason := some reason
  fields := [lengthField body]
  framing := .counted (Bytes.number 10 (Bytes.decimal body.length))
  version_isDigit := version_isDigit
  status_three := ⟨by have := h.isFinal.1; omega, h.isFinal.2⟩
  reason_isLine := h.reason_isLine
  declares := declares_length h.declarable
  short := by
    have hfirst := h.isFinal.1
    change (blockBytes [statusLine (49, 49) status (some reason), (lengthField body).bytes]).length ≤ Reader.longest
    rw [blockBytes_reply, length_replyHead ⟨by omega, h.isFinal.2⟩]
    exact h.short

def Repliable.message {status : Nat} {reason body : Bytes} (h : Repliable status reason body) : Message where
  informing := []
  head := h.head
  content := .plain body
  informs := nothing_informs
  isFinal := show 200 ≤ status from h.isFinal.1
  fits := by
    change body.length = Bytes.number 10 (Bytes.decimal body.length)
    rw [Bytes.number_decimal]
  bodiless := h.bodiless

section

variable {status : Nat} {reason body : Bytes} (h : Repliable status reason body)

theorem Repliable.bytes_message : h.message.bytes = replyText status reason body :=
  congrArg (· ++ body) (blockBytes_reply status reason body)

theorem Repliable.closes : h.message.Closes := by
  have hfinal := HeadBlock.leads_final (h := h.head) h.message.isFinal
  refine hfinal.append (l := [.inl status]) ?_
  have hfits : (Content.plain body).Fits (.counted (Bytes.number 10 (Bytes.decimal body.length))) := h.message.fits
  have hbody : Reader.Leads (Reader.bodyPhase h.head.ending) body (body.map .inr) (.complete []) := by
    unfold HeadBlock.ending
    by_cases hs : status = 204 ∨ status = 304
    · rw [if_pos (by simpa [head] using hs), h.bodiless hs]
      exact Reader.leads_nil nofun
    · rw [if_neg (by simpa [head] using hs)]
      exact Content.leads_framed hfits nofun
  exact hbody

end

end Http
end Transport
