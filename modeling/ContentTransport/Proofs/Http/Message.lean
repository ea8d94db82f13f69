import ContentTransport.Proofs.Http.Lines
/-!
# Message — a whole reply as a server writes it

A message is any number of heads that only inform, a final head, and the body as the final head declares it: as it is,
counted or up to the end of the stream, or in chunks.  Wherever the bytes of a message are cut, it says its status and
its body, and nothing else (`Message.heard`).
-/
namespace Transport
namespace Http

/-! ## Chunks -/

/-- The line in front of a chunk: hexadecimal digits, then spaces and tabs or an extension. -/
structure ChunkLine where
  digits : Bytes
  extension : Bytes
  digits_isHex : digits.all Bytes.isHex = true
  digits_some : digits ≠ []
  digits_few : digits.length ≤ Reader.mostChunkDigits
  extension_begins : extension.all Bytes.isInline = true ∨ extension.head? = some 59
  extension_isLine : extension.all isLineByte = true
  short : digits.length + extension.length + 2 ≤ Reader.longest

namespace ChunkLine

def text (l : ChunkLine) : Bytes := l.digits ++ l.extension

def size (l : ChunkLine) : Nat := Bytes.number 16 l.digits

theorem lf_not_mem (l : ChunkLine) : Bytes.lf ∉ l.text := by
  have h1 : Bytes.lf ∉ l.digits := not_mem_of_all l.digits_isHex (by decide)
  have h2 : Bytes.lf ∉ l.extension := not_mem_of_all l.extension_isLine (by decide)
  simp [text, h1, h2]

theorem takeWhile_extension (l : ChunkLine) : l.extension.takeWhile Bytes.isHex = [] := by
  cases he : l.extension with
  | nil => rfl
  | cons b rest =>
    have hb : Bytes.isHex b = false := by
      rcases l.extension_begins with h | h
      · rw [he, List.all_cons, Bool.and_eq_true] at h
        have hinline := h.1
        simp only [Bytes.isInline, Bool.or_eq_true, beq_iff_eq] at hinline
        rcases hinline with rfl | rfl <;> decide
      · rw [he, List.head?_cons, Option.some.injEq] at h
        subst h
        decide
    rw [List.takeWhile_cons, hb]
    rfl

theorem chunkLength?_text (l : ChunkLine) : Reader.chunkLength? l.text = some l.size := by
  have hhex : ∀ b ∈ l.digits, Bytes.isHex b = true := List.all_eq_true.1 l.digits_isHex
  have htake : l.text.takeWhile Bytes.isHex = l.digits := by
    rw [text, List.takeWhile_append_of_pos hhex, l.takeWhile_extension, List.append_nil]
  have hdrop : l.text.drop l.digits.length = l.extension := by rw [text, List.drop_left]
  have hlf : Bytes.lf ∉ l.extension := not_mem_of_all l.extension_isLine (by decide)
  have hsome : l.digits.isEmpty = false := by simpa using l.digits_some
  have hfew : ¬ l.digits.length > Reader.mostChunkDigits := Nat.not_lt.2 l.digits_few
  unfold Reader.chunkLength?
  simp only [htake, hdrop, hsome, hfew, decide_false, Bool.or_self, Bool.false_eq_true, if_false]
  rw [if_pos, size]
  rcases l.extension_begins with h | h
  · simp [h]
  · simp [h, hlf]

end ChunkLine

namespace Reader

theorem pausable_chunkHeader {line : Bytes} {size : Nat} (h : size ≤ longest) : Pausable (.chunkHeader line size) := by
  refine pausable_of_eq ?_ nofun
  simp [pausePhase, Nat.not_lt.2 h]

theorem step_chunkHeader {r : Reader} {line : Bytes} {size : Nat} {b : UInt8} (h : r.phase = .chunkHeader line size)
    (hb : b ≠ Bytes.lf) : r.step b = r.move (.chunkHeader (b :: line) (size + 1)) := by
  have hf : (b == Bytes.lf) = false := by simpa using hb
  unfold step
  rw [h]
  simp [hf]

theorem leads_chunkText {rest : Bytes} {said : List Letter} {q : Phase} : ∀ (text line : Bytes) (size : Nat),
    Bytes.lf ∉ text → size + text.length ≤ longest →
    Leads (.chunkHeader (text.reverse ++ line) (size + text.length)) rest said q →
      Leads (.chunkHeader line size) (text ++ rest) said q
  | [], _, _, _, _, h => h
  | b :: text, line, size, hlf, hsize, h => by
    rw [List.mem_cons, not_or] at hlf
    rw [List.length_cons] at hsize h
    refine .cons_move (pausable_chunkHeader (by omega)) (fun r hr => step_chunkHeader hr (Ne.symm hlf.1))
      (leads_chunkText text (b :: line) (size + 1) hlf.2 (by omega) ?_) nofun
    have hsum : size + (text.length + 1) = size + 1 + text.length := by omega
    rwa [List.reverse_cons, List.append_assoc, hsum] at h

def chunkPhase : Nat → Phase
  | 0 => .trailer {}
  | n => .chunk n

theorem leads_chunkLine (l : ChunkLine) :
    Leads (.chunkHeader [] 0) (l.text ++ crlf) [] (chunkPhase l.size) := by
  have hlength : l.text.length + 2 ≤ longest := by
    have hs := l.short
    rw [ChunkLine.text, List.length_append]
    omega
  refine leads_chunkText l.text [] 0 l.lf_not_mem (by omega) ?_
  rw [List.append_nil]
  refine .cons_move (pausable_chunkHeader (by omega)) (fun r hr => step_chunkHeader hr cr_ne_lf)
    (.cons_move (q := chunkPhase l.size) (pausable_chunkHeader (by omega)) (fun r hr => ?_) (leads_nil ?_) ?_) nofun
  · have hfin : r.step Bytes.lf = r.finishChunkHeader l.text := by
      unfold step
      rw [hr]
      simp
    rw [hfin]
    unfold finishChunkHeader
    rw [l.chunkLength?_text]
    cases l.size <;> rfl
  · cases l.size with
    | zero => exact pausable_trailer (Nat.zero_le _)
    | succ n => exact nofun
  · cases l.size <;> exact nofun

end Reader

/-- A chunk: the line that gives its length, and its data. -/
structure Chunk where
  line : ChunkLine
  data : Bytes
  size_eq : line.size = data.length
  some : data ≠ []

namespace Chunk

def bytes (c : Chunk) : Bytes := c.line.text ++ crlf ++ (c.data ++ crlf)

theorem leads (c : Chunk) : Reader.Leads (.chunkHeader [] 0) c.bytes (c.data.map .inr) (.chunkHeader [] 0) := by
  have hline := Reader.leads_chunkLine c.line
  have hphase : Reader.chunkPhase c.line.size = .chunk c.data.length := by
    have hlength : c.data.length ≠ 0 := fun h => c.some (List.eq_nil_of_length_eq_zero h)
    rw [c.size_eq]
    cases hn : c.data.length with
    | zero => exact absurd hn hlength
    | succ n => rfl
  rw [hphase] at hline
  have hall := hline.append ((Reader.leads_chunk c.some).append Reader.leads_chunkFooter)
  rwa [List.nil_append, List.append_nil] at hall

theorem leads_all : ∀ chunks : List Chunk, Reader.Leads (.chunkHeader [] 0) (chunks.flatMap bytes)
    ((chunks.flatMap data).map .inr) (.chunkHeader [] 0)
  | [] => Reader.leads_nil (Reader.pausable_chunkHeader (Nat.zero_le _))
  | c :: chunks => by
    have hall := c.leads.append (leads_all chunks)
    rwa [← List.map_append] at hall

end Chunk

/-- A body in chunks: the chunks, the line of the chunk of no bytes, and the fields after it. -/
structure ChunkedBody where
  chunks : List Chunk
  last : ChunkLine
  trailer : List FieldLine
  framing : Framing
  last_size : last.size = 0
  declares : Declares (trailer.map FieldLine.field) framing
  short : (blockBytes (trailer.map FieldLine.bytes)).length ≤ Reader.longest

namespace ChunkedBody

def bytes (b : ChunkedBody) : Bytes :=
  b.chunks.flatMap Chunk.bytes ++ (b.last.text ++ crlf ++ blockBytes (b.trailer.map FieldLine.bytes))

def data (b : ChunkedBody) : Bytes := b.chunks.flatMap Chunk.data

theorem leads (b : ChunkedBody) : Reader.Leads (.chunkHeader [] 0) b.bytes (b.data.map .inr) (.complete []) := by
  obtain ⟨accepted, hok, -⟩ := acceptFields_of_declares b.declares
  have hfields : fieldsOfLines (b.trailer.map FieldLine.bytes) = .ok accepted := by
    rw [fieldsOfLines_map, hok]
    rfl
  have hlines : ∀ l ∈ b.trailer.map FieldLine.bytes, IsLine l := by
    intro l hl
    obtain ⟨f, -, rfl⟩ := List.mem_map.1 hl
    exact f.isLine
  have hshort := b.short
  have htrailer := Reader.leads_trailer (ends_block _ [] hlines 0 false) (by simp only; omega) hfields
  have hline := Reader.leads_chunkLine b.last
  rw [b.last_size] at hline
  have hall := (Chunk.leads_all b.chunks).append (hline.append htrailer)
  rwa [List.append_nil, List.append_nil] at hall

end ChunkedBody

/-! ## Messages -/

/-- A body as it is, or in chunks. -/
inductive Content
  | plain (body : Bytes)
  | chunked (body : ChunkedBody)

namespace Content

def bytes : Content → Bytes
  | plain body => body
  | chunked body => body.bytes

def body : Content → Bytes
  | plain body => body
  | chunked body => body.data

/-- Whether the body is written as the head declares it. -/
def Fits : Content → Framing → Prop
  | plain body, .counted n => body.length = n
  | plain _, .untilEnd => True
  | chunked _, .chunked => True
  | _, _ => False

/-- Where the body of a reply ends. -/
def IsEnd (q : Phase) : Prop := (∃ surplus, q = .complete surplus) ∨ q = .untilEnd

/-- A body that ends by itself is complete at its end. -/
theorem leads_framed {c : Content} {f : Framing} (h : c.Fits f) (hf : f ≠ .untilEnd) :
    Reader.Leads (Reader.bodyPhase f) c.bytes (c.body.map .inr) (.complete []) := by
  cases c with
  | plain body =>
    cases f with
    | counted n =>
      have hlength : body.length = n := h
      subst hlength
      cases body with
      | nil => exact Reader.leads_nil nofun
      | cons b body => exact Reader.leads_counted _ (List.cons_ne_nil _ _)
    | untilEnd => exact absurd rfl hf
    | chunked => cases h
  | chunked body =>
    cases f with
    | chunked => exact body.leads
    | counted n => cases h
    | untilEnd => cases h

theorem leads {c : Content} {f : Framing} (h : c.Fits f) :
    ∃ q, IsEnd q ∧ Reader.Leads (Reader.bodyPhase f) c.bytes (c.body.map .inr) q := by
  by_cases hf : f = .untilEnd
  · subst hf
    cases c with
    | plain body => exact ⟨_, .inr rfl, Reader.leads_untilEnd body⟩
    | chunked body => cases h
  · exact ⟨_, .inl ⟨_, rfl⟩, leads_framed h hf⟩

end Content

/-- A reply as a server writes it. -/
structure Message where
  informing : List HeadBlock
  head : HeadBlock
  content : Content
  informs : ∀ h ∈ informing, h.status < 200 ∧ h.status ≠ 101
  isFinal : 200 ≤ head.status
  fits : content.Fits head.framing
  /-- Two statuses have no body, whatever the fields declare. -/
  bodiless : head.status = 204 ∨ head.status = 304 → content.body = []

namespace Message

def status (m : Message) : Nat := m.head.status

def body (m : Message) : Bytes := m.content.body

def bytes (m : Message) : Bytes := m.informing.flatMap HeadBlock.bytes ++ (m.head.bytes ++ m.content.bytes)

def letters (m : Message) : List Letter := .inl m.status :: m.body.map .inr

@[simp] theorem bodyOf_letters (m : Message) : bodyOf m.letters = m.body := bodyOf_bytes m.body

@[simp] theorem statusesOf_letters (m : Message) : statusesOf m.letters = [m.status] :=
  congrArg (m.status :: ·) (statusesOf_bytes m.body)

theorem leads_informing : ∀ hs : List HeadBlock, (∀ h ∈ hs, h.status < 200 ∧ h.status ≠ 101) →
    Reader.Leads (.head {}) (hs.flatMap HeadBlock.bytes) [] (.head {})
  | [], _ => Reader.leads_nil (Reader.pausable_head (Nat.zero_le _) rfl)
  | h :: hs, hall => by
    obtain ⟨hlt, hne⟩ := hall h List.mem_cons_self
    exact (HeadBlock.leads_informing hlt hne).append
      (leads_informing hs fun g hg => hall g (List.mem_cons_of_mem _ hg))

/-- A body behind a final head; behind a status without a body what is written is surplus. -/
theorem leads_content (m : Message) :
    ∃ q, Content.IsEnd q ∧ Reader.Leads (Reader.bodyPhase m.head.ending) m.content.bytes (m.body.map .inr) q := by
  unfold HeadBlock.ending
  by_cases hs : m.head.status = 204 ∨ m.head.status = 304
  · obtain ⟨surplus, h⟩ := Reader.leads_complete [] m.content.bytes
    have hbody : m.body = [] := m.bodiless hs
    rw [if_pos (by simpa using hs), hbody]
    exact ⟨_, .inl ⟨surplus, rfl⟩, h⟩
  · rw [if_neg (by simpa using hs)]
    exact Content.leads m.fits

theorem leads (m : Message) : ∃ q, Content.IsEnd q ∧ Reader.Leads (.head {}) m.bytes m.letters q := by
  obtain ⟨q, hq, hcontent⟩ := m.leads_content
  exact ⟨q, hq, (leads_informing m.informing m.informs).append
    ((HeadBlock.leads_final m.isFinal).append hcontent)⟩

end Message

/-! ## What is heard of a message -/

namespace Reader

theorem hear_prefix (r : Reader) (ps qs : List Bytes) : (r.hear ps).1 <+: (r.hear (ps ++ qs)).1 := by
  induction ps generalizing r with
  | nil =>
    cases qs with
    | nil => exact ⟨[], List.append_nil _⟩
    | cons q qs => exact ⟨_, rfl⟩
  | cons p ps ih =>
    rw [List.cons_append, hear_cons, hear_cons]
    exact (List.prefix_append_right_inj _).2 (ih _)

theorem piece_hear (r : Reader) (reads : List Bytes) : (r.hear reads).2.1.piece = [] := by
  induction reads generalizing r with
  | nil => exact piece_flush r
  | cons p ps ih => exact ih _

theorem letters_hear (r : Reader) (reads : List Bytes) : (r.hear reads).2.1.letters = [] := by
  rw [letters, events_hear, piece_hear]
  rfl

theorem phase_of_standing {r : Reader} (h : r.standing ≠ .hungry) :
    (∃ surplus, r.phase = .complete surplus) ∨ r.phase = .switched ∨ ∃ f, r.phase = .broken f := by
  unfold standing at h
  cases hp : r.phase with
  | complete surplus => exact .inl ⟨surplus, rfl⟩
  | switched => exact .inr (.inl rfl)
  | broken f => exact .inr (.inr ⟨f, rfl⟩)
  | _ => simp [hp] at h

theorem feed_of_switched {r : Reader} (h : r.phase = .switched) (bytes : Bytes) : r.feed bytes = r := by
  induction bytes with
  | nil => rfl
  | cons b bytes ih =>
    have hstep : r.step b = r := by
      unfold step
      rw [h]
    rw [feed_cons, hstep, ih]

end Reader

theorem at_new (proposed : Bool) : ({ proposed := proposed } : Reader).At (.head {}) := ⟨rfl, fun _ _ => rfl⟩

namespace Message

variable {m : Message} (proposed : Bool) {reads : List Bytes}

/-- All of a message has been heard when all of it has been read, and when its reply stands otherwise than hungry. -/
theorem heard_all {rest : Bytes} (h : m.bytes = reads.flatten ++ rest)
    (hend : rest = [] ∨ (({ proposed := proposed } : Reader).hear reads).2.2 ≠ .hungry) :
    spell (({ proposed := proposed } : Reader).hear reads).1 = m.letters
      ∧ ((∃ surplus, (({ proposed := proposed } : Reader).hear reads).2.2 = .complete surplus)
        ∨ ((({ proposed := proposed } : Reader).hear reads).2.2 = .hungry
          ∧ (({ proposed := proposed } : Reader).hear reads).2.1.atEnd = none)) := by
  obtain ⟨q, hq, hleads⟩ := m.leads
  obtain ⟨hcut, hphase, hsaid⟩ := hleads _ (at_new proposed)
  rw [h] at hcut hphase hsaid
  have htrails := (at_new proposed).trails.hear hcut.left
  have hstands := htrails.standing
  have hatEnd := htrails.atEnd
  have hspell := htrails.said
  rw [Reader.letters_hear, List.append_nil, List.nil_append] at hspell
  rw [Reader.standing_hear] at hend ⊢
  rw [hspell, hstands, hatEnd]
  rw [hstands] at hend
  rw [Reader.feed_append] at hphase hsaid
  have hpause : Reader.Pausable (({ proposed := proposed } : Reader).feed reads.flatten).phase :=
    hcut.left _ (List.prefix_refl _)
  generalize ({ proposed := proposed } : Reader).feed reads.flatten = full at hphase hsaid hend hpause
  have hends : rest = [] → full.At q ∧ full.letters = m.letters := by
    rintro rfl
    exact ⟨hphase, hsaid⟩
  by_cases hhungry : full.standing = .hungry
  · obtain ⟨hat, hl⟩ := hends (hend.resolve_right fun hne => hne hhungry)
    refine ⟨hl, ?_⟩
    rcases hq with ⟨surplus, rfl⟩ | rfl
    · exact .inl ⟨surplus.reverse, by simp [Reader.standing, hat.phase]⟩
    · exact .inr ⟨hhungry, by simp [Reader.atEnd, hat.phase]⟩
  · rcases Reader.phase_of_standing hhungry with ⟨surplus, hp⟩ | hp | ⟨f, hp⟩
    · obtain ⟨more, hmore⟩ := Reader.leads_complete surplus rest
      obtain ⟨-, -, hl⟩ := hmore full ⟨hp, fun s hs => nomatch hs⟩
      refine ⟨?_, .inl ⟨surplus.reverse, by simp [Reader.standing, hp]⟩⟩
      rw [hl, List.append_nil] at hsaid
      exact hsaid
    · rw [Reader.feed_of_switched hp] at hphase
      rw [hphase.phase] at hp
      rcases hq with ⟨surplus, rfl⟩ | rfl
      · cases hp
      · cases hp
    · rw [hp] at hpause
      exact absurd hpause (Reader.not_pausable_broken f)

/-- What has been heard of a message so far is how what it says begins. -/
theorem heard_some {rest : Bytes} (h : m.bytes = reads.flatten ++ rest) :
    spell (({ proposed := proposed } : Reader).hear reads).1 <+: m.letters := by
  have hall : m.bytes = (reads ++ [rest]).flatten ++ [] := by simp [h]
  rw [← (heard_all proposed hall (.inl rfl)).1]
  obtain ⟨more, hmore⟩ := Reader.hear_prefix { proposed := proposed } reads [rest]
  exact ⟨spell more, by rw [← hmore, spell_append]⟩

end Message

end Http
end Transport
