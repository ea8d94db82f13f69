import ContentTransport.Proofs.Http.Message
/-!
# Cuts — any reply, cut in any way

A reply that is not well formed may be refused at the end of one read, where another way of cutting it goes on and
refuses it later.  What it has said until then is the same, and nothing that follows can save it (`Doomed`).  So whatever
the bytes are, how a reply closes depends on all of them together and not on the reads that they come in
(`hear_closing`).  The one exception is an unfinished line or head that is too long at the end of a read.
-/
namespace Transport
namespace Http

/-! ## Blocks that begin wrongly -/

namespace LineBlock

/-- The first byte of all. -/
def first? (s : LineBlock) : Option UInt8 := (s.lines.reverse ++ [s.line.reverse]).head?.bind List.head?

/-- A block that knows whether its first byte is one that begins no line. -/
structure Kempt (s : LineBlock) : Prop where
  new : s.size = 0 → s.lines = [] ∧ s.line = []
  odd : s.odd = true → ∃ b, s.first? = some b ∧ b ≤ 32

theorem kempt_new : Kempt {} := ⟨fun _ => ⟨rfl, rfl⟩, nofun⟩

theorem head?_dropReturn (line : Bytes) (h : dropReturn line ≠ []) :
    (dropReturn line).reverse.head? = line.reverse.head? := by
  cases line with
  | nil => rfl
  | cons b rest =>
    unfold dropReturn at h ⊢
    dsimp only at h ⊢
    by_cases hb : (b == Bytes.cr) = true
    · rw [if_pos hb] at h ⊢
      obtain ⟨c, rest', he⟩ := List.exists_cons_of_ne_nil (List.reverse_ne_nil_iff.2 h)
      rw [List.reverse_cons, he]
      rfl
    · rw [if_neg hb]

theorem Kempt.step {s t : LineBlock} {b : UInt8} (h : Kempt s) (ht : s.step b = .inl t) : Kempt t := by
  unfold LineBlock.step at ht
  split at ht
  · split at ht
    · cases ht
    · rename_i l hne
      cases ht
      refine ⟨nofun, fun ho => ?_⟩
      obtain ⟨c, hc, hle⟩ := h.odd ho
      refine ⟨c, ?_, hle⟩
      have hhead := head?_dropReturn s.line (fun he => hne he)
      unfold first? at hc ⊢
      cases hs : s.lines with
      | nil => simpa [hs, hhead] using hc
      | cons line lines => simpa [hs] using hc
  · cases ht
    refine ⟨nofun, fun ho => ?_⟩
    by_cases h0 : s.size = 0
    · obtain ⟨hlines, hline⟩ := h.new h0
      refine ⟨b, by simp [first?, hlines, hline], by simpa [h0] using ho⟩
    · obtain ⟨c, hc, hle⟩ := h.odd (by simpa [h0] using ho)
      refine ⟨c, ?_, hle⟩
      unfold first? at hc ⊢
      cases hs : s.lines with
      | nil =>
        have hc : s.line.reverse.head? = some c := by simpa [hs] using hc
        simp only [List.reverse_nil, List.nil_append, List.head?_cons, Option.bind_some, List.reverse_cons]
        rw [List.head?_append, hc]
        rfl
      | cons line lines => simpa [hs] using hc

theorem statusOfLine_of_head? (line : Bytes) {b : UInt8} (h : line.head? = some b) (hb : b ≤ 32) :
    ∃ f, statusOfLine line = .error f := by
  unfold statusOfLine
  dsimp only
  split
  · rename_i major minor a b' c rest
    cases h
    exact absurd hb (by decide)
  · exact ⟨_, rfl⟩

/-- A block that begins wrongly ends in no head. -/
theorem Kempt.ofLines {s : LineBlock} {b : UInt8} {lines : List Bytes} (h : Kempt s) (ho : s.odd = true)
    (he : s.step b = .inr lines) : ∃ f, Head.ofLines lines = .error f := by
  unfold LineBlock.step at he
  split at he
  · split at he
    · cases he
      obtain ⟨c, hc, hle⟩ := h.odd ho
      unfold first? at hc
      cases hl : s.lines.reverse with
      | nil => exact ⟨_, rfl⟩
      | cons line lines =>
        rw [hl] at hc
        obtain ⟨f, hf⟩ := statusOfLine_of_head? line hc hle
        refine ⟨f, ?_⟩
        simp [Head.ofLines, hf, bind, Except.bind]
    · cases he
  · cases he

end LineBlock

namespace Reader

open LineBlock (Kempt)

/-! ## Replies that are lost -/

/-- A reply that is broken, or that the next end of a read shows to be broken, whatever comes before that. -/
inductive Doomed : Phase → Prop
  | broken (f : ReplyFault) : Doomed (.broken f)
  | head {s : LineBlock} (kempt : Kempt s) (odd : s.odd = true) : Doomed (.head s)
  | chunkFooter {a : UInt8} (h : a ≠ Bytes.cr) : Doomed (.chunkFooter (some a))

theorem Doomed.pausePhase {p : Phase} (h : Doomed p) : ∃ f, pausePhase p = .broken f := by
  cases h with
  | broken f => exact ⟨f, rfl⟩
  | head _ odd => exact ⟨_, if_pos odd⟩
  | chunkFooter h => exact ⟨_, if_neg (by simpa using h)⟩

theorem finishHead_of_error {r : Reader} {lines : List Bytes} {f : ReplyFault} (h : Head.ofLines lines = .error f) :
    r.finishHead lines = r.move (.broken f) := by
  unfold finishHead
  rw [h]

theorem Doomed.step {r : Reader} (h : Doomed r.phase) (b : UInt8) :
    Doomed (r.step b).phase ∧ (r.step b).letters = r.letters := by
  unfold Reader.step
  generalize hp : r.phase = p at h ⊢
  cases h with
  | broken f =>
    refine ⟨?_, rfl⟩
    dsimp only
    rw [hp]
    exact .broken f
  | @head s kempt odd =>
    dsimp only
    cases hs : s.step b with
    | inl t =>
      refine ⟨.head (kempt.step hs) ?_, rfl⟩
      obtain ⟨c, hc, -⟩ := kempt.odd odd
      unfold LineBlock.step at hs
      split at hs
      · split at hs
        · cases hs
        · cases hs
          exact odd
      · cases hs
        have hne : s.size ≠ 0 := by
          intro h0
          obtain ⟨hlines, hline⟩ := kempt.new h0
          rw [LineBlock.first?, hlines, hline] at hc
          cases hc
        simpa [hne] using odd
    | inr lines =>
      obtain ⟨f, hf⟩ := kempt.ofLines odd hs
      dsimp only
      rw [finishHead_of_error hf]
      exact ⟨.broken f, rfl⟩
  | chunkFooter h =>
    dsimp only
    rw [if_neg (by simp [h])]
    exact ⟨.broken _, rfl⟩

theorem Doomed.feed {r : Reader} (h : Doomed r.phase) (bytes : Bytes) :
    Doomed (r.feed bytes).phase ∧ (r.feed bytes).letters = r.letters := by
  induction bytes generalizing r with
  | nil => exact ⟨h, rfl⟩
  | cons b bytes ih =>
    obtain ⟨hd, hl⟩ := h.step b
    obtain ⟨hd', hl'⟩ := ih hd
    exact ⟨hd', hl'.trans hl⟩

/-! ## What a reply has said stays said -/

/-- In a head there is no piece, and the head knows how it began. -/
def Sane (r : Reader) : Prop := ∀ s, r.phase = .head s → Kempt s ∧ r.piece = []

/-- A reader further on: it has said what was said before, and perhaps more. -/
structure Onward (r next : Reader) : Prop where
  letters : r.letters <+: next.letters
  sane : Sane next

theorem onward_move {p : Phase} (r : Reader) (hp : ∀ s, p ≠ .head s) : Onward r (r.move p) :=
  ⟨List.prefix_rfl, fun s hs => absurd hs (hp s)⟩

theorem onward_take {p : Phase} (r : Reader) (b : UInt8) (hp : ∀ s, p ≠ .head s) : Onward r (r.take b p) := by
  refine ⟨?_, fun s hs => absurd hs (hp s)⟩
  rw [letters_take]
  exact List.prefix_append _ _

theorem Onward.flush {r next : Reader} (h : Onward r next) : Onward r next.flush := by
  refine ⟨?_, fun s hs => ?_⟩
  · rw [letters_flush]
    exact h.letters
  · rw [phase_flush] at hs
    exact ⟨(h.sane s hs).1, piece_flush next⟩

theorem onward_finishHead {r : Reader} (hp : r.piece = []) (lines : List Bytes) : Onward r (r.finishHead lines) := by
  unfold finishHead
  split
  · exact onward_move r nofun
  · split
    · refine ⟨List.prefix_rfl, fun s hs => ?_⟩
      cases hs
      exact ⟨LineBlock.kempt_new, hp⟩
    · split
      · exact onward_move r nofun
      · exact onward_move r nofun
  · rename_i status keepAlive framing _
    rw [beginBody_eq]
    refine ⟨⟨[.inl status], ?_⟩, fun s hs => ?_⟩
    · rw [letters_move]
      simp [letters, hp, spell, Event.letters]
    cases framing with
    | counted n => cases n <;> cases hs
    | chunked => cases hs
    | untilEnd => cases hs

theorem Sane.step {r : Reader} (h : Sane r) (b : UInt8) : Onward r (r.step b) := by
  unfold Reader.step
  cases hphase : r.phase with
  | head s =>
    obtain ⟨hkempt, hpiece⟩ := h s hphase
    dsimp only
    cases hs : s.step b with
    | inl t =>
      refine ⟨List.prefix_rfl, fun s' hs' => ?_⟩
      cases hs'
      exact ⟨hkempt.step hs, hpiece⟩
    | inr lines => exact onward_finishHead hpiece lines
  | counted expected left =>
    dsimp only
    split
    · exact (onward_take (p := .complete []) r b nofun).flush
    · exact onward_take r b nofun
  | untilEnd => exact onward_take r b nofun
  | chunkHeader line size =>
    dsimp only
    split
    · split
      · unfold finishChunkHeader
        split
        · exact onward_move r nofun
        · exact onward_move r nofun
        · exact onward_move r nofun
      · exact onward_move r nofun
    · exact onward_move r nofun
  | chunk left =>
    dsimp only
    split
    · exact (onward_take (p := .chunkFooter none) r b nofun).flush
    · exact onward_take r b nofun
  | chunkFooter seen =>
    cases seen with
    | none => exact onward_move r nofun
    | some a =>
      dsimp only
      split
      · exact onward_move r nofun
      · exact onward_move r nofun
  | chunkFeed =>
    dsimp only
    split
    · exact onward_move r nofun
    · exact onward_move r nofun
  | trailer s =>
    dsimp only
    cases s.step b with
    | inl s => exact onward_move r nofun
    | inr lines =>
      unfold finishTrailer
      dsimp only
      split
      · exact onward_move r nofun
      · exact onward_move r nofun
  | complete surplus => exact onward_move r nofun
  | switched => exact ⟨List.prefix_rfl, h⟩
  | broken f => exact ⟨List.prefix_rfl, h⟩

theorem Sane.feed {r : Reader} (h : Sane r) (bytes : Bytes) : Onward r (r.feed bytes) := by
  induction bytes generalizing r with
  | nil => exact ⟨List.prefix_rfl, h⟩
  | cons b bytes ih =>
    have hstep := h.step b
    have hrest := ih hstep.sane
    exact ⟨hstep.letters.trans hrest.letters, hrest.sane⟩

theorem sane_new (proposed : Bool) : Sane { proposed := proposed } := by
  intro s hs
  cases hs
  exact ⟨LineBlock.kempt_new, rfl⟩

/-! ## A reader that pauses anywhere, and one that does not -/

/-- A reader that has paused anywhere goes along with one that has not, or one end of a read has shown it that the reply
is lost, or is too long. -/
inductive Follows (told : List Letter) (r full : Reader) : Prop
  | trails (h : Trails told r full) (sane : Sane full)
  | lost {f : ReplyFault} (said : told ++ r.letters = full.letters) (broken : r.phase = .broken f)
      (doomed : Doomed full.phase)
  | overrun (said : told ++ r.letters <+: full.letters) (broken : r.phase = .broken .tooLong) (sane : Sane full)

theorem step_of_broken {r : Reader} {f : ReplyFault} (h : r.phase = .broken f) (b : UInt8) : r.step b = r := by
  unfold step
  rw [h]

section

variable {told : List Letter} {r full : Reader}

theorem Follows.step (h : Follows told r full) (b : UInt8) : Follows told (r.step b) (full.step b) := by
  cases h with
  | trails h sane =>
    rcases h.phase with heq | ⟨hfeed, hfooter⟩
    · exact .trails (h.step_of_phase heq b) (sane.step b).sane
    · rcases step_feed (b := b) hfeed hfooter with ⟨-, hr, hf⟩ | ⟨hr, hf⟩
      · rw [hr, hf]
        exact .trails (h.move nofun) nofun
      · rw [hr, hf]
        exact .lost h.said rfl (.broken _)
  | lost said broken doomed =>
    obtain ⟨hdoomed, hletters⟩ := doomed.step b
    rw [step_of_broken broken]
    exact .lost (said.trans hletters.symm) broken hdoomed
  | overrun said broken sane =>
    rw [step_of_broken broken]
    exact .overrun (said.trans (sane.step b).letters) broken (sane.step b).sane

theorem Follows.feed (h : Follows told r full) (bytes : Bytes) : Follows told (r.feed bytes) (full.feed bytes) := by
  induction bytes generalizing r full with
  | nil => exact h
  | cons b bytes ih => exact ih (h.step b)

theorem phase_settle (r : Reader) : r.settle.2.1.phase = pausePhase r.phase := congrArg pausePhase (phase_flush r)

/-- The end of a read says what the read has said. -/
theorem said_settle (told : List Letter) (r : Reader) :
    told ++ spell r.settle.1 ++ r.settle.2.1.letters = told ++ r.letters := by
  have hs : spell r.settle.1 = r.letters := by
    rw [← letters_flush]
    simp [Reader.settle, pause, letters]
  have hl : r.settle.2.1.letters = [] := by simp [Reader.settle, pause, letters]
  rw [hs, hl, List.append_nil]

/-- What the end of a read shows to be wrong: the reply is lost, or too long. -/
theorem doomed_of_pausePhase {p : Phase} {f : ReplyFault} (hk : ∀ s, p = .head s → Kempt s)
    (h : pausePhase p = .broken f) : f = .tooLong ∨ Doomed p := by
  unfold pausePhase at h
  cases p with
  | head s =>
    dsimp only at h
    by_cases ho : s.odd = true
    · exact .inr (.head (hk s rfl) ho)
    · rw [if_neg ho] at h
      split at h
      · cases h
        exact .inl rfl
      · cases h
  | chunkHeader line size =>
    dsimp only at h
    split at h
    · cases h
      exact .inl rfl
    · cases h
  | chunkFooter seen =>
    cases seen with
    | none => cases h
    | some a =>
      dsimp only at h
      by_cases ha : a = Bytes.cr
      · simp [ha] at h
      · exact .inr (.chunkFooter ha)
  | trailer s =>
    dsimp only at h
    split at h
    · cases h
      exact .inl rfl
    · cases h
  | broken g => exact .inr (.broken g)
  | _ => cases h

theorem Follows.settle (h : Follows told r full) : Follows (told ++ spell r.settle.1) r.settle.2.1 full := by
  cases h with
  | trails h sane =>
    by_cases hp : Pausable full.phase
    · exact .trails (h.settle hp) sane
    · obtain ⟨f, hf⟩ : ∃ f, pausePhase full.phase = .broken f := by simpa [Pausable] using hp
      have heq : r.phase = full.phase := by
        rcases h.phase with heq | ⟨-, hfooter⟩
        · exact heq
        · rw [hfooter] at hf
          cases hf
      have hbroken : r.settle.2.1.phase = .broken f := by rw [phase_settle, heq, hf]
      have hsaid := (said_settle told r).trans h.said
      rcases doomed_of_pausePhase (fun s hs => (sane s hs).1) hf with rfl | hdoomed
      · exact .overrun (hsaid ▸ List.prefix_rfl) hbroken sane
      · exact .lost hsaid hbroken hdoomed
  | lost said broken doomed =>
    have hbroken := phase_settle r
    rw [broken] at hbroken
    exact .lost ((said_settle told r).trans said) hbroken doomed
  | overrun said broken sane =>
    have hbroken := phase_settle r
    rw [broken] at hbroken
    exact .overrun (said_settle told r ▸ said) hbroken sane

theorem Follows.hear (h : Follows told r full) (reads : List Bytes) :
    Follows (told ++ spell (r.hear reads).1) (r.hear reads).2.1 (full.feed reads.flatten) := by
  induction reads generalizing told r full with
  | nil => exact h.settle
  | cons p reads ih =>
    have ht := ih (h.settle.feed p)
    rw [hear_cons, spell_append, ← List.append_assoc, List.flatten_cons, feed_append]
    exact ht

end

/-! ## How a reply closes -/

/-- How a reply closes, if no more of it comes. -/
inductive Closing
  | complete
  | switched
  | refused
  /-- The end of the stream closes it, and completes it or cuts it off. -/
  | cut (completes : Bool)

def closing (r : Reader) : Closing :=
  match pausePhase r.phase with
  | .complete _ => .complete
  | .switched => .switched
  | .broken _ => .refused
  | _ => .cut r.atEnd.isNone

theorem closing_of_phase {r full : Reader} (h : r.phase = full.phase) : r.closing = full.closing := by
  have hend : r.atEnd = full.atEnd := by
    unfold atEnd
    rw [h]
  unfold closing
  rw [h, hend]

theorem pausePhase_pausePhase (p : Phase) : pausePhase (pausePhase p) = pausePhase p := by
  by_cases hp : Pausable p
  · rcases pausePhase_of_pausable hp with hsame | ⟨hfeed, -⟩
    · rw [hsame, hsame]
    · rw [hfeed]
      rfl
  · obtain ⟨f, hf⟩ : ∃ f, pausePhase p = .broken f := by simpa [Pausable] using hp
    rw [hf]
    rfl

theorem settled_hear (r : Reader) (reads : List Bytes) :
    pausePhase (r.hear reads).2.1.phase = (r.hear reads).2.1.phase := by
  induction reads generalizing r with
  | nil => rw [hear_nil, phase_settle, pausePhase_pausePhase]
  | cons p ps ih => exact ih _

/-- How a reader closes that stands so at the end of a read. -/
def Standing.closing (r : Reader) : Standing → Closing
  | .hungry => .cut r.atEnd.isNone
  | .complete _ => .complete
  | .switched => .switched
  | .broken _ => .refused

theorem closing_hear (r : Reader) (reads : List Bytes) :
    (r.hear reads).2.1.closing = (r.hear reads).2.2.closing (r.hear reads).2.1 := by
  rw [standing_hear]
  unfold closing standing
  rw [settled_hear]
  cases (r.hear reads).2.1.phase <;> rfl

theorem feed_of_complete {r : Reader} {surplus : Bytes} (h : r.phase = .complete surplus) (bytes : Bytes) :
    r.feed bytes = r.move (.complete (bytes.reverse ++ surplus)) := by
  induction bytes generalizing r surplus with
  | nil =>
    rw [feed_nil, List.reverse_nil, List.nil_append, ← h]
    rfl
  | cons b bytes ih =>
    have hstep : r.step b = r.move (.complete (b :: surplus)) := by
      unfold step
      rw [h]
    rw [feed_cons, ih (r := r.step b) (by rw [hstep]; rfl), hstep, List.reverse_cons, List.append_assoc]
    rfl

theorem feed_of_broken {r : Reader} {f : ReplyFault} (h : r.phase = .broken f) (bytes : Bytes) : r.feed bytes = r := by
  induction bytes with
  | nil => rfl
  | cons b bytes ih => rw [feed_cons, step_of_broken h, ih]

section

variable (proposed : Bool) (reads : List Bytes) (rest : Bytes)

theorem follows_hear : Follows (spell (({ proposed := proposed } : Reader).hear reads).1)
    (({ proposed := proposed } : Reader).hear reads).2.1 (({ proposed := proposed } : Reader).feed reads.flatten) :=
  Follows.hear (.trails (at_new proposed).trails (sane_new proposed)) reads

theorem letters_follow {told : List Letter} {r full : Reader} (h : Follows told r full) (hl : r.letters = []) :
    told <+: full.letters := by
  cases h with
  | trails h => exact ⟨[], by rw [← h.said, hl]⟩
  | lost said => exact ⟨[], by rw [← said, hl]⟩
  | overrun said =>
    rw [hl, List.append_nil] at said
    exact said

/-- What is heard of a reply is how what it says begins. -/
theorem spell_hear_prefix : spell (({ proposed := proposed } : Reader).hear reads).1
    <+: (({ proposed := proposed } : Reader).feed (reads.flatten ++ rest)).letters := by
  have hsane : Sane (({ proposed := proposed } : Reader).feed reads.flatten) := ((sane_new proposed).feed _).sane
  rw [feed_append]
  exact (letters_follow (follows_hear proposed reads) (letters_hear _ reads)).trans (hsane.feed rest).letters

/-- What is heard of a reply is nothing, or a status and then pieces. -/
theorem said_in_order : (({ proposed := proposed } : Reader).hear reads).1 = []
    ∨ ∃ n ps, (({ proposed := proposed } : Reader).hear reads).1 = reply n ps := by
  have horder := (inOrder_new proposed).hear reads
  have hevents := events_hear { proposed := proposed } reads
  cases horder with
  | before said => exact .inl (by simpa [hevents] using said)
  | behind said => exact .inr ⟨_, _, by simpa [hevents] using said⟩

/-- **How a reply closes depends on its bytes, and not on the reads that they come in**, unless a line or a head is too
long. -/
theorem hear_closing {proposed reads rest}
    (all : rest = [] ∨ (({ proposed := proposed } : Reader).hear reads).2.2 ≠ .hungry)
    (short : (({ proposed := proposed } : Reader).hear reads).2.2 ≠ .broken .tooLong) :
    let full := ({ proposed := proposed } : Reader).feed (reads.flatten ++ rest)
    spell (({ proposed := proposed } : Reader).hear reads).1 = full.letters
      ∧ (({ proposed := proposed } : Reader).hear reads).2.1.closing = full.closing
      ∧ ((∀ f, (({ proposed := proposed } : Reader).hear reads).2.2 ≠ .broken f) →
        (({ proposed := proposed } : Reader).hear reads).2.1.keepAlive = full.keepAlive) := by
  intro full
  have hfollows := follows_hear proposed reads
  have hletters := letters_hear { proposed := proposed } reads
  have hfull : full = (({ proposed := proposed } : Reader).feed reads.flatten).feed rest := feed_append _ _ _
  rw [standing_hear] at all short ⊢
  rw [hfull]
  generalize ({ proposed := proposed } : Reader).feed reads.flatten = here at hfollows
  generalize ({ proposed := proposed } : Reader).hear reads = heard at all short hfollows hletters
  obtain ⟨said, r, _⟩ := heard
  dsimp only at all short hfollows hletters ⊢
  cases hfollows with
  | trails h sane =>
    have hsaid : spell said = here.letters := by rw [← h.said, hletters, List.append_nil]
    by_cases hhungry : r.standing = .hungry
    · obtain rfl := all.resolve_right fun hne => hne hhungry
      refine ⟨hsaid, ?_, fun _ => h.keepAlive⟩
      rcases h.phase with heq | ⟨hfeed, hfooter⟩
      · exact closing_of_phase heq
      · simp [closing, atEnd, hfeed, hfooter, pausePhase]
    · have heq : r.phase = here.phase := by
        rcases h.phase with heq | ⟨hfeed, -⟩
        · exact heq
        · exact absurd (by simp [standing, hfeed]) hhungry
      rcases phase_of_standing hhungry with ⟨surplus, hp⟩ | hp | ⟨f, hp⟩
      · rw [feed_of_complete (heq ▸ hp) rest]
        refine ⟨hsaid, ?_, fun _ => h.keepAlive⟩
        simp [closing, hp, pausePhase]
      · rw [feed_of_switched (heq ▸ hp)]
        exact ⟨hsaid, closing_of_phase heq, fun _ => h.keepAlive⟩
      · rw [feed_of_broken (heq ▸ hp)]
        exact ⟨hsaid, closing_of_phase heq, fun _ => h.keepAlive⟩
  | @lost g hsaid broken doomed =>
    have hstands : r.standing = .broken g := by simp [standing, broken]
    obtain ⟨hdoomed, hl⟩ := doomed.feed rest
    obtain ⟨f, hf⟩ := hdoomed.pausePhase
    refine ⟨?_, ?_, fun hno => absurd hstands (hno g)⟩
    · rw [hl, ← hsaid, hletters, List.append_nil]
    · have hr : pausePhase r.phase = .broken g := by
        rw [broken]
        rfl
      simp only [closing, hf, hr]
  | overrun _ broken _ => exact absurd (by simp [standing, broken]) short

end

end Reader
end Http
end Transport
