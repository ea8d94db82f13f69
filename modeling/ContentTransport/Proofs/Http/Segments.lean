import ContentTransport.Proofs.Http.Hear
/-!
# Segments — how a reply is cut into reads

A reader that takes a reply in one read is the measure for one that takes it in many.  As long as the reply shows nothing
wrong wherever it may be cut, both say the same but for the ends of the pieces, and come to the same phase (`Trails.hear`).

`Leads` says what bytes do to a reader in a phase: they may be cut anywhere, say some letters, and lead to another phase.
-/
namespace Transport
namespace Http

/-- A status, or a byte of the body. -/
abbrev Letter := Nat ⊕ UInt8

def Event.letters : Event → List Letter
  | .status n => [.inl n]
  | .piece p => p.map .inr

/-- What events say, however they cut the body into pieces. -/
def spell (es : List Event) : List Letter := es.flatMap Event.letters

@[simp] theorem spell_nil : spell [] = [] := rfl

@[simp] theorem spell_append (es fs : List Event) : spell (es ++ fs) = spell es ++ spell fs := List.flatMap_append

def statusesOf (l : List Letter) : List Nat := l.filterMap Sum.getLeft?

def bodyOf (l : List Letter) : Bytes := l.filterMap Sum.getRight?

@[simp] theorem statusesOf_append (l m : List Letter) : statusesOf (l ++ m) = statusesOf l ++ statusesOf m :=
  List.filterMap_append

@[simp] theorem bodyOf_append (l m : List Letter) : bodyOf (l ++ m) = bodyOf l ++ bodyOf m := List.filterMap_append

@[simp] theorem statusesOf_bytes (b : Bytes) : statusesOf (b.map .inr) = [] := by
  simp [statusesOf, List.filterMap_map, Function.comp_def]

@[simp] theorem bodyOf_bytes (b : Bytes) : bodyOf (b.map .inr) = b := by
  simp [bodyOf, List.filterMap_map, Function.comp_def]

@[simp] theorem statusesOf_status (n : Nat) (es : List Event) :
    statusesOf (spell (.status n :: es)) = n :: statusesOf (spell es) := rfl

@[simp] theorem bodyOf_status (n : Nat) (es : List Event) : bodyOf (spell (.status n :: es)) = bodyOf (spell es) := rfl

@[simp] theorem statusesOf_piece (p : Bytes) (es : List Event) :
    statusesOf (spell (.piece p :: es)) = statusesOf (spell es) := by
  rw [show spell (.piece p :: es) = p.map .inr ++ spell es from rfl, statusesOf_append, statusesOf_bytes, List.nil_append]

@[simp] theorem bodyOf_piece (p : Bytes) (es : List Event) :
    bodyOf (spell (.piece p :: es)) = p ++ bodyOf (spell es) := by
  rw [show spell (.piece p :: es) = p.map .inr ++ spell es from rfl, bodyOf_append, bodyOf_bytes]

namespace Reader

/-- What the reply has said since the last read, with the piece that the read has not ended yet. -/
def letters (r : Reader) : List Letter := spell r.events.reverse ++ r.piece.reverse.map .inr

@[simp] theorem phase_move (r : Reader) (p : Phase) : (r.move p).phase = p := rfl

@[simp] theorem phase_take (r : Reader) (b : UInt8) (p : Phase) : (r.take b p).phase = p := rfl

@[simp] theorem letters_move (r : Reader) (p : Phase) : (r.move p).letters = r.letters := rfl

@[simp] theorem letters_take (r : Reader) (b : UInt8) (p : Phase) : (r.take b p).letters = r.letters ++ [.inr b] := by
  simp [letters, take]

@[simp] theorem phase_flush (r : Reader) : r.flush.phase = r.phase := by
  unfold flush
  split <;> rfl

@[simp] theorem letters_flush (r : Reader) : r.flush.letters = r.letters := by
  unfold flush
  split
  · rfl
  · simp [letters, spell, Event.letters]

@[simp] theorem keepAlive_flush (r : Reader) : r.flush.keepAlive = r.keepAlive := by
  unfold flush
  split <;> rfl

@[simp] theorem proposed_flush (r : Reader) : r.flush.proposed = r.proposed := by
  unfold flush
  split <;> rfl

@[simp] theorem piece_flush (r : Reader) : r.flush.piece = [] := by
  unfold flush
  split
  · rename_i h
    exact List.isEmpty_iff.1 h
  · rfl

@[simp] theorem feed_nil (r : Reader) : r.feed [] = r := rfl

theorem feed_cons (r : Reader) (b : UInt8) (bs : Bytes) : r.feed (b :: bs) = (r.step b).feed bs := rfl

theorem feed_append (r : Reader) (xs ys : Bytes) : r.feed (xs ++ ys) = (r.feed xs).feed ys := List.foldl_append

/-! ## Where a reply may be cut -/

/-- The end of a read shows nothing wrong. -/
def Pausable (p : Phase) : Prop := ∀ f, pausePhase p ≠ .broken f

/-- Bytes may be cut anywhere. -/
def Cuttable (r : Reader) (bytes : Bytes) : Prop := ∀ cut, cut <+: bytes → Pausable (r.feed cut).phase

theorem pausePhase_of_pausable {p : Phase} (h : Pausable p) :
    pausePhase p = p ∨ (pausePhase p = .chunkFeed ∧ p = .chunkFooter (some Bytes.cr)) := by
  unfold Pausable at h
  unfold pausePhase at h ⊢
  cases p with
  | head s =>
    dsimp only at h ⊢
    by_cases ho : s.odd = true
    · simp [ho] at h
    · by_cases hs : s.size > longest
      · simp [ho, hs] at h
      · simp [ho, hs]
  | chunkHeader line size =>
    dsimp only at h ⊢
    by_cases hs : size > longest
    · simp [hs] at h
    · simp [hs]
  | chunkFooter seen =>
    cases seen with
    | none => exact .inl rfl
    | some a =>
      dsimp only at h ⊢
      by_cases ha : a = Bytes.cr
      · simp [ha]
      · simp [ha] at h
  | trailer s =>
    dsimp only at h ⊢
    by_cases hs : s.size > longest
    · simp [hs] at h
    · simp [hs]
  | _ => exact .inl rfl

theorem not_pausable_broken (f : ReplyFault) : ¬ Pausable (.broken f) := fun h => h f rfl

theorem Cuttable.here {r : Reader} {bytes : Bytes} (h : r.Cuttable bytes) : Pausable r.phase :=
  h [] (List.nil_prefix)

theorem cuttable_cons {r : Reader} {b : UInt8} {bs : Bytes} :
    r.Cuttable (b :: bs) ↔ Pausable r.phase ∧ (r.step b).Cuttable bs := by
  constructor
  · intro h
    exact ⟨h.here, fun cut hc => h (b :: cut) (List.cons_prefix_cons.2 ⟨rfl, hc⟩)⟩
  · rintro ⟨hp, ht⟩ cut hc
    cases cut with
    | nil => exact hp
    | cons x cut =>
      obtain ⟨rfl, hcut⟩ := List.cons_prefix_cons.1 hc
      exact ht cut hcut

theorem cuttable_append {r : Reader} {xs ys : Bytes} (hx : r.Cuttable xs) (hy : (r.feed xs).Cuttable ys) :
    r.Cuttable (xs ++ ys) := by
  induction xs generalizing r with
  | nil => exact hy
  | cons b xs ih =>
    rw [cuttable_cons] at hx
    rw [List.cons_append, cuttable_cons]
    exact ⟨hx.1, ih hx.2 hy⟩

theorem Cuttable.left {r : Reader} {xs ys : Bytes} (h : r.Cuttable (xs ++ ys)) : r.Cuttable xs :=
  fun cut hc => h cut (hc.trans (List.prefix_append xs ys))

theorem Cuttable.right {r : Reader} {xs ys : Bytes} (h : r.Cuttable (xs ++ ys)) : (r.feed xs).Cuttable ys := by
  intro cut hc
  rw [← feed_append]
  exact h (xs ++ cut) ((List.prefix_append_right_inj xs).2 hc)

/-! ## A reader that pauses, and one that does not -/

/-- A reader that has paused stands where one stands that has not, and has said the same in all.  `told` is what was said
before the last pause. -/
structure Trails (told : List Letter) (r full : Reader) : Prop where
  said : told ++ r.letters = full.letters
  phase : r.phase = full.phase ∨ (r.phase = .chunkFeed ∧ full.phase = .chunkFooter (some Bytes.cr))
  proposed : r.proposed = full.proposed
  keepAlive : r.keepAlive = full.keepAlive
  /-- In a head there is no piece. -/
  head : ∀ s, full.phase = .head s → r.piece = [] ∧ full.piece = []

section

variable {told : List Letter} {r full : Reader}

theorem Trails.move (h : Trails told r full) {p : Phase} (hp : ∀ s, p = .head s → r.piece = [] ∧ full.piece = []) :
    Trails told (r.move p) (full.move p) :=
  ⟨h.said, .inl rfl, h.proposed, h.keepAlive, hp⟩

theorem Trails.take (h : Trails told r full) (b : UInt8) {p : Phase} (hp : ∀ s, p ≠ .head s) :
    Trails told (r.take b p) (full.take b p) where
  said := by rw [letters_take, letters_take, ← List.append_assoc, h.said]
  phase := .inl rfl
  proposed := h.proposed
  keepAlive := h.keepAlive
  head s hs := absurd hs (hp s)

theorem Trails.flush (h : Trails told r full) : Trails told r.flush full.flush where
  said := by simpa using h.said
  phase := by simpa using h.phase
  proposed := by simpa using h.proposed
  keepAlive := by simpa using h.keepAlive
  head _ _ := by simp

theorem Trails.beginBody (h : Trails told r full) (f : Framing) : Trails told (r.beginBody f) (full.beginBody f) := by
  unfold Reader.beginBody
  split
  · exact h.move nofun
  · exact h.move nofun
  · exact h.move nofun
  · exact h.move nofun

theorem Trails.finishHead (h : Trails told r full) (hp : r.piece = [] ∧ full.piece = []) (lines : List Bytes) :
    Trails told (r.finishHead lines) (full.finishHead lines) := by
  unfold Reader.finishHead
  rw [h.proposed]
  split
  · exact h.move nofun
  · split
    · exact h.move fun _ _ => hp
    · split
      · exact h.move nofun
      · exact h.move nofun
  · rename_i status keepAlive framing _
    have hs := h.said
    simp only [letters, hp.1, hp.2, List.reverse_nil, List.map_nil, List.append_nil] at hs
    have hsaid : Trails told { r with events := .status status :: r.events, keepAlive := keepAlive }
        { full with events := .status status :: full.events, keepAlive := keepAlive } :=
      ⟨by simp [letters, hp.1, hp.2, ← hs], h.phase, h.proposed, rfl, fun _ _ => hp⟩
    have hb := hsaid.beginBody framing
    rw [h.proposed] at hb
    exact hb

theorem Trails.finishChunkHeader (h : Trails told r full) (line : Bytes) :
    Trails told (r.finishChunkHeader line) (full.finishChunkHeader line) := by
  unfold Reader.finishChunkHeader
  split
  · exact h.move nofun
  · exact h.move nofun
  · exact h.move nofun

theorem Trails.finishTrailer (h : Trails told r full) (lines : List Bytes) :
    Trails told (r.finishTrailer lines) (full.finishTrailer lines) := by
  unfold Reader.finishTrailer
  split
  · exact h.move nofun
  · exact h.move nofun

/-- One byte on from the same phase. -/
theorem Trails.step_of_phase (h : Trails told r full) (heq : r.phase = full.phase) (b : UInt8) :
    Trails told (r.step b) (full.step b) := by
  unfold Reader.step
  rw [heq]
  cases hphase : full.phase with
  | head s =>
    have hpiece := h.head s hphase
    dsimp only
    cases s.step b with
    | inl s => exact h.move fun _ _ => hpiece
    | inr lines => exact h.finishHead hpiece lines
  | counted expected left =>
    dsimp only
    split
    · exact (h.take b (p := .complete []) nofun).flush
    · exact h.take b nofun
  | untilEnd => exact h.take b nofun
  | chunkHeader line size =>
    dsimp only
    split
    · split
      · exact h.finishChunkHeader _
      · exact h.move nofun
    · exact h.move nofun
  | chunk left =>
    dsimp only
    split
    · exact (h.take b (p := .chunkFooter none) nofun).flush
    · exact h.take b nofun
  | chunkFooter seen =>
    cases seen with
    | none => exact h.move nofun
    | some a =>
      dsimp only
      split
      · exact h.move nofun
      · exact h.move nofun
  | chunkFeed =>
    dsimp only
    split
    · exact h.move nofun
    · exact h.move nofun
  | trailer s =>
    dsimp only
    cases s.step b with
    | inl s => exact h.move nofun
    | inr lines => exact h.finishTrailer lines
  | complete surplus => exact h.move nofun
  | switched => exact h
  | broken f => exact h

/-- The kept carriage return, which counts by itself in the one reader, is still waiting in the other. -/
theorem step_feed {b : UInt8} (hr : r.phase = .chunkFeed) (hf : full.phase = .chunkFooter (some Bytes.cr)) :
    (b = Bytes.lf ∧ r.step b = r.move (.chunkHeader [] 0) ∧ full.step b = full.move (.chunkHeader [] 0))
      ∨ (r.step b = r.move (.broken (.chunkFooter [b] [Bytes.lf]))
        ∧ full.step b = full.move (.broken (.chunkFooter [Bytes.cr, b] [Bytes.cr, Bytes.lf]))) := by
  unfold Reader.step
  rw [hr, hf]
  by_cases hb : b = Bytes.lf
  · simp [hb]
  · simp [hb]

/-- One byte on, unless the reply is broken there. -/
theorem Trails.step (h : Trails told r full) (b : UInt8) (hp : Pausable (full.step b).phase) :
    Trails told (r.step b) (full.step b) := by
  rcases h.phase with heq | ⟨hfeed, hfooter⟩
  · exact h.step_of_phase heq b
  · rcases step_feed (b := b) hfeed hfooter with ⟨-, hr, hf⟩ | ⟨-, hf⟩
    · rw [hr, hf]
      exact h.move nofun
    · rw [hf] at hp
      exact absurd hp (not_pausable_broken _)

theorem Trails.feed (h : Trails told r full) {bytes : Bytes} (hc : full.Cuttable bytes) :
    Trails told (r.feed bytes) (full.feed bytes) := by
  induction bytes generalizing r full with
  | nil => exact h
  | cons b bytes ih =>
    have ht := (cuttable_cons.1 hc).2
    exact ih (h.step b ht.here) ht

theorem Trails.settle (h : Trails told r full) (hp : Pausable full.phase) :
    Trails (told ++ spell r.settle.1) r.settle.2.1 full where
  said := by
    have hs : spell r.settle.1 = r.letters := by
      rw [← letters_flush]
      simp [Reader.settle, pause, letters]
    have hl : r.settle.2.1.letters = [] := by simp [Reader.settle, pause, letters]
    rw [hs, hl, List.append_nil, h.said]
  phase := by
    have hphase : r.settle.2.1.phase = pausePhase r.phase := congrArg pausePhase (phase_flush r)
    rw [hphase]
    rcases h.phase with heq | ⟨hfeed, hfooter⟩
    · rcases pausePhase_of_pausable hp with hsame | ⟨hfeed, hfooter⟩
      · exact .inl (by rw [heq, hsame])
      · exact .inr ⟨by rw [heq, hfeed], hfooter⟩
    · exact .inr ⟨by rw [hfeed]; rfl, hfooter⟩
  proposed := (proposed_flush r).trans h.proposed
  keepAlive := (keepAlive_flush r).trans h.keepAlive
  head s hs := ⟨piece_flush r, (h.head s hs).2⟩

/-- **How a reply is cut into reads changes nothing but the ends of the pieces.** -/
theorem Trails.hear (h : Trails told r full) {reads : List Bytes} (hc : full.Cuttable reads.flatten) :
    Trails (told ++ spell (r.hear reads).1) (r.hear reads).2.1 (full.feed reads.flatten) := by
  induction reads generalizing told r full with
  | nil => exact h.settle hc.here
  | cons p reads ih =>
    rw [List.flatten_cons] at hc
    have ht := ih ((h.settle hc.here).feed hc.left) hc.right
    rw [hear_cons, spell_append, ← List.append_assoc, List.flatten_cons, feed_append]
    exact ht

theorem Trails.standing (h : Trails told r full) : r.standing = full.standing := by
  unfold Reader.standing
  rcases h.phase with heq | ⟨hfeed, hfooter⟩
  · rw [heq]
  · rw [hfeed, hfooter]

theorem Trails.atEnd (h : Trails told r full) : r.atEnd = full.atEnd := by
  unfold Reader.atEnd
  rcases h.phase with heq | ⟨hfeed, hfooter⟩
  · rw [heq]
  · rw [hfeed, hfooter]

end

/-! ## What bytes lead to -/

structure At (r : Reader) (p : Phase) : Prop where
  phase : r.phase = p
  piece : ∀ s, p = .head s → r.piece = []

theorem At.trails {r : Reader} {p : Phase} (h : r.At p) : Trails [] r r where
  said := rfl
  phase := .inl rfl
  proposed := rfl
  keepAlive := rfl
  head s hs := ⟨h.piece s (h.phase.symm.trans hs), h.piece s (h.phase.symm.trans hs)⟩

/-- In a phase, bytes may be cut anywhere, say the letters, and lead to another phase. -/
def Leads (p : Phase) (bytes : Bytes) (said : List Letter) (q : Phase) : Prop :=
  ∀ r : Reader, r.At p →
    r.Cuttable bytes ∧ (r.feed bytes).At q ∧ (r.feed bytes).letters = r.letters ++ said

theorem leads_nil {p : Phase} (hp : Pausable p) : Leads p [] [] p := by
  intro r hr
  refine ⟨fun cut hc => ?_, hr, by simp⟩
  rw [List.prefix_nil.1 hc, feed_nil, hr.phase]
  exact hp

theorem Leads.append {p q s : Phase} {xs ys : Bytes} {l m : List Letter} (h : Leads p xs l q) (t : Leads q ys m s) :
    Leads p (xs ++ ys) (l ++ m) s := by
  intro r hr
  obtain ⟨hc, hq, hl⟩ := h r hr
  obtain ⟨hc', hs, hm⟩ := t _ hq
  rw [feed_append]
  exact ⟨cuttable_append hc hc', hs, by rw [hm, hl, List.append_assoc]⟩

theorem Leads.cons {p q s : Phase} {b : UInt8} {bs : Bytes} {l m : List Letter} (hp : Pausable p)
    (h : ∀ r : Reader, r.At p → (r.step b).At q ∧ (r.step b).letters = r.letters ++ l) (t : Leads q bs m s) :
    Leads p (b :: bs) (l ++ m) s := by
  intro r hr
  obtain ⟨hq, hl⟩ := h r hr
  obtain ⟨hc, hs, hm⟩ := t _ hq
  refine ⟨cuttable_cons.2 ⟨hr.phase.symm ▸ hp, hc⟩, hs, ?_⟩
  rw [feed_cons, hm, hl, List.append_assoc]

theorem Leads.cons_move {p q s : Phase} {b : UInt8} {bs : Bytes} {m : List Letter} (hp : Pausable p)
    (h : ∀ r : Reader, r.phase = p → r.step b = r.move q) (t : Leads q bs m s)
    (hq : ∀ c, q = .head c → ∃ c', p = .head c') : Leads p (b :: bs) m s := by
  refine .cons (l := []) hp (fun r hr => ?_) t
  rw [h r hr.phase]
  refine ⟨⟨rfl, fun c hc => ?_⟩, by simp⟩
  obtain ⟨c', hc'⟩ := hq c hc
  exact hr.piece c' hc'

theorem Leads.cons_take {p q s : Phase} {b : UInt8} {bs : Bytes} {m : List Letter} (hp : Pausable p)
    (h : ∀ r : Reader, r.phase = p → r.step b = r.take b q ∨ r.step b = (r.take b q).flush)
    (t : Leads q bs m s) (hq : ∀ c, q ≠ .head c) : Leads p (b :: bs) (.inr b :: m) s := by
  refine .cons (l := [.inr b]) hp (fun r hr => ?_) t
  rcases h r hr.phase with he | he
  · rw [he]
    exact ⟨⟨rfl, fun c hc => absurd hc (hq c)⟩, by simp⟩
  · rw [he]
    exact ⟨⟨by simp, fun c hc => absurd hc (hq c)⟩, by simp⟩

/-! ## Bodies -/

theorem pausable_of_eq {p : Phase} (h : pausePhase p = p) (hb : ∀ f, p ≠ .broken f) : Pausable p := by
  intro f hf
  rw [h] at hf
  exact hb f hf

/-- Where the body of a reply begins. -/
def bodyPhase : Framing → Phase
  | .counted 0 => .complete []
  | .counted n => .counted n n
  | .chunked => .chunkHeader [] 0
  | .untilEnd => .untilEnd

theorem beginBody_eq (r : Reader) (f : Framing) : r.beginBody f = r.move (bodyPhase f) := by
  cases f with
  | counted n => cases n <;> rfl
  | chunked => rfl
  | untilEnd => rfl

theorem pausable_bodyPhase (f : Framing) : Pausable (bodyPhase f) := by
  cases f with
  | counted n => cases n <;> exact nofun
  | chunked => exact nofun
  | untilEnd => exact nofun

theorem leads_complete (surplus : Bytes) : ∀ bytes : Bytes,
    ∃ more, Leads (.complete surplus) bytes [] (.complete more) := by
  intro bytes
  induction bytes generalizing surplus with
  | nil => exact ⟨surplus, leads_nil nofun⟩
  | cons b bytes ih =>
    obtain ⟨more, h⟩ := ih (b :: surplus)
    refine ⟨more, .cons_move nofun (fun r hr => ?_) h nofun⟩
    unfold Reader.step
    rw [hr]

theorem leads_untilEnd (body : Bytes) : Leads .untilEnd body (body.map .inr) .untilEnd := by
  induction body with
  | nil => exact leads_nil nofun
  | cons b body ih =>
    refine .cons_take nofun (fun r hr => .inl ?_) ih nofun
    unfold Reader.step
    rw [hr]

theorem leads_counted (expected : Nat) {body : Bytes} (h : body ≠ []) :
    Leads (.counted expected body.length) body (body.map .inr) (.complete []) := by
  induction body with
  | nil => exact absurd rfl h
  | cons b body ih =>
    cases body with
    | nil =>
      refine .cons_take nofun (fun r hr => .inr ?_) (leads_nil nofun) nofun
      unfold Reader.step
      rw [hr]
      rfl
    | cons c body =>
      refine .cons_take nofun (fun r hr => .inl ?_) (ih (List.cons_ne_nil _ _)) nofun
      unfold Reader.step
      rw [hr]
      rfl

theorem leads_chunk {data : Bytes} (h : data ≠ []) :
    Leads (.chunk data.length) data (data.map .inr) (.chunkFooter none) := by
  induction data with
  | nil => exact absurd rfl h
  | cons b data ih =>
    cases data with
    | nil =>
      refine .cons_take nofun (fun r hr => .inr ?_) (leads_nil nofun) nofun
      unfold Reader.step
      rw [hr]
      rfl
    | cons c data =>
      refine .cons_take nofun (fun r hr => .inl ?_) (ih (List.cons_ne_nil _ _)) nofun
      unfold Reader.step
      rw [hr]
      rfl

theorem leads_chunkFooter : Leads (.chunkFooter none) [Bytes.cr, Bytes.lf] [] (.chunkHeader [] 0) := by
  refine .cons_move (q := .chunkFooter (some Bytes.cr)) nofun (fun r hr => ?_)
    (.cons_move nofun (fun r hr => ?_) (leads_nil nofun) nofun) nofun
  · unfold Reader.step
    rw [hr]
  · unfold Reader.step
    rw [hr]
    rfl

end Reader
end Http
end Transport
