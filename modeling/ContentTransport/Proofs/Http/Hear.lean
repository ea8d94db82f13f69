import ContentTransport.Http.Reader
/-!
# Hear — what a reply says over several reads

`hear` is the reader run over reads that follow one another: each read is settled before the next is fed.  What it says
depends on the reads alone.
-/
namespace Transport
namespace Http
namespace Reader

/-- What a reply says over reads, the reader after them, and how the reply stands then.  The reader has been fed what
came before the first read, and that is settled first. -/
def hear : Reader → List Bytes → List Event × Reader × Standing
  | r, [] => r.settle
  | r, p :: ps =>
    let (events, r, _) := r.settle
    let (more, rest) := hear (r.feed p) ps
    (events ++ more, rest)

/-- A reader wants more at every read but the last. -/
def HungryBefore (r : Reader) (reads : List Bytes) : Prop :=
  ∀ ps q qs, reads = ps ++ q :: qs → (r.hear ps).2.2 = .hungry

theorem hear_nil (r : Reader) : r.hear [] = r.settle := rfl

theorem hear_cons (r : Reader) (p : Bytes) (ps : List Bytes) :
    r.hear (p :: ps) =
      (r.settle.1 ++ ((r.settle.2.1.feed p).hear ps).1, ((r.settle.2.1.feed p).hear ps).2) := rfl

theorem hungryBefore_nil (r : Reader) : r.HungryBefore [] := by
  intro ps q qs h
  cases ps <;> cases h

theorem hungryBefore_cons {r : Reader} {p : Bytes} {ps : List Bytes} (h : r.settle.2.2 = .hungry)
    (ht : (r.settle.2.1.feed p).HungryBefore ps) : r.HungryBefore (p :: ps) := by
  intro qs q rest he
  cases qs with
  | nil => exact h
  | cons x qs =>
    simp only [List.cons_append, List.cons.injEq] at he
    obtain ⟨rfl, rfl⟩ := he
    exact ht qs q rest rfl

/-! ## The order of what a reply says -/

def isBefore : Phase → Bool
  | .head _ => true
  | .switched => true
  | .broken _ => true
  | _ => false

def isBehind : Phase → Bool
  | .head _ => false
  | .switched => false
  | _ => true

/-- What a whole reply says: its status, and its body in pieces. -/
def reply (status : Nat) (pieces : List Bytes) : List Event := .status status :: pieces.map .piece

/-- What has been said in all: nothing in front of the final head, and behind it a status and then pieces.  `told` is what
was said before the reader was last settled. -/
inductive InOrder (told : List Event) (r : Reader) : Prop
  | before (said : told ++ r.events.reverse = []) (piece : r.piece = []) (phase : isBefore r.phase = true)
  | behind {n : Nat} {ps : List Bytes} (said : told ++ r.events.reverse = reply n ps) (phase : isBehind r.phase = true)

theorem inOrder_new (proposed : Bool) : InOrder [] { proposed := proposed } := .before rfl rfl rfl

theorem InOrder.flush {told : List Event} {r : Reader} (h : InOrder told r) : InOrder told r.flush := by
  unfold Reader.flush
  split
  · exact h
  · rename_i hne
    cases h with
    | before _ hp _ =>
      rw [hp] at hne
      exact absurd rfl hne
    | @behind n ps he hb =>
      have hs : told ++ (Event.piece r.piece.reverse :: r.events).reverse = reply n (ps ++ [r.piece.reverse]) := by
        rw [List.reverse_cons, ← List.append_assoc, he, reply, reply, List.map_append]
        rfl
      exact .behind hs hb

theorem inOrder_beginBody {told : List Event} {r : Reader} {n : Nat} {ps : List Bytes} (f : Framing)
    (h : told ++ r.events.reverse = reply n ps) : InOrder told (r.beginBody f) := by
  unfold beginBody
  split
  · exact .behind h rfl
  · exact .behind h rfl
  · exact .behind h rfl
  · exact .behind h rfl

theorem inOrder_finishHead {told : List Event} {r : Reader} (lines : List Bytes) (h : told ++ r.events.reverse = [])
    (hp : r.piece = []) : InOrder told (r.finishHead lines) := by
  unfold finishHead
  split
  · exact .before h hp rfl
  · split
    · exact .before h hp rfl
    · split
      · exact .before h hp rfl
      · exact .before h hp rfl
  · rename_i status keepAlive framing _
    have hs : told ++ (Event.status status :: r.events).reverse = reply status [] := by
      rw [List.reverse_cons, ← List.append_assoc, h]
      rfl
    exact inOrder_beginBody framing hs

theorem InOrder.step {told : List Event} {r : Reader} (h : InOrder told r) (b : UInt8) : InOrder told (r.step b) := by
  cases h with
  | before he hp hbefore =>
    unfold Reader.step
    cases hphase : r.phase with
    | head s =>
      dsimp only
      cases s.step b with
      | inl s => exact .before he hp rfl
      | inr lines => exact inOrder_finishHead lines he hp
    | switched => exact .before he hp hbefore
    | broken f => exact .before he hp hbefore
    | _ => rw [hphase] at hbefore; cases hbefore
  | behind he hbehind =>
    have hmove {phase : Phase} (hb : isBehind phase = true) : InOrder told (r.move phase) := .behind he hb
    have htake {phase : Phase} (hb : isBehind phase = true) : InOrder told (r.take b phase) := .behind he hb
    unfold Reader.step
    cases hphase : r.phase with
    | head s => rw [hphase] at hbehind; cases hbehind
    | switched => rw [hphase] at hbehind; cases hbehind
    | counted expected left =>
      dsimp only
      split
      · exact (htake rfl).flush
      · exact htake rfl
    | untilEnd => exact htake rfl
    | chunkHeader line size =>
      dsimp only
      split
      · split
        · unfold finishChunkHeader
          split
          · exact hmove rfl
          · exact hmove rfl
          · exact hmove rfl
        · exact hmove rfl
      · exact hmove rfl
    | chunk left =>
      dsimp only
      split
      · exact (htake rfl).flush
      · exact htake rfl
    | chunkFooter seen =>
      cases seen with
      | none => exact hmove rfl
      | some a =>
        dsimp only
        split
        · exact hmove rfl
        · exact hmove rfl
    | chunkFeed =>
      dsimp only
      split
      · exact hmove rfl
      · exact hmove rfl
    | trailer s =>
      dsimp only
      cases s.step b with
      | inl s => exact hmove rfl
      | inr lines =>
        dsimp only
        unfold finishTrailer
        split
        · exact hmove rfl
        · exact hmove rfl
    | complete surplus => exact hmove rfl
    | broken f => exact .behind he hbehind

theorem InOrder.feed {told : List Event} {r : Reader} (h : InOrder told r) (bytes : Bytes) :
    InOrder told (r.feed bytes) := by
  unfold Reader.feed
  induction bytes generalizing r with
  | nil => exact h
  | cons b bytes ih => exact ih (h.step b)

theorem isBefore_pausePhase {p : Phase} (h : isBefore p = true) : isBefore (pausePhase p) = true := by
  cases p with
  | head s =>
    unfold pausePhase
    dsimp only
    split
    · rfl
    · split <;> rfl
  | switched => rfl
  | broken f => rfl
  | _ => cases h

theorem isBehind_pausePhase {p : Phase} (h : isBehind p = true) : isBehind (pausePhase p) = true := by
  cases p with
  | head s => cases h
  | switched => cases h
  | chunkHeader line size =>
    unfold pausePhase
    dsimp only
    split <;> rfl
  | chunkFooter seen =>
    cases seen with
    | none => rfl
    | some a =>
      unfold pausePhase
      dsimp only
      split <;> rfl
  | trailer s =>
    unfold pausePhase
    dsimp only
    split <;> rfl
  | _ => rfl

theorem InOrder.settle {told : List Event} {r : Reader} (h : InOrder told r) :
    InOrder (told ++ r.settle.1) r.settle.2.1 := by
  have hsaid : told ++ r.settle.1 ++ r.settle.2.1.events.reverse = told ++ r.flush.events.reverse := List.append_nil _
  cases h.flush with
  | before he hp hb => exact .before (hsaid.trans he) hp (isBefore_pausePhase hb)
  | behind he hb => exact .behind (hsaid.trans he) (isBehind_pausePhase hb)

theorem InOrder.hear {told : List Event} {r : Reader} (h : InOrder told r) (reads : List Bytes) :
    InOrder (told ++ (r.hear reads).1) (r.hear reads).2.1 := by
  induction reads generalizing told r with
  | nil => exact h.settle
  | cons p ps ih =>
    have hs := ih (h.settle.feed p)
    rw [List.append_assoc] at hs
    exact hs

theorem standing_settle (r : Reader) : r.settle.2.2 = r.settle.2.1.standing := rfl

theorem standing_hear (r : Reader) (reads : List Bytes) : (r.hear reads).2.2 = (r.hear reads).2.1.standing := by
  induction reads generalizing r with
  | nil => exact standing_settle r
  | cons p ps ih => exact ih _

theorem events_hear (r : Reader) (reads : List Bytes) : (r.hear reads).2.1.events = [] := by
  induction reads generalizing r with
  | nil => rfl
  | cons p ps ih => exact ih _

/-- **A reply that has come to its end has said one status, and then the pieces of its body.** -/
theorem said_of_done {proposed : Bool} {left : Bytes} {reads : List Bytes}
    (h : (∃ surplus, ((({ proposed := proposed } : Reader).feed left).hear reads).2.2 = .complete surplus)
      ∨ (((({ proposed := proposed } : Reader).feed left).hear reads).2.2 = .hungry
        ∧ ((({ proposed := proposed } : Reader).feed left).hear reads).2.1.atEnd = none)) :
    ∃ n ps, ((({ proposed := proposed } : Reader).feed left).hear reads).1 = reply n ps := by
  have ho := ((inOrder_new proposed).feed left).hear reads
  have hst := standing_hear (({ proposed := proposed } : Reader).feed left) reads
  have hev := events_hear (({ proposed := proposed } : Reader).feed left) reads
  generalize (({ proposed := proposed } : Reader).feed left).hear reads = a at h ho hst hev
  obtain ⟨said, r, st⟩ := a
  dsimp only at h ho hst hev ⊢
  subst hst
  cases ho with
  | before _ _ hb =>
    -- in front of the final head no reply is complete, and the end of the stream completes none
    unfold standing atEnd at h
    cases hphase : r.phase with
    | head s =>
      rw [hphase] at h
      rcases h with ⟨_, h⟩ | ⟨-, h⟩
      · cases h
      · cases h
    | switched =>
      rw [hphase] at h
      rcases h with ⟨_, h⟩ | ⟨h, -⟩
      · cases h
      · cases h
    | broken f =>
      rw [hphase] at h
      rcases h with ⟨_, h⟩ | ⟨h, -⟩
      · cases h
      · cases h
    | _ => rw [hphase] at hb; cases hb
  | @behind n ps he _ =>
    rw [hev, List.reverse_nil, List.append_nil, List.nil_append] at he
    exact ⟨n, ps, he⟩

end Reader
end Http
end Transport
