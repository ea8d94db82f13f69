import ContentTransport.Proofs.Network.Sources
import ContentTransport.Proofs.Network.Supply
/-!
# Succession — one reply after another

A network in which no fault is to come gives its replies in their order, one for each request.  A stream that has given
all of a reply rests (`Giving.rests`): it is open, and the next request on it takes the next reply (`Blank.ready`).
-/
namespace Transport
namespace ScriptedNetwork

section

variable {id : StreamId} {w w' : ScriptedNetwork} {replies rest : List Reply}

/-! ## What calls leave alone -/

/-- The faults of the streams to come. -/
def openingFaults (w : ScriptedNetwork) : List NetworkFault × List NetworkFault := (w.connectFaults, w.tlsFaults)

theorem sourced_of_refill (s : ScriptedStream) (replies : List Reply) : (refill s replies).1.sourced = s.sourced := by
  unfold refill
  split
  · dsimp only
    split
    · split <;> rfl
    · rfl
  · rfl

/-- A read of an open stream takes what is due, and changes nothing but the stream. -/
theorem read_leaves {s : ScriptedStream} {n : Int} {a : Except Fault Bytes} (hget : w.stream? id = some s)
    (hopen : s.closed = false) (hr : read id n w = (a, w')) :
    ∃ t, w' = put id t { w with replies := (refill s w.replies).2 } ∧ t.sourced = s.sourced
      ∧ t.awaiting = (refill s w.replies).1.awaiting := by
  have hsourced := sourced_of_refill s w.replies
  unfold read at hr
  simp only [hget, hopen, Bool.false_eq_true, if_false] at hr
  generalize refill s w.replies = q at hr hsourced
  obtain ⟨t, replies⟩ := q
  dsimp only at hr hsourced
  split at hr
  · split at hr
    · cases hr
      exact ⟨t, rfl, hsourced, rfl⟩
    · cases hr
      exact ⟨t, rfl, hsourced, rfl⟩
  · cases hr
    exact ⟨_, rfl, hsourced, rfl⟩

theorem openingFaults_write {p : Bytes} {a : Except Fault Unit} (hw : write id p w = (a, w')) :
    openingFaults w' = openingFaults w := by
  unfold write at hw
  split at hw
  · cases hw
    rfl
  · rename_i s hget
    have hnext : openingFaults (nextWriteFault s w).2 = openingFaults w := by
      unfold nextWriteFault
      split <;> rfl
    generalize nextWriteFault s w = q at hw hnext
    obtain ⟨_ | f, v⟩ := q
    · dsimp only at hw
      split at hw
      · cases hw
        exact hnext
      · cases hw
        exact hnext
    · cases hw
      exact hnext

/-! ## A network in which no fault is to come -/

theorem Willing.same {tls : Bool} (h : Willing tls w) (opening : openingFaults w' = openingFaults w)
    (writes : Unfaulted w') : Willing tls w' := by
  obtain ⟨hconnects, htls⟩ := Prod.mk.inj opening
  exact ⟨hconnects.trans h.connects, fun ht => htls.trans (h.secures ht), writes⟩

theorem Willing.writes_path {tls : Bool} {ps : List Bytes} (h : Willing tls w) (path : Writes id w ps w') :
    Willing tls w' := by
  induction path with
  | nil => exact h
  | cons hp _ ih => exact ih (h.same (openingFaults_write hp) (h.writes.write hp).1)

/-- No fault is to come, and these are the replies to come. -/
structure Queues (replies : List Reply) (w : ScriptedNetwork) : Prop extends Willing true w where
  replies : w.replies = replies

theorem Queues.close (h : Queues replies w) (id : StreamId) : Queues replies (close id w) :=
  ⟨h.toWilling.close id, (close_rest id w).2.2.2.trans h.replies⟩

theorem Queues.answers {data : Bytes} {limit : Option Int} (h : Queues (⟨data, limit, none⟩ :: rest) w)
    (hlimit : ∀ l, limit = some l → 1 ≤ l) (tls : Bool) : Answers tls data w :=
  ⟨h.connects, fun _ => h.secures rfl, h.writes, limit, rest, h.replies, hlimit⟩

theorem Blank.ready {data : Bytes} {limit : Option Int} (h : Blank id w) (queues : Queues (⟨data, limit, none⟩ :: rest) w)
    (hlimit : ∀ l, limit = some l → 1 ≤ l) : Ready id data w :=
  ⟨h, queues.writes, limit, rest, queues.replies, hlimit⟩

/-! ## A reply, and the replies behind it -/

/-- A stream that gives some bytes, with the replies that are to come after them. -/
structure Giving (id : StreamId) (data : Bytes) (rest : List Reply) (w : ScriptedNetwork) : Prop where
  willing : Willing true w
  delivers : Delivers id data w
  behind : ∃ s, w.stream? id = some s ∧ s.sourced = true ∧ (refill s w.replies).2 = rest

/-- A stream that has taken the reply to all that was written to it. -/
def Answered (id : StreamId) (w : ScriptedNetwork) : Prop := ∃ s, w.stream? id = some s ∧ s.awaiting = false

theorem Giving.of_writes {data : Bytes} {limit : Option Int} {ps : List Bytes} (ready : Ready id data w)
    (h : Queues (⟨data, limit, none⟩ :: rest) w) (hdata : data ≠ []) (path : Writes id w ps w') (hne : ps ≠ []) :
    Giving id data rest w' := by
  obtain ⟨s, hget, -, -, hspent⟩ := ready.stream
  have hsource : Sourced id [] w := by
    intro t ht
    cases hget.symm.trans ht
    exact .inl hspent
  have hreplies := (path.sourced hsource).1.trans h.replies
  obtain ⟨hready, hdelivers⟩ := ready.after_writes path
  obtain ⟨t, hget', hopen, hsourced, hspent'⟩ := hready.stream
  refine ⟨h.toWilling.writes_path path, hdelivers hne, t, hget', hsourced, ?_⟩
  obtain ⟨u, hu, -, hholds⟩ := hdelivers hne
  cases hget'.symm.trans hu
  rw [hreplies] at hholds ⊢
  cases hasked : t.awaiting with
  | true => simp [refill, hspent', hsourced, hasked]
  | false =>
    have hsame : refill t (⟨data, limit, none⟩ :: rest) = (t, ⟨data, limit, none⟩ :: rest) := by
      simp [refill, hasked]
    rw [hsame] at hholds
    exact absurd (hholds.isSpent_iff.1 hspent') hdata

theorem Giving.read {data : Bytes} {n : Nat} {b : UInt8} {bs : Bytes} (h : Giving id data rest w) (hn : 0 < n)
    (hr : read id n w = (.ok (b :: bs), w')) :
    ∃ left, data = b :: bs ++ left ∧ Giving id left rest w' ∧ Answered id w' := by
  obtain ⟨s, hget, hsourced, hrest⟩ := h.behind
  obtain ⟨s', hget', hopen, hholds⟩ := h.delivers
  cases hget.symm.trans hget'
  obtain ⟨t, hput, htsourced, htasked⟩ := read_leaves hget hopen hr
  have ht : w'.stream? id = some t := hput ▸ stream?_put (w := { w with replies := (refill s w.replies).2 }) hget
  have hasked : t.awaiting = false := htasked.trans hholds.2.1
  have hsettled (replies : List Reply) : (refill t replies).2 = replies := by simp [refill, hasked]
  have hwilling : Willing true w' := h.willing.same (by rw [hput]; rfl) (h.willing.writes.read hr)
  rcases h.delivers.read hn hr with ⟨-, ha⟩ | ⟨p, left, -, ha, rfl, hd⟩
  · cases ha
  · cases ha
    refine ⟨left, rfl, ⟨hwilling, hd, t, ht, htsourced.trans hsourced, ?_⟩, t, ht, hasked⟩
    rw [hsettled, hput]
    exact hrest

theorem Giving.queues {data : Bytes} (h : Giving id data rest w) (answered : Answered id w) : Queues rest w := by
  obtain ⟨s, hget, hasked⟩ := answered
  obtain ⟨t, ht, -, hrest⟩ := h.behind
  cases hget.symm.trans ht
  have hsettled : refill s w.replies = (s, w.replies) := by simp [refill, hasked]
  rw [hsettled] at hrest
  exact ⟨h.willing, hrest⟩

/-- **A stream that has given all of a reply rests.** -/
theorem Giving.rests (h : Giving id [] rest w) (answered : Answered id w) : Blank id w := by
  obtain ⟨s, hget, hasked⟩ := answered
  obtain ⟨t, ht, hsourced, -⟩ := h.behind
  obtain ⟨u, hu, hopen, hholds⟩ := h.delivers
  cases hget.symm.trans ht
  cases hget.symm.trans hu
  have hsettled : refill s w.replies = (s, w.replies) := by simp [refill, hasked]
  rw [hsettled] at hholds
  exact ⟨s, hget, hopen, hsourced, hholds.isSpent_iff.2 rfl⟩

end

end ScriptedNetwork

open ScriptedNetwork

/-- Reads give a reply from the front, and leave the replies behind it. -/
theorem Reads.giving {id : StreamId} {data : Bytes} {rest : List Reply} {n : Nat} {w w' : ScriptedNetwork}
    {ps : List Bytes} (path : Reads id n w ps w') (hn : 0 < n) (h : Giving id data rest w) :
    ∃ left, data = ps.flatten ++ left ∧ Giving id left rest w' ∧ (ps ≠ [] → Answered id w') := by
  induction path generalizing data with
  | nil => exact ⟨data, rfl, h, fun hne => absurd rfl hne⟩
  | @cons w w1 w2 b bs ps hr t ih =>
    obtain ⟨left, rfl, hgiving, hanswered⟩ := h.read hn hr
    obtain ⟨left', rfl, hgiving', hanswered'⟩ := ih hgiving
    refine ⟨left', by rw [List.flatten_cons, List.append_assoc], hgiving', fun _ => ?_⟩
    cases t with
    | nil => exact hanswered
    | cons => exact hanswered' (List.cons_ne_nil _ _)

end Transport
