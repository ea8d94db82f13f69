import ContentTransport.Proofs.Network.Recorded
import ContentTransport.Proofs.Network.Streams
/-!
# Delivery — a scripted network that answers one request

A network that has a reply at hand and no fault in its script opens a stream, takes a request, and then delivers the
bytes of the reply in their order, in pieces of its own choice, until none is left (`Reads.delivered`).
-/
namespace Transport
namespace ScriptedNetwork

/-- The next reply of the script, which ends without a fault and is not read backwards. -/
def Queued (data : Bytes) (w : ScriptedNetwork) : Prop :=
  ∃ limit rest, w.replies = ⟨data, limit, none⟩ :: rest ∧ ∀ l, limit = some l → 1 ≤ l

/-- The network opens the next stream, with TLS if that is asked for, and answers the request that is written to it. -/
structure Answers (tls : Bool) (data : Bytes) (w : ScriptedNetwork) : Prop where
  connects : w.connectFaults = []
  secures : tls = true → w.tlsFaults = []
  writes : ∀ f ∈ w.writeFaults, f = none
  queued : Queued data w

/-- A new stream, to which the request may be written. -/
structure Ready (id : StreamId) (data : Bytes) (w : ScriptedNetwork) : Prop where
  stream : ∃ s, w.stream? id = some s ∧ s.closed = false ∧ s.sourced = true ∧ s.tape.isSpent = true
  writes : ∀ f ∈ w.writeFaults, f = none
  queued : Queued data w

/-- What a stream has left of the reply that it took. -/
def Holds (data : Bytes) (s : ScriptedStream) : Prop :=
  s.closed = false ∧ s.awaiting = false ∧ 0 ≤ s.tape.place ∧ s.tape.ahead = data
    ∧ ∃ r, s.reply = some r ∧ r.fault = none ∧ ∀ l, r.limit = some l → 1 ≤ l

/-- A stream delivers some bytes, and then no more: it has them left, or takes them with the next reply. -/
def Delivers (id : StreamId) (data : Bytes) (w : ScriptedNetwork) : Prop :=
  ∃ s, w.stream? id = some s ∧ s.closed = false ∧ Holds data (refill s w.replies).1

/-! ## Opening a stream -/

theorem Answers.close {tls : Bool} {data : Bytes} {w : ScriptedNetwork} (h : Answers tls data w) (id : StreamId) :
    Answers tls data (close id w) := by
  unfold ScriptedNetwork.close modify
  split
  · exact ⟨h.connects, h.secures, h.writes, h.queued⟩
  · exact h

theorem Answers.connect {tls : Bool} {data : Bytes} {host : String} {port timeout : Value} {w w' : ScriptedNetwork}
    {a : Except Fault StreamId} (h : Answers tls data w) (hc : connect host port timeout w = (a, w')) :
    ∃ id, a = .ok id ∧ Ready id data w' ∧ (tls = true → w'.tlsFaults = []) := by
  unfold ScriptedNetwork.connect at hc
  simp only [h.connects] at hc
  cases hc
  refine ⟨w.streams.length, rfl, ⟨⟨openedTo host port, ?_, rfl, rfl, rfl⟩, h.writes, h.queued⟩, h.secures⟩
  simp [stream?, add]

theorem Ready.secure {id : StreamId} {data : Bytes} {host : String} {w w' : ScriptedNetwork}
    {a : Except Fault StreamId} (h : Ready id data w) (ht : w.tlsFaults = []) (hs : secure id host w = (a, w')) :
    a = .ok id ∧ Ready id data w' := by
  obtain ⟨s, hget, hclosed, hsourced, hspent⟩ := h.stream
  unfold ScriptedNetwork.secure at hs
  simp only [ht, modify, hget] at hs
  cases hs
  exact ⟨rfl, ⟨_, stream?_put hget, hclosed, hsourced, hspent⟩, h.writes, h.queued⟩

/-! ## The request -/

theorem nextWriteFault_none {s : ScriptedStream} {w : ScriptedNetwork} (h : ∀ f ∈ w.writeFaults, f = none) :
    (nextWriteFault s w).1 = none ∧ (∀ f ∈ (nextWriteFault s w).2.writeFaults, f = none)
      ∧ (nextWriteFault s w).2.replies = w.replies := by
  unfold nextWriteFault
  split
  · rename_i f r _ hw
    exact ⟨h f (by simp [hw]), fun g hg => h g (by simp [hw, hg]), rfl⟩
  · exact ⟨rfl, h, rfl⟩

theorem Ready.write {id : StreamId} {data p : Bytes} {w w' : ScriptedNetwork} {a : Except Fault Unit}
    (h : Ready id data w) (hw : write id p w = (a, w')) : a = .ok () ∧ Ready id data w' ∧ Delivers id data w' := by
  obtain ⟨s, hget, hclosed, hsourced, hspent⟩ := h.stream
  obtain ⟨limit, rest, hreplies, hlimit⟩ := h.queued
  obtain ⟨hnone, hwrites, hsame⟩ := nextWriteFault_none (s := s) h.writes
  have hget' := stream?_nextWriteFault s id w
  unfold ScriptedNetwork.write at hw
  simp only [hget] at hw
  generalize nextWriteFault s w = q at hw hnone hwrites hsame hget'
  obtain ⟨f, v⟩ := q
  dsimp only at hnone hwrites hsame hget'
  subst hnone
  rw [hget] at hget'
  rw [hreplies] at hsame
  dsimp only at hw
  rw [if_neg (by simp [hclosed])] at hw
  cases hw
  have hput := stream?_put (t := { s with pieces := p :: s.pieces, awaiting := true }) hget'
  refine ⟨rfl, ⟨⟨_, hput, hclosed, hsourced, hspent⟩, hwrites, ⟨limit, rest, hsame, hlimit⟩⟩, _, hput, hclosed, ?_⟩
  have hreplies' : (put id { s with pieces := p :: s.pieces, awaiting := true } v).replies
      = ⟨data, limit, none⟩ :: rest := hsame
  rw [hreplies']
  simp only [refill, hspent, hsourced, Bool.and_self, if_true]
  exact ⟨hclosed, rfl, Int.le_refl 0, rfl, _, rfl, rfl, hlimit⟩

theorem Ready.after_writes {id : StreamId} {data : Bytes} {w w' : ScriptedNetwork} {ps : List Bytes}
    (h : Ready id data w) (hw : Writes id w ps w') : Ready id data w' ∧ (ps ≠ [] → Delivers id data w') := by
  induction hw with
  | nil => exact ⟨h, fun hne => absurd rfl hne⟩
  | @cons w w1 w2 p ps hp t ih =>
    obtain ⟨-, hready, hdelivers⟩ := h.write hp
    obtain ⟨hready', hrest⟩ := ih hready
    refine ⟨hready', fun _ => ?_⟩
    cases t with
    | nil => exact hdelivers
    | cons => exact hrest (List.cons_ne_nil _ _)

/-! ## The reply -/

theorem Holds.most_pos {data : Bytes} {s : ScriptedStream} (h : Holds data s) {n : Nat} (hn : 0 < n) :
    1 ≤ s.most n := by
  obtain ⟨-, -, -, -, r, hr, -, hl⟩ := h
  unfold ScriptedStream.most ScriptedStream.limit?
  rw [hr]
  cases hlim : r.limit with
  | none =>
    simp only [Option.bind_some, hlim, Option.filter_none]
    omega
  | some l =>
    have hl := hl l hlim
    have hne : l ≠ 0 := by omega
    simp only [Option.bind_some, hlim, Option.filter_some, bne_iff_ne, ne_eq, hne, not_false_eq_true, if_true]
    omega

theorem Holds.isSpent_iff {data : Bytes} {s : ScriptedStream} (h : Holds data s) :
    s.tape.isSpent = true ↔ data = [] := by
  obtain ⟨-, -, hplace, hahead, -⟩ := h
  simp [Tape.isSpent, hplace, hahead]

theorem Holds.refill {data : Bytes} {s : ScriptedStream} (h : Holds data s) (replies : List Reply) :
    ScriptedNetwork.refill s replies = (s, replies) := by
  unfold ScriptedNetwork.refill
  simp [h.2.1]

theorem Delivers.read {id : StreamId} {data : Bytes} {n : Nat} {w w' : ScriptedNetwork} {a : Except Fault Bytes}
    (h : Delivers id data w) (hn : 0 < n) (hr : read id n w = (a, w')) :
    (data = [] ∧ a = .ok []) ∨ ∃ p rest, p ≠ [] ∧ a = .ok p ∧ data = p ++ rest ∧ Delivers id rest w' := by
  obtain ⟨s, hget, hclosed, hholds⟩ := h
  unfold ScriptedNetwork.read at hr
  simp only [hget, hclosed, Bool.false_eq_true, if_false] at hr
  generalize ScriptedNetwork.refill s w.replies = q at hr hholds
  obtain ⟨t, replies⟩ := q
  dsimp only at hr hholds
  have hspent := hholds.isSpent_iff
  have hmost := hholds.most_pos hn
  obtain ⟨htclosed, hawaiting, hplace, hahead, r, hreply, hfault, hlimit⟩ := hholds
  by_cases hdata : data = []
  · rw [if_pos (hspent.2 hdata)] at hr
    simp only [hreply, Option.bind_some, hfault] at hr
    cases hr
    exact .inl ⟨hdata, rfl⟩
  · rw [if_neg fun hs => hdata (hspent.1 hs)] at hr
    have hpos : 0 < (t.most n).toNat := by omega
    obtain ⟨k, hk⟩ : ∃ k, (t.most n).toNat = k + 1 := ⟨(t.most n).toNat - 1, by omega⟩
    unfold Tape.read at hr
    rw [dif_pos ⟨hplace, by omega⟩] at hr
    cases hr
    refine .inr ⟨t.tape.ahead.take (t.most n).toNat, t.tape.ahead.drop (t.most n).toNat, ?_, rfl, ?_,
      _, stream?_put (w := { w with replies := replies }) hget, htclosed, ?_⟩
    · rw [hahead, hk]
      cases data with
      | nil => exact absurd rfl hdata
      | cons b data => exact List.cons_ne_nil _ _
    · rw [hahead, List.take_append_drop]
    · have hholds : Holds (t.tape.ahead.drop (t.most n).toNat)
          { t with tape := (t.tape.readOn (t.most n).toNat hplace).2 } :=
        ⟨htclosed, hawaiting, by simp only [Tape.readOn]; omega, rfl, r, hreply, hfault, hlimit⟩
      exact (hholds.refill _).symm ▸ hholds

end ScriptedNetwork

open ScriptedNetwork

/-- **Reads deliver what there is, from the front.** -/
theorem Reads.delivered {id : StreamId} {data : Bytes} {n : Nat} {w w' : ScriptedNetwork} {ps : List Bytes}
    (h : Reads id n w ps w') (hn : 0 < n) (hd : Delivers id data w) :
    ∃ rest, data = ps.flatten ++ rest ∧ Delivers id rest w' := by
  induction h generalizing data with
  | nil => exact ⟨data, rfl, hd⟩
  | @cons w w1 w2 b bs ps hr t ih =>
    rcases hd.read hn hr with ⟨-, ha⟩ | ⟨p, rest, -, ha, rfl, hd'⟩
    · cases ha
    · cases ha
      obtain ⟨rest', rfl, hd''⟩ := ih hd'
      exact ⟨rest', by simp, hd''⟩

end Transport
