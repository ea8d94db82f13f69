import ContentTransport.Network.Scripted
import ContentTransport.Proofs.Network.Recorded
/-!
# Streams — which streams of a scripted network are open

Reading, writing and setting TLS up leave every stream open or closed as it is (`Alike`); a connection adds one open
stream, under a number that no stream had, and closing closes one stream.
-/
namespace Transport
namespace ScriptedNetwork

/-- The same streams are there, and the same of them are open; the faults of handshakes to come were to come before. -/
structure Alike (w w' : ScriptedNetwork) : Prop where
  isOpen : ∀ id, isOpen id w' = isOpen id w
  opened : w'.opened = w.opened
  count : w'.streams.length = w.streams.length
  tls : ∀ f ∈ w'.tlsFaults, f ∈ w.tlsFaults

theorem Alike.refl (w : ScriptedNetwork) : Alike w w := ⟨fun _ => rfl, rfl, rfl, fun _ h => h⟩

theorem Alike.trans {w w' w'' : ScriptedNetwork} (h : Alike w w') (h' : Alike w' w'') : Alike w w'' where
  isOpen id := (h'.isOpen id).trans (h.isOpen id)
  opened := h'.opened.trans h.opened
  count := h'.count.trans h.count
  tls f hf := h.tls f (h'.tls f hf)

theorem isOpen_put {id : StreamId} {s t : ScriptedStream} {w : ScriptedNetwork} (h : w.stream? id = some s)
    (other : StreamId) : isOpen other (w.put id t) = if other = id then !t.closed else isOpen other w := by
  by_cases ho : other = id
  · rw [if_pos ho, ho, isOpen, stream?_put h]
    rfl
  · rw [if_neg ho, isOpen, isOpen, stream?, stream?, put, List.getElem?_set_ne (Ne.symm ho)]

theorem alike_put {id : StreamId} {s t : ScriptedStream} {w : ScriptedNetwork} (h : w.stream? id = some s)
    (ht : t.closed = s.closed) : Alike w (w.put id t) where
  isOpen other := by
    rw [isOpen_put h]
    by_cases ho : other = id
    · rw [if_pos ho, ho, isOpen, h, ht]
      rfl
    · rw [if_neg ho]
  opened := rfl
  count := List.length_set
  tls _ h := h

theorem refill_closed (s : ScriptedStream) (replies : List Reply) : (refill s replies).1.closed = s.closed := by
  unfold refill
  split
  · dsimp only
    split
    · split <;> rfl
    · rfl
  · rfl

theorem alike_read {id : StreamId} {n : Int} {w w' : ScriptedNetwork} {a : Except Fault Bytes}
    (h : read id n w = (a, w')) : Alike w w' := by
  unfold read at h
  split at h
  · cases h
    exact .refl w
  · rename_i s hs
    split at h
    · cases h
      exact .refl w
    · have hclosed := refill_closed s w.replies
      generalize refill s w.replies = p at h hclosed
      obtain ⟨t, replies⟩ := p
      have hput {u : ScriptedStream} (hu : u.closed = t.closed) : Alike w (put id u { w with replies := replies }) := by
        have := alike_put (t := u) (w := { w with replies := replies }) hs (hu.trans hclosed)
        exact ⟨this.isOpen, this.opened, this.count, this.tls⟩
      dsimp only at h
      split at h
      · split at h
        · cases h
          exact hput rfl
        · cases h
          exact hput rfl
      · cases h
        exact hput rfl

theorem alike_nextWriteFault (s : ScriptedStream) (w : ScriptedNetwork) : Alike w (nextWriteFault s w).2 := by
  unfold nextWriteFault
  split
  · exact ⟨fun _ => rfl, rfl, rfl, fun _ h => h⟩
  · exact .refl w

theorem stream?_nextWriteFault (s : ScriptedStream) (id : StreamId) (w : ScriptedNetwork) :
    (nextWriteFault s w).2.stream? id = w.stream? id := by
  unfold nextWriteFault
  split <;> rfl

theorem alike_write {id : StreamId} {data : Bytes} {w w' : ScriptedNetwork} {a : Except Fault Unit}
    (h : write id data w = (a, w')) : Alike w w' := by
  unfold write at h
  split at h
  · cases h
    exact .refl w
  · rename_i s hs
    have hnext := alike_nextWriteFault s w
    have hsame := stream?_nextWriteFault s id w
    generalize nextWriteFault s w = p at h hnext hsame
    obtain ⟨f, v⟩ := p
    cases f with
    | some f =>
      cases h
      exact hnext
    | none =>
      dsimp only at h
      split at h
      · cases h
        exact hnext
      · cases h
        exact hnext.trans (alike_put (hsame.trans hs) rfl)

theorem alike_connect {host : String} {port timeout : Value} {w w' : ScriptedNetwork} {f : Fault}
    (h : connect host port timeout w = (.error f, w')) : Alike w w' := by
  unfold connect at h
  dsimp only at h
  split at h
  · cases h
    exact ⟨fun _ => rfl, rfl, rfl, fun _ h => h⟩
  · cases h

theorem connect_ok {host : String} {port timeout : Value} {w w' : ScriptedNetwork} {id : StreamId}
    (h : connect host port timeout w = (.ok id, w')) :
    id = w.streams.length ∧ w'.streams = w.streams ++ [openedTo host port] ∧ w'.opened = w.opened ++ [id]
      ∧ w'.tlsFaults = w.tlsFaults ∧ w'.replies = w.replies := by
  unfold connect at h
  dsimp only at h
  split at h
  · cases h
  · cases h
    exact ⟨rfl, rfl, rfl, rfl, rfl⟩

theorem isOpen_connect {host : String} {port timeout : Value} {w w' : ScriptedNetwork} {id : StreamId}
    (h : connect host port timeout w = (.ok id, w')) (other : StreamId) :
    isOpen other w' = (isOpen other w || other == id) := by
  obtain ⟨rfl, hs, -⟩ := connect_ok h
  unfold isOpen stream?
  rw [hs]
  rcases Nat.lt_trichotomy other w.streams.length with hlt | rfl | hgt
  · rw [List.getElem?_append_left hlt, beq_eq_false_iff_ne.2 (Nat.ne_of_lt hlt), Bool.or_false]
  · rw [List.getElem?_concat_length, beq_self_eq_true, Bool.or_true]
    rfl
  · rw [List.getElem?_eq_none (by rw [List.length_append]; exact hgt), List.getElem?_eq_none (Nat.le_of_lt hgt),
      beq_eq_false_iff_ne.2 (Nat.ne_of_gt hgt), Bool.or_false]

/-- TLS is set up on the stream itself; if not, that is a fault of the script. -/
theorem secure_spec {id : StreamId} {host : String} {w w' : ScriptedNetwork} {a : Except Fault StreamId}
    (h : secure id host w = (a, w')) :
    Alike w w' ∧ w'.replies = w.replies ∧ ((∃ g ∈ w.tlsFaults, a = .error (.network g)) ∨ a = .ok id) := by
  unfold secure at h
  split at h
  · rename_i g r hr
    cases h
    refine ⟨⟨fun _ => rfl, rfl, rfl, fun f hf => ?_⟩, rfl, .inl ⟨g, ?_, rfl⟩⟩
    · rw [hr]
      exact List.mem_cons_of_mem _ hf
    · rw [hr]
      exact List.mem_cons_self
  · rename_i hr
    cases h
    refine ⟨?_, ?_, .inr rfl⟩
    · unfold modify
      split
      · rename_i s hs
        exact alike_put hs rfl
      · exact .refl w
    · unfold modify
      split <;> rfl

theorem isOpen_close (id other : StreamId) (w : ScriptedNetwork) :
    isOpen other (close id w) = (isOpen other w && other != id) := by
  unfold close modify
  split
  · rename_i s hs
    rw [isOpen_put hs]
    by_cases ho : other = id
    · rw [if_pos ho, bne_eq_false_iff_eq.2 ho, Bool.and_false]
      rfl
    · rw [if_neg ho, bne_iff_ne.2 ho, Bool.and_true]
  · rename_i hs
    by_cases ho : other = id
    · rw [ho, isOpen, hs]
      rfl
    · rw [bne_iff_ne.2 ho, Bool.and_true]

theorem close_rest (id : StreamId) (w : ScriptedNetwork) :
    (close id w).opened = w.opened ∧ (close id w).streams.length = w.streams.length
      ∧ (close id w).tlsFaults = w.tlsFaults ∧ (close id w).replies = w.replies := by
  unfold close modify
  split
  · exact ⟨rfl, List.length_set, rfl, rfl⟩
  · exact ⟨rfl, rfl, rfl, rfl⟩

end ScriptedNetwork

/-! ## Loops of calls -/

open ScriptedNetwork

theorem Reads.alike {id : StreamId} {n : Nat} {w w' : ScriptedNetwork} {ps : List Bytes} (h : Reads id n w ps w') :
    Alike w w' := by
  induction h with
  | nil => exact .refl _
  | cons h t ih => exact (alike_read h).trans ih

theorem Writes.alike {id : StreamId} {w w' : ScriptedNetwork} {ps : List Bytes} (h : Writes id w ps w') :
    Alike w w' := by
  induction h with
  | nil => exact .refl _
  | cons h t ih => exact (alike_write h).trans ih

end Transport
