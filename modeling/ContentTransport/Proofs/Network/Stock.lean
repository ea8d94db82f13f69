import ContentTransport.Proofs.Network.Handing
import ContentTransport.Proofs.Network.Sources
/-!
# Stock — what a scripted network has left to give

Bytes wait in the replies that are queued, and in what streams have left of the replies that they took.  A read gives
some of them away, and no other call changes how many there are (`balanced_keeps`).  The replies have to be read
forwards: a stream that is read backwards gives bytes again.
-/
namespace Transport

section

variable {ν : Type} [Network ν]

/-- What holds of a network goes on to hold of it, whatever is called and whatever that answers. -/
structure Keeps (P : ν → Prop) : Prop where
  connect : ∀ {host port timeout w a w'}, P w → Network.connect host port timeout w = (a, w') → P w'
  secure : ∀ {id host timeout verify w a w'}, P w → Network.secure id host timeout verify w = (a, w') → P w'
  read : ∀ {id n w a w'}, P w → Network.read id n w = (a, w') → P w'
  write : ∀ {id data w a w'}, P w → Network.write id data w = (a, w') → P w'
  close : ∀ {w}, P w → ∀ id, P (Network.close id w)

theorem Reads.keeps {P : ν → Prop} {id : StreamId} {n : Nat} {w w' : ν} {ps : List Bytes} (h : Reads id n w ps w')
    (keeps : Keeps P) (hw : P w) : P w' := by
  induction h with
  | nil => exact hw
  | cons read _ ih => exact ih (keeps.read hw read)

theorem Writes.keeps {P : ν → Prop} {id : StreamId} {w w' : ν} {ps : List Bytes} (h : Writes id w ps w')
    (keeps : Keeps P) (hw : P w) : P w' := by
  induction h with
  | nil => exact hw
  | cons write _ ih => exact ih (keeps.write hw write)

end

namespace ScriptedNetwork

/-- Every reply, queued or taken, is read forwards. -/
structure Onward (w : ScriptedNetwork) : Prop where
  replies : ∀ r ∈ w.replies, r.Forward
  streams : ∀ s ∈ w.streams, 0 ≤ s.tape.place ∧ ∀ r ∈ s.reply, r.Forward

/-- How many bytes there are to be read, on all streams and in all replies. -/
def stock (w : ScriptedNetwork) : Nat :=
  (w.streams.map (·.tape.ahead)).flatten.length + (texts w.replies).flatten.length

theorem Onward.stream {w : ScriptedNetwork} {id : StreamId} {s : ScriptedStream} (h : w.Onward)
    (hget : w.stream? id = some s) : 0 ≤ s.tape.place ∧ ∀ r ∈ s.reply, r.Forward :=
  h.streams s (List.mem_of_getElem? hget)

theorem Onward.put {w : ScriptedNetwork} {t : ScriptedStream} (h : w.Onward) (id : StreamId)
    (ht : 0 ≤ t.tape.place ∧ ∀ r ∈ t.reply, r.Forward) : (w.put id t).Onward := by
  refine ⟨h.replies, fun s hs => ?_⟩
  rcases List.mem_or_eq_of_mem_set hs with hs | rfl
  · exact h.streams s hs
  · exact ht

theorem length_flatten_set {α : Type} {f : α → Bytes} {x y : α} {l : List α} {i : Nat} (h : l[i]? = some x) :
    ((l.set i y).map f).flatten.length + (f x).length = (l.map f).flatten.length + (f y).length := by
  induction l generalizing i with
  | nil => cases h
  | cons z l ih =>
    cases i with
    | zero =>
      cases h
      simp only [List.set_cons_zero, List.map_cons, List.flatten_cons, List.length_append]
      omega
    | succ i =>
      have := ih h
      simp only [List.set_cons_succ, List.map_cons, List.flatten_cons, List.length_append]
      omega

theorem stock_put {w : ScriptedNetwork} {id : StreamId} {s : ScriptedStream} (h : w.stream? id = some s)
    (t : ScriptedStream) : (w.put id t).stock + s.tape.ahead.length = w.stock + t.tape.ahead.length := by
  have := length_flatten_set (f := fun s : ScriptedStream => s.tape.ahead) (y := t) h
  simp only [stock, put]
  omega

/-- A stream that is put in the place of one with the same tape and the same reply changes nothing. -/
theorem Onward.put_same {w : ScriptedNetwork} {id : StreamId} {s t : ScriptedStream} (h : w.Onward)
    (hget : w.stream? id = some s) (tape : t.tape = s.tape) (reply : t.reply = s.reply) :
    (w.put id t).Onward ∧ (w.put id t).stock = w.stock := by
  have hput := stock_put hget t
  rw [tape] at hput
  refine ⟨h.put id ?_, by omega⟩
  rw [tape, reply]
  exact h.stream hget

/-! ## Reading -/

/-- A take moves bytes from the queue to the stream. -/
theorem refill_stock {s : ScriptedStream} {replies : List Reply} (hs : 0 ≤ s.tape.place ∧ ∀ r ∈ s.reply, r.Forward)
    (hr : ∀ r ∈ replies, r.Forward) :
    (0 ≤ (refill s replies).1.tape.place ∧ ∀ r ∈ (refill s replies).1.reply, r.Forward)
      ∧ (∀ r ∈ (refill s replies).2, r.Forward)
      ∧ (refill s replies).1.tape.ahead.length + (texts (refill s replies).2).flatten.length
        = s.tape.ahead.length + (texts replies).flatten.length := by
  unfold refill
  split
  · rename_i hspent
    have hspent : s.tape.ahead = [] := by
      simp only [Bool.and_eq_true, Tape.isSpent, List.isEmpty_iff] at hspent
      exact hspent.1.2
    dsimp only
    split
    · cases replies with
      | nil => exact ⟨⟨hs.1, fun q hq => by cases hq⟩, hr, rfl⟩
      | cons r rs =>
        refine ⟨⟨Int.le_refl 0, fun q hq => ?_⟩, fun q hq => hr q (List.mem_cons_of_mem _ hq), ?_⟩
        · cases hq
          exact hr r List.mem_cons_self
        · have hahead : (Tape.ofBytes r.data).ahead = r.data := rfl
          dsimp only
          rw [hahead, hspent]
          simp [texts]
    · exact ⟨hs, hr, rfl⟩
  · exact ⟨hs, hr, rfl⟩

theorem isBackward_of_forward {t : ScriptedStream} (h : ∀ r ∈ t.reply, r.Forward) : t.isBackward = false :=
  Bool.eq_false_iff.2 fun hback => by
    have := ScriptedStream.most_lt_zero hback 1
    have := (most_bounds h Nat.one_pos).1
    omega

theorem getD_data? (b : Bytes) : (WireEvent.data? (.ok b)).getD [] = b := by
  cases b <;> rfl

/-- What a stream gives, it has no more. -/
theorem give_stock {t : ScriptedStream} (n : Nat) (ht : 0 ≤ t.tape.place ∧ ∀ r ∈ t.reply, r.Forward) :
    (0 ≤ (give n t).2.tape.place ∧ ∀ r ∈ (give n t).2.reply, r.Forward)
      ∧ (give n t).2.tape.ahead.length + ((WireEvent.data? (give n t).1).getD []).length = t.tape.ahead.length := by
  unfold give
  split
  · cases t.reply.bind (·.fault) <;> exact ⟨ht, rfl⟩
  · have hmost := ScriptedStream.zero_le_most (isBackward_of_forward ht.2) n
    have hread : t.tape.read (t.most n) = t.tape.readOn (t.most n).toNat ht.1 := dif_pos ⟨ht.1, hmost⟩
    dsimp only
    rw [hread, getD_data?]
    have hplace := ht.1
    simp only [Tape.readOn, List.length_drop, List.length_take]
    exact ⟨⟨by omega, ht.2⟩, by omega⟩

theorem read_stock {id : StreamId} {n : Nat} {w w' : ScriptedNetwork} {a : Except Fault Bytes} (h : w.Onward)
    (hr : read id n w = (a, w')) : w'.Onward ∧ w'.stock + ((WireEvent.data? a).getD []).length = w.stock := by
  cases hget : w.stream? id with
  | none =>
    simp only [read, hget] at hr
    cases hr
    exact ⟨h, rfl⟩
  | some s =>
    cases hclosed : s.closed with
    | true =>
      simp only [read, hget, hclosed, if_true] at hr
      cases hr
      exact ⟨h, rfl⟩
    | false =>
      obtain ⟨ht, hreplies, hrefill⟩ := refill_stock (h.stream hget) h.replies
      have hread := hr.symm.trans (read_eq_give hget hclosed)
      generalize refill s w.replies = p at ht hreplies hrefill hread
      obtain ⟨t, replies⟩ := p
      dsimp only at ht hreplies hrefill hread
      cases hread
      obtain ⟨hu, hgive⟩ := give_stock n ht
      have honward : ({ w with replies := replies } : ScriptedNetwork).Onward := ⟨hreplies, h.streams⟩
      refine ⟨honward.put id hu, ?_⟩
      have hput := stock_put (w := { w with replies := replies }) hget (give n t).2
      simp only [stock] at hput ⊢
      omega

/-! ## The other calls -/

theorem write_stock {id : StreamId} {data : Bytes} {w w' : ScriptedNetwork} {a : Except Fault Unit} (h : w.Onward)
    (hw : write id data w = (a, w')) : w'.Onward ∧ w'.stock = w.stock := by
  unfold write at hw
  cases hget : w.stream? id with
  | none =>
    rw [hget] at hw
    cases hw
    exact ⟨h, rfl⟩
  | some s =>
    rw [hget] at hw
    dsimp only at hw
    have hget' := (stream?_nextWriteFault s id w).trans hget
    have hnext : (nextWriteFault s w).2.Onward ∧ (nextWriteFault s w).2.stock = w.stock := by
      unfold nextWriteFault
      split
      · exact ⟨⟨h.replies, h.streams⟩, rfl⟩
      · exact ⟨h, rfl⟩
    generalize nextWriteFault s w = q at hw hget' hnext
    obtain ⟨f, v⟩ := q
    cases f with
    | some f =>
      cases hw
      exact hnext
    | none =>
      dsimp only at hw
      split at hw
      · cases hw
        exact hnext
      · cases hw
        obtain ⟨hput, hstock⟩ :=
          hnext.1.put_same (t := { s with pieces := data :: s.pieces, awaiting := true }) hget' rfl rfl
        exact ⟨hput, hstock.trans hnext.2⟩

theorem connect_stock {host : String} {port timeout : Value} {w w' : ScriptedNetwork} {a : Except Fault StreamId}
    (h : w.Onward) (hc : connect host port timeout w = (a, w')) : w'.Onward ∧ w'.stock = w.stock := by
  unfold connect at hc
  dsimp only at hc
  split at hc
  · cases hc
    exact ⟨⟨h.replies, h.streams⟩, rfl⟩
  · cases hc
    refine ⟨⟨h.replies, fun s hs => ?_⟩, ?_⟩
    · rcases List.mem_append.1 hs with hs | hs
      · exact h.streams s hs
      · rw [List.mem_singleton.1 hs]
        exact ⟨Int.le_refl 0, nofun⟩
    · have hnew : (openedTo host port).tape.ahead = [] := rfl
      simp [stock, add, hnew]

/-- A change of a stream that leaves its tape and its reply alone. -/
theorem modify_stock {id : StreamId} {f : ScriptedStream → ScriptedStream} {w : ScriptedNetwork} (h : w.Onward)
    (hf : ∀ s, (f s).tape = s.tape ∧ (f s).reply = s.reply) :
    (w.modify id f).Onward ∧ (w.modify id f).stock = w.stock := by
  unfold modify
  split
  · rename_i s hget
    exact h.put_same hget (hf s).1 (hf s).2
  · exact ⟨h, rfl⟩

theorem secure_stock {id : StreamId} {host : String} {w w' : ScriptedNetwork} {a : Except Fault StreamId} (h : w.Onward)
    (hs : secure id host w = (a, w')) : w'.Onward ∧ w'.stock = w.stock := by
  unfold secure at hs
  split at hs
  · cases hs
    exact ⟨⟨h.replies, h.streams⟩, rfl⟩
  · cases hs
    exact modify_stock h fun s => ⟨rfl, rfl⟩

/-- A network that is read forwards, and whose stock makes up a total with what was read from it. -/
def Balanced (total : Nat) (w : Recorded ScriptedNetwork) : Prop :=
  w.network.Onward ∧ (WireEvent.given w.wire).flatten.length + w.network.stock = total

theorem Balanced.call {total : Nat} {w w' : Recorded ScriptedNetwork} {e : WireEvent} (h : Balanced total w)
    (wire : w'.wire = w.wire ++ [e])
    (step : w'.network.Onward ∧ w'.network.stock + e.given?.toList.flatten.length = w.network.stock) :
    Balanced total w' := by
  refine ⟨step.1, ?_⟩
  have hgiven : WireEvent.given [e] = e.given?.toList := by
    cases he : e.given? <;> simp [WireEvent.given, he]
  rw [wire, WireEvent.given_append, List.flatten_append, List.length_append, hgiven]
  have := h.2
  have := step.2
  omega

/-- **What is read and what is left to be read make up the same**, whatever is called. -/
theorem balanced_keeps (total : Nat) : Keeps (Balanced total) where
  connect h hc := h.call (Recorded.connect_eq hc).2 (connect_stock h.1 (Recorded.connect_eq hc).1)
  secure h hs := h.call (Recorded.secure_eq hs).2 (secure_stock h.1 (Recorded.secure_eq hs).1)
  read {_ _ _ a _} h hr := by
    refine h.call (Recorded.read_eq hr).2 ?_
    have hread := read_stock h.1 (Recorded.read_eq hr).1
    cases hd : WireEvent.data? a <;> simpa [WireEvent.given?, hd] using hread
  write h hw := h.call (Recorded.write_eq hw).2 (write_stock h.1 (Recorded.write_eq hw).1)
  close h id := h.call rfl (modify_stock h.1 fun s => ⟨rfl, rfl⟩)

end ScriptedNetwork
end Transport
