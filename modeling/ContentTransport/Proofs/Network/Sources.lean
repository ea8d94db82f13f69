import ContentTransport.Proofs.Network.Streams
/-!
# Sources — where the bytes of a scripted network come from

A stream gives bytes of the reply that it has taken last.  So while nothing is left of an earlier one, all that is read
from a stream belongs to replies that are taken meanwhile (`Reads.sourced`).
-/
namespace Transport

/-- Bytes that stand together in one of some texts. -/
def PartOf (texts : List Bytes) (p : Bytes) : Prop := ∃ x ∈ texts, p <:+: x

theorem PartOf.mono {xs ys : List Bytes} {p : Bytes} (h : PartOf xs p) (hs : ∀ x ∈ xs, x ∈ ys) : PartOf ys p := by
  obtain ⟨x, hx, hp⟩ := h
  exact ⟨x, hs x hx, hp⟩

theorem slice_isInfix (b : Bytes) (i j : Int) : b.slice i j <:+: b := by
  unfold Bytes.slice
  exact (List.drop_suffix _ _).isInfix.trans (List.take_prefix _ _).isInfix

namespace ScriptedNetwork

/-- A stream has nothing left to give but what belongs to some texts. -/
def Sourced (id : StreamId) (texts : List Bytes) (w : ScriptedNetwork) : Prop :=
  ∀ s, w.stream? id = some s → s.tape.isSpent = true ∨ s.tape.data ∈ texts

def texts (rs : List Reply) : List Bytes := rs.map (·.data)

theorem texts_append (rs ts : List Reply) : texts (rs ++ ts) = texts rs ++ texts ts := List.map_append

theorem Sourced.mono {id : StreamId} {xs ys : List Bytes} {w : ScriptedNetwork} (h : Sourced id xs w)
    (hs : ∀ x ∈ xs, x ∈ ys) : Sourced id ys w := by
  intro s hget
  exact (h s hget).imp_right (hs _)

theorem sourced_put {id : StreamId} {xs : List Bytes} {s t : ScriptedStream} {w : ScriptedNetwork}
    (h : w.stream? id = some s) (ht : t.tape.isSpent = true ∨ t.tape.data ∈ xs) : Sourced id xs (w.put id t) := by
  intro u hu
  rw [stream?_put h, Option.some.injEq] at hu
  rwa [← hu]

theorem refill_sourced {xs : List Bytes} {s : ScriptedStream} (replies : List Reply)
    (h : s.tape.isSpent = true ∨ s.tape.data ∈ xs) :
    ∃ taken, replies = taken ++ (refill s replies).2
      ∧ ((refill s replies).1.tape.isSpent = true ∨ (refill s replies).1.tape.data ∈ xs ++ texts taken) := by
  have hnone {t : ScriptedStream} (ht : t.tape = s.tape) :
      t.tape.isSpent = true ∨ t.tape.data ∈ xs ++ texts [] := by
    rw [ht]
    exact h.imp_right (List.mem_append_left _)
  unfold refill
  split
  · dsimp only
    split
    · split
      · exact ⟨[], rfl, hnone rfl⟩
      · rename_i r rs
        exact ⟨[r], rfl, .inr (List.mem_append_right _ List.mem_cons_self)⟩
    · exact ⟨[], rfl, hnone rfl⟩
  · exact ⟨[], rfl, hnone rfl⟩

/-- **A read gives bytes of what the stream had left, or of a reply that it takes.** -/
theorem read_sourced {id : StreamId} {n : Int} {xs : List Bytes} {w w' : ScriptedNetwork} {a : Except Fault Bytes}
    (h : read id n w = (a, w')) (hs : Sourced id xs w) :
    ∃ taken, w.replies = taken ++ w'.replies ∧ Sourced id (xs ++ texts taken) w'
      ∧ ∀ p, a = .ok p → p ≠ [] → PartOf (xs ++ texts taken) p := by
  have hsame : Sourced id (xs ++ texts []) w := hs.mono fun _ => List.mem_append_left _
  unfold read at h
  split at h
  · cases h
    exact ⟨[], rfl, hsame, fun p hp hne => by cases hp; exact absurd rfl hne⟩
  · rename_i s hget
    split at h
    · cases h
      exact ⟨[], rfl, hsame, fun p hp => nomatch hp⟩
    · obtain ⟨taken, hreplies, hsource⟩ := refill_sourced w.replies (hs s hget)
      generalize refill s w.replies = q at h hreplies hsource
      obtain ⟨t, replies⟩ := q
      dsimp only at h hreplies hsource
      split at h
      · have hput : Sourced id (xs ++ texts taken) (put id t { w with replies := replies }) :=
          sourced_put (w := { w with replies := replies }) hget hsource
        split at h
        · cases h
          exact ⟨taken, hreplies, hput, fun p hp => nomatch hp⟩
        · cases h
          exact ⟨taken, hreplies, hput, fun p hp hne => by cases hp; exact absurd rfl hne⟩
      · rename_i hleft
        obtain ⟨hpiece, hdata, -⟩ := Tape.read_eq (t.most n) t.tape
        cases h
        have hmem : t.tape.data ∈ xs ++ texts taken := hsource.resolve_left hleft
        refine ⟨taken, hreplies, sourced_put (w := { w with replies := replies }) hget (.inr ?_), fun p hp _ => ?_⟩
        · dsimp only
          rw [hdata]
          exact hmem
        · cases hp
          rw [hpiece]
          exact ⟨_, hmem, slice_isInfix _ _ _⟩

theorem write_sourced {id : StreamId} {data : Bytes} {xs : List Bytes} {w w' : ScriptedNetwork} {a : Except Fault Unit}
    (h : write id data w = (a, w')) (hs : Sourced id xs w) : w'.replies = w.replies ∧ Sourced id xs w' := by
  unfold write at h
  split at h
  · cases h
    exact ⟨rfl, hs⟩
  · rename_i s hget
    have hsame := stream?_nextWriteFault s id w
    have hreplies : (nextWriteFault s w).2.replies = w.replies := by
      unfold nextWriteFault
      split <;> rfl
    have hs' : Sourced id xs (nextWriteFault s w).2 := by
      intro t ht
      exact hs t (hsame ▸ ht)
    generalize nextWriteFault s w = q at h hsame hreplies hs'
    obtain ⟨f, v⟩ := q
    cases f with
    | some f =>
      cases h
      exact ⟨hreplies, hs'⟩
    | none =>
      dsimp only at h
      split at h
      · cases h
        exact ⟨hreplies, hs'⟩
      · cases h
        exact ⟨hreplies, sourced_put (hsame.trans hget) (hs s hget)⟩

theorem connect_sourced {host : String} {port timeout : Value} {w w' : ScriptedNetwork} {id : StreamId}
    (h : connect host port timeout w = (.ok id, w')) : Sourced id [] w' := by
  obtain ⟨rfl, hstreams, -⟩ := connect_ok h
  intro s hget
  have hget : w'.streams[w.streams.length]? = some s := hget
  rw [hstreams, List.getElem?_concat_length, Option.some.injEq] at hget
  rw [← hget]
  exact .inl rfl

theorem connect_replies {host : String} {port timeout : Value} {w w' : ScriptedNetwork} {a : Except Fault StreamId}
    (h : connect host port timeout w = (a, w')) : w'.replies = w.replies := by
  unfold connect at h
  dsimp only at h
  split at h
  · cases h
    rfl
  · cases h
    rfl

theorem secure_sourced {id : StreamId} {host : String} {xs : List Bytes} {w w' : ScriptedNetwork}
    {a : Except Fault StreamId} (h : secure id host w = (a, w')) (hs : Sourced id xs w) : Sourced id xs w' := by
  unfold secure at h
  split at h
  · cases h
    exact hs
  · cases h
    unfold modify
    split
    · rename_i s hget
      exact sourced_put hget (hs s hget)
    · exact hs

end ScriptedNetwork

open ScriptedNetwork

theorem Writes.sourced {id : StreamId} {xs ps : List Bytes} {w w' : ScriptedNetwork} (h : Writes id w ps w')
    (hs : Sourced id xs w) : w'.replies = w.replies ∧ Sourced id xs w' := by
  induction h with
  | nil => exact ⟨rfl, hs⟩
  | cons h t ih =>
    obtain ⟨hr, hs'⟩ := write_sourced h hs
    obtain ⟨hr', hs''⟩ := ih hs'
    exact ⟨hr'.trans hr, hs''⟩

/-- **All that is read belongs to what the stream had left, or to replies that are taken meanwhile.** -/
theorem Reads.sourced {id : StreamId} {n : Nat} {xs ps : List Bytes} {w w' : ScriptedNetwork} (h : Reads id n w ps w')
    (hs : Sourced id xs w) :
    ∃ taken, w.replies = taken ++ w'.replies ∧ Sourced id (xs ++ texts taken) w'
      ∧ ∀ p ∈ ps, PartOf (xs ++ texts taken) p := by
  induction h generalizing xs with
  | nil => exact ⟨[], rfl, hs.mono fun _ => List.mem_append_left _, fun p hp => nomatch hp⟩
  | @cons w w1 w' b bs ps h t ih =>
    obtain ⟨taken, hr, hs', hp⟩ := read_sourced h hs
    obtain ⟨taken', hr', hs'', hps⟩ := ih hs'
    rw [List.append_assoc, ← texts_append] at hs'' hps
    refine ⟨taken ++ taken', by rw [hr, hr', List.append_assoc], hs'', fun p hmem => ?_⟩
    rcases List.mem_cons.1 hmem with rfl | hmem
    · refine (hp _ rfl (List.cons_ne_nil _ _)).mono fun x hx => ?_
      rw [texts_append, ← List.append_assoc]
      exact List.mem_append_left _ hx
    · exact hps p hmem

end Transport
