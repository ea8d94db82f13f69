import ContentTransport.Proofs.Network.Streams
/-!
# Handing — how a scripted network hands its replies out

Replies are queued, and streams are opened, written and read, in any order.  A record of what happens tells which stream
took which reply, and what each read gave.  No reply is lost and none is handed out twice (`Ledger.run_faithful`): the
replies leave the queue in their order, a stream gives the bytes of the replies that it took in their order, and it
takes the next one as soon as it is due, and not before.
-/
namespace Transport

/-- The reads of a reply are not limited, or to at least one byte. -/
def Reply.Forward (r : Reply) : Prop := ∀ l ∈ r.limit, 1 ≤ l

instance (r : Reply) : Decidable r.Forward := inferInstanceAs (Decidable (∀ l ∈ r.limit, 1 ≤ l))

namespace ScriptedNetwork

/-- What is done with a network. -/
inductive Use
  | queue (r : Reply)
  | connect (host : String) (port timeout : Value)
  | write (id : StreamId) (data : Bytes)
  | read (id : StreamId) (n : Nat)

/-- Replies are read forwards, and reads ask for something. -/
def Use.Proper : Use → Prop
  | queue r => r.Forward
  | connect _ _ _ => True
  | write _ _ => True
  | read _ n => 0 < n

instance : DecidablePred Use.Proper
  | .queue r => inferInstanceAs (Decidable r.Forward)
  | .connect _ _ _ => .isTrue trivial
  | .write _ _ => .isTrue trivial
  | .read _ n => inferInstanceAs (Decidable (0 < n))

/-- What happens in a network, as far as its replies are concerned. -/
inductive Incident
  | queued (r : Reply)
  | wrote (id : StreamId)
  /-- A read of at most `n` bytes, the reply that was taken for it, and what it gave. -/
  | read (id : StreamId) (n : Nat) (took : Option Reply) (answer : Except Fault Bytes)

/-- The reply that has left the queue. -/
def taken (w w' : ScriptedNetwork) : Option Reply :=
  if w'.replies.length < w.replies.length then w.replies.head? else none

/-- A network and what has happened in it so far. -/
structure Ledger where
  network : ScriptedNetwork := {}
  incidents : List Incident := []

/-- One use, with what happens.  A stream that was not opened is not used. -/
def Ledger.use (g : Ledger) : Use → Ledger
  | .queue r => { network := g.network.queueReply r, incidents := g.incidents ++ [.queued r] }
  | .connect host port timeout => { g with network := (connect host port timeout g.network).2 }
  | .write id data =>
    match g.network.stream? id with
    | none => g
    | some _ =>
      match write id data g.network with
      | (.ok (), w) => { network := w, incidents := g.incidents ++ [.wrote id] }
      | (.error _, w) => { g with network := w }
  | .read id n =>
    match g.network.stream? id with
    | none => g
    | some _ =>
      let (answer, w) := read id n g.network
      { network := w, incidents := g.incidents ++ [.read id n (taken g.network w) answer] }

def Ledger.run (us : List Use) (g : Ledger) : Ledger := us.foldl Ledger.use g

/-! ## What a record says -/

namespace Incident

def queued? : Incident → Option Reply
  | queued r => some r
  | _ => none

/-- The stream that took a reply, and the reply. -/
def take? : Incident → Option (StreamId × Reply)
  | read id _ (some r) _ => some (id, r)
  | _ => none

/-- What a read of a stream gave, if it gave something. -/
def given? (id : StreamId) : Incident → Option Bytes
  | read i _ _ a => if i = id then WireEvent.data? a else none
  | _ => none

/-- A read of a stream that took a reply or gave nothing: what was written before it is answered. -/
def Settles (id : StreamId) : Incident → Prop
  | read i _ took a => i = id ∧ (took ≠ none ∨ WireEvent.data? a = none)
  | _ => False

def stream? : Incident → Option StreamId
  | queued _ => none
  | wrote id => some id
  | read id _ _ _ => some id

end Incident

/-- The replies that were queued, in their order. -/
def queuedIn (is : List Incident) : List Reply := is.filterMap Incident.queued?

/-- The replies that were taken and who took them, in the order of the takes. -/
def takes (is : List Incident) : List (StreamId × Reply) := is.filterMap Incident.take?

/-- The replies that have not been taken, if the others are the first ones. -/
def waiting (is : List Incident) : List Reply := (queuedIn is).drop (takes is).length

def takenBy (id : StreamId) (is : List Incident) : List Reply := ((takes is).filter (·.1 = id)).map (·.2)

/-- All bytes that a stream has given. -/
def had (id : StreamId) (is : List Incident) : Bytes := (is.filterMap (Incident.given? id)).flatten

/-- All bytes of the replies that a stream has taken. -/
def owed (id : StreamId) (is : List Incident) : Bytes := (takenBy id is).flatMap (·.data)

/-- Something was written to a stream since it last took a reply or had nothing to give. -/
def Awaits (id : StreamId) (is : List Incident) : Prop :=
  ∃ before after, is = before ++ .wrote id :: after ∧ ∀ e ∈ after, ¬ e.Settles id

/-- What holds of a read, by what has happened before it. -/
structure Rightly (before : List Incident) (id : StreamId) (n : Nat) (took : Option Reply)
    (answer : Except Fault Bytes) : Prop where
  /-- The next reply is taken exactly when the stream has given all it took and a write awaits a reply. -/
  takes : ∀ r, took = some r ↔ Awaits id before ∧ had id before = owed id before ∧ (waiting before).head? = some r
  /-- A read gives no more than it asks for, and no more than the reply allows whose bytes it gives. -/
  bounded : ∀ b, answer = .ok b → b ≠ [] → b.length ≤ n
    ∧ ∃ r, (takenBy id (before ++ [.read id n took answer])).getLast? = some r ∧ ∀ l ∈ r.limit, (b.length : Int) ≤ l
  /-- A read gives nothing only when nothing is left of what the stream took. -/
  emptied : WireEvent.data? answer = none →
    had id (before ++ [.read id n took answer]) = owed id (before ++ [.read id n took answer])
  /-- A fault is the one that the script has for the end of the reply. -/
  fault : ∀ f, answer = .error f → ∃ r g,
    (takenBy id (before ++ [.read id n took answer])).getLast? = some r ∧ r.fault = some g ∧ f = .network g

/-- Replies are neither lost nor handed out twice. -/
structure Faithful (g : Ledger) : Prop where
  /-- The replies that were taken, in the order of the takes, and those that are left are the queued ones. -/
  order : (takes g.incidents).map (·.2) ++ g.network.replies = queuedIn g.incidents
  /-- A stream gives the bytes of the replies that it took from the front. -/
  begins : ∀ id, had id g.incidents <+: owed id g.incidents
  reads : ∀ before id n took answer after, g.incidents = before ++ .read id n took answer :: after →
    Rightly before id n took answer

/-! ## One more incident -/

section

variable {id : StreamId} {is : List Incident} {e : Incident}

theorem takes_append (is js : List Incident) : takes (is ++ js) = takes is ++ takes js := List.filterMap_append

theorem queuedIn_append (is js : List Incident) : queuedIn (is ++ js) = queuedIn is ++ queuedIn js :=
  List.filterMap_append

theorem takenBy_append (id : StreamId) (is js : List Incident) :
    takenBy id (is ++ js) = takenBy id is ++ takenBy id js := by
  unfold takenBy
  rw [takes_append, List.filter_append, List.map_append]

theorem had_append (id : StreamId) (is js : List Incident) : had id (is ++ js) = had id is ++ had id js := by
  unfold had
  rw [List.filterMap_append, List.flatten_append]

theorem owed_append (id : StreamId) (is js : List Incident) : owed id (is ++ js) = owed id is ++ owed id js := by
  unfold owed
  rw [takenBy_append, List.flatMap_append]

theorem takenBy_read (id : StreamId) (n : Nat) (took : Option Reply) (a : Except Fault Bytes) :
    takenBy id [.read id n took a] = took.toList := by
  cases took with
  | none => rfl
  | some r => simp [takenBy, takes, Incident.take?]

theorem data?_ok {b : Bytes} (h : b ≠ []) : WireEvent.data? (.ok b) = some b := by
  obtain ⟨c, cs, rfl⟩ := List.exists_cons_of_ne_nil h
  rfl

theorem had_read (id : StreamId) (n : Nat) (took : Option Reply) (a : Except Fault Bytes) :
    had id [.read id n took a] = (WireEvent.data? a).getD [] := by
  unfold had
  cases h : WireEvent.data? a <;> simp [Incident.given?, h]

theorem takenBy_other (h : e.stream? ≠ some id) : takenBy id [e] = [] := by
  cases e with
  | read i n took a =>
    have hi : i ≠ id := fun hi => h (congrArg some hi)
    cases took with
    | none => rfl
    | some r => simp [takenBy, takes, Incident.take?, hi]
  | _ => rfl

theorem had_other (h : e.stream? ≠ some id) : had id [e] = [] := by
  cases e with
  | read i n took a =>
    have hi : i ≠ id := fun hi => h (congrArg some hi)
    simp [had, Incident.given?, hi]
  | _ => rfl

/-- Where an element of a list stands when the list grows by one at its end. -/
theorem concat_eq_append_cons {α : Type} {l before after : List α} {e x : α} (h : l ++ [e] = before ++ x :: after) :
    (after = [] ∧ l = before ∧ e = x) ∨ ∃ rest, after = rest ++ [e] ∧ l = before ++ x :: rest := by
  rcases List.eq_nil_or_concat after with rfl | ⟨rest, f, rfl⟩
  · obtain ⟨hl, he⟩ := List.append_inj' h rfl
    exact .inl ⟨rfl, hl, (List.cons.inj he).1⟩
  · rw [List.concat_eq_append, ← List.cons_append, ← List.append_assoc] at h
    obtain ⟨hl, he⟩ := List.append_inj' h rfl
    exact .inr ⟨rest, by rw [List.concat_eq_append, (List.cons.inj he).1], hl⟩

theorem awaits_concat : Awaits id (is ++ [e]) ↔ e = .wrote id ∨ Awaits id is ∧ ¬ e.Settles id := by
  constructor
  · rintro ⟨before, after, he, hafter⟩
    rcases concat_eq_append_cons he with ⟨-, -, rfl⟩ | ⟨rest, rfl, his⟩
    · exact .inl rfl
    · exact .inr ⟨⟨before, rest, his, fun x hx => hafter x (List.mem_append_left _ hx)⟩,
        hafter e (List.mem_append_right _ List.mem_cons_self)⟩
  · rintro (rfl | ⟨⟨before, after, rfl, hafter⟩, he⟩)
    · exact ⟨is, [], rfl, fun x hx => nomatch hx⟩
    · refine ⟨before, after ++ [e], by rw [List.append_assoc]; rfl, fun x hx => ?_⟩
      rcases List.mem_append.1 hx with hx | hx
      · exact hafter x hx
      · exact List.mem_singleton.1 hx ▸ he

theorem Incident.not_settles_of_other (h : e.stream? ≠ some id) : ¬ e.Settles id := by
  intro hs
  cases e with
  | read i n took a => exact h (congrArg some hs.1)
  | queued => exact hs
  | wrote => exact hs

end

/-! ## One stream and the record -/

/-- A stream is as the record tells: what it has left is what it still owes. -/
structure Mirrors (id : StreamId) (is : List Incident) (s : ScriptedStream) : Prop where
  opened : s.closed = false
  sourced : s.sourced = true
  place : 0 ≤ s.tape.place
  ahead : had id is ++ s.tape.ahead = owed id is
  awaiting : s.awaiting = true ↔ Awaits id is
  /-- The reply is the one taken last, unless it is gone: then nothing is left of it. -/
  reply : s.reply = (takenBy id is).getLast? ∨ s.reply = none ∧ s.tape.ahead = []
  forward : ∀ r ∈ s.reply, r.Forward

theorem Mirrors.isSpent {id : StreamId} {is : List Incident} {s : ScriptedStream} (h : Mirrors id is s) :
    s.tape.isSpent = true ↔ s.tape.ahead = [] := by
  simp [Tape.isSpent, h.place]

theorem Mirrors.allGiven {id : StreamId} {is : List Incident} {s : ScriptedStream} (h : Mirrors id is s) :
    had id is = owed id is ↔ s.tape.ahead = [] := by
  rw [← h.ahead, List.self_eq_append_right]

/-- What happens elsewhere does not concern a stream. -/
theorem Mirrors.other {id : StreamId} {is : List Incident} {s : ScriptedStream} {e : Incident} (h : Mirrors id is s)
    (he : e.stream? ≠ some id) : Mirrors id (is ++ [e]) s := by
  have htaken : takenBy id (is ++ [e]) = takenBy id is := by
    rw [takenBy_append, takenBy_other he, List.append_nil]
  refine ⟨h.opened, h.sourced, h.place, ?_, ?_, ?_, h.forward⟩
  · rw [had_append, had_other he, List.append_nil, owed, htaken]
    exact h.ahead
  · rw [h.awaiting, awaits_concat]
    refine ⟨fun ha => .inr ⟨ha, Incident.not_settles_of_other he⟩, ?_⟩
    rintro (rfl | ⟨ha, -⟩)
    · exact absurd rfl he
    · exact ha
  · rw [htaken]
    exact h.reply

theorem Mirrors.wrote {id : StreamId} {is : List Incident} {s : ScriptedStream} (data : Bytes) (h : Mirrors id is s) :
    Mirrors id (is ++ [.wrote id]) { s with pieces := data :: s.pieces, awaiting := true } where
  opened := h.opened
  sourced := h.sourced
  place := h.place
  ahead := by
    rw [had_append, owed_append]
    exact (List.append_nil (had id is)).symm ▸ (List.append_nil (owed id is)).symm ▸ h.ahead
  awaiting := ⟨fun _ => awaits_concat.2 (.inl rfl), fun _ => rfl⟩
  reply := by
    rw [takenBy_append]
    exact (List.append_nil (takenBy id is)).symm ▸ h.reply
  forward := h.forward

/-! ## A read -/

/-- A stream between the take of a read and its answer. -/
structure Refilled (id : StreamId) (is : List Incident) (replies : List Reply) (took : Option Reply)
    (t : ScriptedStream) : Prop where
  takes : ∀ r, took = some r ↔ Awaits id is ∧ had id is = owed id is ∧ replies.head? = some r
  opened : t.closed = false
  sourced : t.sourced = true
  place : 0 ≤ t.tape.place
  ahead : had id is ++ t.tape.ahead = owed id is ++ took.toList.flatMap (·.data)
  awaiting : t.awaiting = true ↔ Awaits id is ∧ took = none ∧ t.tape.ahead ≠ []
  reply : t.reply = (takenBy id is ++ took.toList).getLast? ∨ t.reply = none ∧ t.tape.ahead = []
  forward : ∀ r ∈ t.reply, r.Forward

theorem Mirrors.refill {id : StreamId} {is : List Incident} {s : ScriptedStream} {replies : List Reply}
    (h : Mirrors id is s) (hr : ∀ r ∈ replies, r.Forward) :
    ∃ took, replies = took.toList ++ (ScriptedNetwork.refill s replies).2
      ∧ Refilled id is replies took (ScriptedNetwork.refill s replies).1 := by
  unfold ScriptedNetwork.refill
  by_cases hdue : s.tape.isSpent = true ∧ s.awaiting = true
  · rw [if_pos (Bool.and_eq_true_iff.2 hdue)]
    dsimp only
    rw [if_pos h.sourced]
    have hspent := h.isSpent.1 hdue.1
    have hall := h.allGiven.2 hspent
    have hawaits := h.awaiting.1 hdue.2
    cases replies with
    | nil =>
      refine ⟨none, rfl, ?_, h.opened, h.sourced, h.place, ?_, ?_, .inr ⟨rfl, hspent⟩, fun r hr => nomatch hr⟩
      · exact fun r => ⟨fun hn => (nomatch hn), fun hn => (nomatch hn.2.2)⟩
      · rw [h.ahead]
        exact (List.append_nil _).symm
      · exact ⟨fun hf => (nomatch hf), fun hn => absurd hspent hn.2.2⟩
    | cons r rs =>
      refine ⟨some r, rfl, ?_, h.opened, h.sourced, Int.le_refl 0, ?_, ?_, .inl ?_, ?_⟩
      · exact fun q => ⟨fun hq => ⟨hawaits, hall, hq⟩, fun hq => hq.2.2⟩
      · rw [hall]
        exact congrArg _ (List.append_nil _).symm
      · exact ⟨fun hf => (nomatch hf), fun hn => (nomatch hn.2.1)⟩
      · exact List.getLast?_concat.symm
      · intro q hq
        cases hq
        exact hr r List.mem_cons_self
  · rw [if_neg fun hand => hdue (Bool.and_eq_true_iff.1 hand)]
    refine ⟨none, rfl, ?_, h.opened, h.sourced, h.place, ?_, ?_, ?_, h.forward⟩
    · refine fun r => ⟨fun hn => (nomatch hn), fun ⟨ha, hall, _⟩ => ?_⟩
      exact absurd ⟨h.isSpent.2 (h.allGiven.1 hall), h.awaiting.2 ha⟩ hdue
    · rw [h.ahead]
      exact (List.append_nil _).symm
    · rw [h.awaiting]
      exact ⟨fun ha => ⟨ha, rfl, fun hn => hdue ⟨h.isSpent.2 hn, h.awaiting.2 ha⟩⟩, fun ha => ha.1⟩
    · exact (List.append_nil (takenBy id is)).symm ▸ h.reply

/-- A read gives some bytes, no more than are asked for and no more than the reply allows. -/
theorem most_bounds {s : ScriptedStream} {n : Nat} (h : ∀ r ∈ s.reply, r.Forward) (hn : 0 < n) :
    1 ≤ s.most n ∧ s.most n ≤ n ∧ ∀ r ∈ s.reply, ∀ l ∈ r.limit, s.most n ≤ l := by
  unfold ScriptedStream.most ScriptedStream.limit?
  cases hr : s.reply with
  | none =>
    refine ⟨?_, Int.le_refl _, fun r hr => nomatch hr⟩
    simp only [Option.bind_none, Option.filter_none]
    omega
  | some r =>
    cases hl : r.limit with
    | none =>
      refine ⟨?_, ?_, fun q hq l hlq => ?_⟩
      · simp only [Option.bind_some, hl, Option.filter_none]
        omega
      · simp only [Option.bind_some, hl, Option.filter_none]
        exact Int.le_refl _
      · cases hq
        rw [hl] at hlq
        cases hlq
    | some l =>
      have hpos : 1 ≤ l := h r hr l hl
      have hne : l ≠ 0 := by omega
      simp only [Option.bind_some, hl, Option.filter_some, bne_iff_ne, ne_eq, hne, not_false_eq_true, if_true]
      refine ⟨by omega, by omega, fun q hq m hm => ?_⟩
      cases hq
      rw [hl] at hm
      cases hm
      omega

/-- What a read gives of a stream after its take, and the stream that it leaves. -/
def give (n : Int) (t : ScriptedStream) : Except Fault Bytes × ScriptedStream :=
  if t.tape.isSpent then
    match t.reply.bind (·.fault) with
    | some f => (.error (.network f), t)
    | none => (.ok [], t)
  else (.ok (t.tape.read (t.most n)).1, { t with tape := (t.tape.read (t.most n)).2 })

theorem read_eq_give {id : StreamId} {n : Int} {w : ScriptedNetwork} {s : ScriptedStream} (hget : w.stream? id = some s)
    (hopen : s.closed = false) :
    read id n w = ((give n (refill s w.replies).1).1,
      { w with replies := (refill s w.replies).2 }.put id (give n (refill s w.replies).1).2) := by
  unfold read give
  simp only [hget, hopen, Bool.false_eq_true, if_false]
  generalize refill s w.replies = p
  by_cases hspent : p.1.tape.isSpent = true
  · rw [if_pos hspent, if_pos hspent]
    cases p.1.reply.bind (·.fault) <;> rfl
  · rw [if_neg hspent, if_neg hspent]

theorem Refilled.reply_eq {id : StreamId} {is : List Incident} {replies : List Reply} {took : Option Reply}
    {t : ScriptedStream} (h : Refilled id is replies took t) (hahead : t.tape.ahead ≠ []) :
    ∃ r, t.reply = some r ∧ (takenBy id is ++ took.toList).getLast? = some r := by
  have hlast : t.reply = (takenBy id is ++ took.toList).getLast? := h.reply.resolve_right fun hr => hahead hr.2
  cases hreply : t.reply with
  | some r => exact ⟨r, rfl, hlast ▸ hreply⟩
  | none =>
    obtain ⟨htaken, htook⟩ := List.append_eq_nil_iff.1 (List.getLast?_eq_none_iff.1 (hlast ▸ hreply))
    have hall := h.ahead
    rw [owed, htaken, htook] at hall
    exact absurd (List.append_eq_nil_iff.1 hall).2 hahead

/-- What a stream gives after its take, when these are the replies that it has taken: nothing or the fault of the last
reply if nothing is left, and else some of what is left. -/
inductive Gave (replies : List Reply) (n : Nat) (t : ScriptedStream) : Except Fault Bytes → ScriptedStream → Prop
  | nothing {answer : Except Fault Bytes} (ahead : t.tape.ahead = []) (empty : WireEvent.data? answer = none)
      (fault : ∀ f, answer = .error f → ∃ r g, replies.getLast? = some r ∧ r.fault = some g ∧ f = .network g) :
      Gave replies n t answer t
  | piece {piece : Bytes} {tape : Tape} {r : Reply} (given : piece ≠ []) (ahead : t.tape.ahead = piece ++ tape.ahead)
      (most : piece.length ≤ n) (last : replies.getLast? = some r) (limit : ∀ l ∈ r.limit, (piece.length : Int) ≤ l)
      (place : 0 ≤ tape.place) : Gave replies n t (.ok piece) { t with tape := tape }

theorem Refilled.gave {id : StreamId} {is : List Incident} {replies : List Reply} {took : Option Reply}
    {t : ScriptedStream} {n : Nat} (h : Refilled id is replies took t) (hn : 0 < n) :
    Gave (takenBy id is ++ took.toList) n t (give n t).1 (give n t).2 := by
  have hspent : t.tape.isSpent = true ↔ t.tape.ahead = [] := by simp [Tape.isSpent, h.place]
  unfold give
  by_cases hahead : t.tape.ahead = []
  · rw [if_pos (hspent.2 hahead)]
    cases hfault : t.reply.bind (·.fault) with
    | none => exact .nothing hahead rfl fun f hf => by cases hf
    | some g =>
      refine .nothing hahead rfl fun f hf => ?_
      obtain ⟨r, hr, hg⟩ := Option.bind_eq_some_iff.1 hfault
      cases hf
      rcases h.reply with hlast | ⟨hnone, -⟩
      · exact ⟨r, g, hlast ▸ hr, hg, rfl⟩
      · rw [hnone] at hr
        cases hr
  · rw [if_neg fun hs => hahead (hspent.1 hs)]
    obtain ⟨hpos, hmost, hlimit⟩ := most_bounds h.forward hn
    have hread : t.tape.read (t.most n) = t.tape.readOn (t.most n).toNat h.place := dif_pos ⟨h.place, by omega⟩
    rw [hread]
    obtain ⟨r, hreply, hlast⟩ := h.reply_eq hahead
    have hlength : (t.tape.readOn (t.most n).toNat h.place).1.length ≤ (t.most n).toNat := List.length_take_le _ _
    refine .piece ?_ (List.take_append_drop _ _).symm (by omega) hlast (fun l hl => ?_) ?_
    · intro hnone
      rcases List.take_eq_nil_iff.1 hnone with hzero | hnil
      · omega
      · exact hahead hnil
    · have := hlimit r hreply l hl
      omega
    · have := h.place
      simp only [Tape.readOn]
      omega

theorem Refilled.had_eq {id : StreamId} {is : List Incident} {replies : List Reply} {took : Option Reply}
    {t : ScriptedStream} {n : Nat} (h : Refilled id is replies took t) (hn : 0 < n) :
    had id (is ++ [.read id n took (give n t).1]) ++ (give n t).2.tape.ahead
      = owed id (is ++ [.read id n took (give n t).1]) := by
  rw [had_append, had_read, owed_append, owed.eq_1 id [_], takenBy_read, ← h.ahead]
  have hgave := h.gave hn
  generalize give n t = p at hgave ⊢
  obtain ⟨answer, u⟩ := p
  cases hgave with
  | nothing ahead empty _ => rw [empty, ahead, Option.getD_none, List.append_nil]
  | piece given ahead => rw [ahead, data?_ok given, Option.getD_some, List.append_assoc]

/-- After a read the stream is as the record tells. -/
theorem Refilled.mirrors {id : StreamId} {is : List Incident} {replies : List Reply} {took : Option Reply}
    {t : ScriptedStream} {n : Nat} (h : Refilled id is replies took t) (hn : 0 < n) :
    Mirrors id (is ++ [.read id n took (give n t).1]) (give n t).2 := by
  have hhad := h.had_eq hn
  have hgave := h.gave hn
  have hreply := h.reply
  generalize give n t = p at hhad hgave ⊢
  obtain ⟨answer, u⟩ := p
  rw [← takenBy_read id n took answer, ← takenBy_append] at hreply
  cases hgave with
  | nothing ahead empty _ =>
    refine ⟨h.opened, h.sourced, h.place, hhad, ?_, hreply, h.forward⟩
    rw [h.awaiting, awaits_concat]
    refine ⟨fun ha => absurd ahead ha.2.2, ?_⟩
    rintro (hf | ⟨-, hf⟩)
    · cases hf
    · exact absurd ⟨rfl, .inr empty⟩ hf
  | piece given ahead _ _ _ place =>
    have hleft : t.tape.ahead ≠ [] := fun hnil => given (List.append_eq_nil_iff.1 (ahead.symm.trans hnil)).1
    refine ⟨h.opened, h.sourced, place, hhad, ?_, .inl (hreply.resolve_right fun hf => hleft hf.2), h.forward⟩
    rw [h.awaiting, awaits_concat]
    constructor
    · rintro ⟨ha, hnone, -⟩
      refine .inr ⟨ha, fun hs => hs.2.elim (absurd hnone) fun hd => ?_⟩
      rw [data?_ok given] at hd
      cases hd
    · rintro (hf | ⟨ha, hs⟩)
      · cases hf
      · exact ⟨ha, Decidable.not_not.1 fun htook => hs ⟨rfl, .inl htook⟩, hleft⟩

/-- **A read is right.** -/
theorem Refilled.rightly {id : StreamId} {is : List Incident} {took : Option Reply}
    {t : ScriptedStream} {n : Nat} (h : Refilled id is (waiting is) took t) (hn : 0 < n) :
    Rightly is id n took (give n t).1 := by
  have hhad := h.had_eq hn
  have hgave := h.gave hn
  generalize give n t = p at hhad hgave ⊢
  obtain ⟨answer, u⟩ := p
  have htaken : takenBy id (is ++ [.read id n took answer]) = takenBy id is ++ took.toList := by
    rw [takenBy_append, takenBy_read]
  cases hgave with
  | nothing ahead empty fault =>
    refine ⟨h.takes, fun b hb hne => ?_, fun _ => ?_, fun f hf => ?_⟩
    · cases hb
      rw [data?_ok hne] at empty
      cases empty
    · dsimp only at hhad
      rw [ahead, List.append_nil] at hhad
      exact hhad
    · rw [htaken]
      exact fault f hf
  | piece given ahead most last limit =>
    refine ⟨h.takes, fun b hb _ => ?_, fun hnone => ?_, fun f hf => ?_⟩
    · cases hb
      rw [htaken]
      exact ⟨most, _, last, limit⟩
    · rw [data?_ok given] at hnone
      cases hnone
    · cases hf

/-! ## The network and the record -/

/-- What holds of a network and its record after any uses. -/
structure Ledger.Kept (g : Ledger) : Prop where
  quiet : g.network.writeFaults = []
  order : (takes g.incidents).map (·.2) ++ g.network.replies = queuedIn g.incidents
  forward : ∀ r ∈ g.network.replies, r.Forward
  /-- Nothing has happened on a stream that was not opened, as if it were a new one. -/
  streams : ∀ id, Mirrors id g.incidents ((g.network.stream? id).getD {})
  reads : ∀ before id n took answer after, g.incidents = before ++ .read id n took answer :: after →
    Rightly before id n took answer

theorem Ledger.Kept.waiting_eq {g : Ledger} (h : g.Kept) : waiting g.incidents = g.network.replies := by
  rw [waiting, ← h.order, ← List.length_map (f := Prod.snd), List.drop_left]

theorem Ledger.Kept.faithful {g : Ledger} (h : g.Kept) : Faithful g where
  order := h.order
  begins id := ⟨_, (h.streams id).ahead⟩
  reads := h.reads

theorem mirrors_nil (id : StreamId) : Mirrors id [] {} where
  opened := rfl
  sourced := rfl
  place := Int.le_refl 0
  ahead := rfl
  awaiting := ⟨fun hf => (nomatch hf), fun ⟨before, _, hf, _⟩ => by cases before <;> cases hf⟩
  reply := .inl rfl
  forward _ hr := nomatch hr

theorem Ledger.kept_new : Ledger.Kept {} where
  quiet := rfl
  order := rfl
  forward _ hr := nomatch hr
  streams := mirrors_nil
  reads before _ _ _ _ _ hf := by cases before <;> cases hf

theorem taken_eq {w w' : ScriptedNetwork} {took : Option Reply} (h : w.replies = took.toList ++ w'.replies) :
    taken w w' = took := by
  unfold taken
  rw [h]
  cases took with
  | none => exact if_neg (Nat.lt_irrefl _)
  | some r => exact if_pos (Nat.lt_succ_self _)

/-- What one more incident queues and takes accounts for the change of the queue. -/
theorem Ledger.Kept.order_concat {g : Ledger} {e : Incident} {replies : List Reply} (h : g.Kept)
    (he : g.network.replies ++ queuedIn [e] = (takes [e]).map (·.2) ++ replies) :
    (takes (g.incidents ++ [e])).map (·.2) ++ replies = queuedIn (g.incidents ++ [e]) := by
  rw [takes_append, queuedIn_append, ← h.order, List.map_append, List.append_assoc, List.append_assoc, he]

/-- Reads are right after one more incident, if that is right when it is a read. -/
theorem Ledger.Kept.reads_concat {g : Ledger} {e : Incident} (h : g.Kept)
    (he : ∀ id n took answer, e = .read id n took answer → Rightly g.incidents id n took answer) :
    ∀ before id n took answer after, g.incidents ++ [e] = before ++ .read id n took answer :: after →
      Rightly before id n took answer := by
  intro before id n took answer after hs
  rcases concat_eq_append_cons hs with ⟨-, rfl, heq⟩ | ⟨rest, -, hs⟩
  · exact he id n took answer heq
  · exact h.reads before id n took answer rest hs

theorem Ledger.Kept.use_queue {g : Ledger} {r : Reply} (h : g.Kept) (hr : r.Forward) : (g.use (.queue r)).Kept where
  quiet := h.quiet
  order := h.order_concat rfl
  forward q hq := by
    rcases List.mem_append.1 hq with hq | hq
    · exact h.forward q hq
    · exact List.mem_singleton.1 hq ▸ hr
  streams id := (h.streams id).other (e := .queued r) (fun hf => nomatch hf)
  reads := h.reads_concat fun _ _ _ _ he => nomatch he

theorem Ledger.Kept.use_connect {g : Ledger} (host : String) (port timeout : Value) (h : g.Kept) :
    (g.use (.connect host port timeout)).Kept := by
  unfold Ledger.use connect
  dsimp only
  split
  · exact ⟨h.quiet, h.order, h.forward, h.streams, h.reads⟩
  · refine ⟨h.quiet, h.order, h.forward, fun id => ?_, h.reads⟩
    have hs := h.streams id
    dsimp only [stream?, add] at hs ⊢
    rcases Nat.lt_trichotomy id g.network.streams.length with hlt | rfl | hgt
    · rwa [List.getElem?_append_left hlt]
    · rw [List.getElem?_eq_none (Nat.le_refl _)] at hs
      rw [List.getElem?_concat_length]
      exact ⟨hs.opened, hs.sourced, hs.place, hs.ahead, hs.awaiting, hs.reply, hs.forward⟩
    · rw [List.getElem?_eq_none (Nat.le_of_lt hgt)] at hs
      rwa [List.getElem?_eq_none (by rw [List.length_append]; exact hgt)]

theorem stream?_put_getD {id : StreamId} {s t : ScriptedStream} {w : ScriptedNetwork} (h : w.stream? id = some s)
    (other : StreamId) :
    ((w.put id t).stream? other).getD {} = if other = id then t else (w.stream? other).getD {} := by
  by_cases ho : other = id
  · rw [if_pos ho, ho, stream?_put h]
    rfl
  · rw [if_neg ho, stream?, stream?, put, List.getElem?_set_ne (Ne.symm ho)]

theorem Ledger.Kept.use_write {g : Ledger} (id : StreamId) (data : Bytes) (h : g.Kept) :
    (g.use (.write id data)).Kept := by
  unfold Ledger.use
  dsimp only
  cases hget : g.network.stream? id with
  | none => exact h
  | some s =>
    have hs : Mirrors id g.incidents s := by simpa [hget] using h.streams id
    have hwrite : write id data g.network
        = (.ok (), g.network.put id { s with pieces := data :: s.pieces, awaiting := true }) := by
      unfold write nextWriteFault
      simp only [hget, h.quiet, hs.opened, Bool.false_eq_true, if_false]
      cases s.faulty <;> rfl
    rw [hwrite]
    refine ⟨h.quiet, ?_, h.forward, fun other => ?_, h.reads_concat fun _ _ _ _ he => by cases he⟩
    · exact h.order_concat (List.append_nil _)
    · dsimp only
      rw [stream?_put_getD hget]
      split
      · rename_i ho
        exact ho ▸ hs.wrote data
      · rename_i ho
        exact (h.streams other).other fun he => ho (Option.some.inj he).symm

theorem Ledger.Kept.use_read {g : Ledger} {id : StreamId} {n : Nat} (h : g.Kept) (hn : 0 < n) :
    (g.use (.read id n)).Kept := by
  unfold Ledger.use
  dsimp only
  cases hget : g.network.stream? id with
  | none => exact h
  | some s =>
    have hs : Mirrors id g.incidents s := by simpa [hget] using h.streams id
    obtain ⟨took, hreplies, hrefilled⟩ := hs.refill h.forward
    have hread := read_eq_give (n := n) hget hs.opened
    generalize refill s g.network.replies = p at hread hreplies hrefilled
    obtain ⟨t, replies⟩ := p
    dsimp only at hread hreplies hrefilled ⊢
    rw [hread, taken_eq hreplies]
    refine ⟨h.quiet, ?_, fun r hr => h.forward r ?_, fun other => ?_, h.reads_concat ?_⟩
    · refine h.order_concat ?_
      rw [hreplies]
      cases took <;> exact List.append_nil _
    · rw [hreplies]
      exact List.mem_append_right _ hr
    · have hput := stream?_put_getD (t := (give n t).2) (w := { g.network with replies := replies }) hget other
      dsimp only at hput ⊢
      rw [hput]
      split
      · rename_i ho
        exact ho ▸ hrefilled.mirrors hn
      · rename_i ho
        exact (h.streams other).other fun he => ho (Option.some.inj he).symm
    · rintro i m took' answer' he
      cases he
      exact (h.waiting_eq.symm ▸ hrefilled : Refilled id g.incidents (waiting g.incidents) took t).rightly hn

theorem Ledger.Kept.use {g : Ledger} {u : Use} (h : g.Kept) (hu : u.Proper) : (g.use u).Kept := by
  cases u with
  | queue r => exact h.use_queue hu
  | connect host port timeout => exact h.use_connect host port timeout
  | write id data => exact h.use_write id data
  | read id n => exact h.use_read hu

theorem Ledger.Kept.run {us : List Use} {g : Ledger} (h : g.Kept) (hus : ∀ u ∈ us, u.Proper) : (run us g).Kept := by
  induction us generalizing g with
  | nil => exact h
  | cons u us ih =>
    exact ih (h.use (hus u List.mem_cons_self)) fun v hv => hus v (List.mem_cons_of_mem _ hv)

/-- **Replies are neither lost nor handed out twice**, in whatever order replies are queued and streams are opened,
written and read. -/
theorem Ledger.run_faithful (us : List Use) (h : ∀ u ∈ us, u.Proper) : Faithful (run us {}) :=
  (kept_new.run h).faithful

/-- Two streams take one reply each, and the first is read on after the second has taken its reply. -/
def shared : List Use :=
  [.connect "a" (.int 80) .none, .connect "b" (.int 80) .none,
    .queue { data := [1, 2, 3], limit := some 2 }, .queue { data := [4], fault := some { kind := .reset } },
    .read 0 1, .write 0 [7], .read 0 9, .write 1 [8], .write 0 [9], .read 1 9, .read 0 9, .read 0 9, .read 1 9]

theorem run_faithful_shared : (∀ u ∈ shared, u.Proper) ∧ Faithful (Ledger.run shared {})
    ∧ (takes (Ledger.run shared {}).incidents).map (fun t => (t.1, t.2.data)) = [(0, [1, 2, 3]), (1, [4])]
    ∧ had 0 (Ledger.run shared {}).incidents = [1, 2, 3] ∧ had 1 (Ledger.run shared {}).incidents = [4] := by
  have h : ∀ u ∈ shared, u.Proper := by decide
  exact ⟨h, Ledger.run_faithful shared h, rfl, rfl, rfl⟩

end ScriptedNetwork
end Transport
