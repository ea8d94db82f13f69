import ContentTransport.Network
/-!
# Recorded — a network that keeps a record of its calls

A recorded network does what the network under it does, and writes down every call with its answer.  A session over a
recorded network is the same program as over the network itself, so what its record shows is what the session does.

`Reads` and `Writes` are the two loops of a transfer as seen from the network: reads that each give something, and writes
that all succeed.
-/
namespace Transport

/-- A call to a network and its answer. -/
inductive WireEvent
  | connect (host : String) (port timeout : Value) (answer : Except Fault StreamId)
  | secure (id : StreamId) (host : String) (timeout : Value) (verify : Bool) (answer : Except Fault StreamId)
  | read (id : StreamId) (most : Nat) (answer : Except Fault Bytes)
  | write (id : StreamId) (data : Bytes) (answer : Except Fault Unit)
  | close (id : StreamId)

structure Recorded (ν : Type) where
  network : ν
  /-- The calls, in their order. -/
  wire : List WireEvent := []

namespace Recorded

variable {ν : Type} [Network ν]

def note {α : Type} (w : Recorded ν) (r : α × ν) (e : α → WireEvent) : α × Recorded ν :=
  (r.1, { network := r.2, wire := w.wire ++ [e r.1] })

instance : Network (Recorded ν) where
  connect host port timeout w :=
    w.note (Network.connect host port timeout w.network) (.connect host port timeout)
  secure id host timeout verify w :=
    w.note (Network.secure id host timeout verify w.network) (.secure id host timeout verify)
  read id n w := w.note (Network.read id n w.network) (.read id n)
  write id data w := w.note (Network.write id data w.network) (.write id data)
  close id w := { network := Network.close id w.network, wire := w.wire ++ [.close id] }
  isOpen id w := Network.isOpen id w.network
  readable id w := Network.readable id w.network
  read_shrinks h := by
    simp only [note, Prod.mk.injEq] at h
    obtain ⟨ha, rfl⟩ := h
    exact Network.read_shrinks (Prod.ext ha rfl)

/-! ## What a call adds to the record -/

theorem connect_eq {host : String} {port timeout : Value} {w w' : Recorded ν} {a : Except Fault StreamId}
    (h : Network.connect host port timeout w = (a, w')) :
    Network.connect host port timeout w.network = (a, w'.network)
      ∧ w'.wire = w.wire ++ [.connect host port timeout a] := by
  cases h
  exact ⟨rfl, rfl⟩

theorem secure_eq {id : StreamId} {host : String} {timeout : Value} {verify : Bool} {w w' : Recorded ν}
    {a : Except Fault StreamId} (h : Network.secure id host timeout verify w = (a, w')) :
    Network.secure id host timeout verify w.network = (a, w'.network)
      ∧ w'.wire = w.wire ++ [.secure id host timeout verify a] := by
  cases h
  exact ⟨rfl, rfl⟩

theorem read_eq {id : StreamId} {n : Nat} {w w' : Recorded ν} {a : Except Fault Bytes}
    (h : Network.read id n w = (a, w')) :
    Network.read id n w.network = (a, w'.network) ∧ w'.wire = w.wire ++ [.read id n a] := by
  cases h
  exact ⟨rfl, rfl⟩

theorem write_eq {id : StreamId} {data : Bytes} {w w' : Recorded ν} {a : Except Fault Unit}
    (h : Network.write id data w = (a, w')) :
    Network.write id data w.network = (a, w'.network) ∧ w'.wire = w.wire ++ [.write id data a] := by
  cases h
  exact ⟨rfl, rfl⟩

@[simp] theorem close_network (id : StreamId) (w : Recorded ν) :
    (Network.close id w).network = Network.close id w.network := rfl

@[simp] theorem close_wire (id : StreamId) (w : Recorded ν) :
    (Network.close id w).wire = w.wire ++ [.close id] := rfl

end Recorded

/-! ## Loops of calls -/

section

variable {ν : Type} [Network ν]

/-- Reads of a stream that follow one another and give something, and what they give. -/
inductive Reads (id : StreamId) (n : Nat) : ν → List Bytes → ν → Prop
  | nil (w : ν) : Reads id n w [] w
  | cons {w w' w'' : ν} {b : UInt8} {bs : Bytes} {ps : List Bytes} (h : Network.read id n w = (.ok (b :: bs), w'))
      (t : Reads id n w' ps w'') : Reads id n w ((b :: bs) :: ps) w''

/-- Writes to a stream that follow one another and succeed, and what they write. -/
inductive Writes (id : StreamId) : ν → List Bytes → ν → Prop
  | nil (w : ν) : Writes id w [] w
  | cons {w w' w'' : ν} {p : Bytes} {ps : List Bytes} (h : Network.write id p w = (.ok (), w'))
      (t : Writes id w' ps w'') : Writes id w (p :: ps) w''

theorem Reads.ne_nil {id : StreamId} {n : Nat} {w w' : ν} {ps : List Bytes} (h : Reads id n w ps w') :
    ∀ p ∈ ps, p ≠ [] := by
  induction h with
  | nil => intro p hp; cases hp
  | cons h t ih =>
    intro p hp
    rcases List.mem_cons.1 hp with rfl | hp
    · exact List.cons_ne_nil _ _
    · exact ih p hp

def WireEvent.reads (id : StreamId) (n : Nat) (ps : List Bytes) : List WireEvent := ps.map fun p => .read id n (.ok p)

def WireEvent.writes (id : StreamId) (ps : List Bytes) : List WireEvent := ps.map fun p => .write id p (.ok ())

theorem Reads.wire {id : StreamId} {n : Nat} {w w' : Recorded ν} {ps : List Bytes} (h : Reads id n w ps w') :
    w'.wire = w.wire ++ WireEvent.reads id n ps := by
  induction h with
  | nil => exact (List.append_nil _).symm
  | cons h t ih =>
    rw [ih, (Recorded.read_eq h).2, List.append_assoc]
    rfl

theorem Reads.network {id : StreamId} {n : Nat} {w w' : Recorded ν} {ps : List Bytes} (h : Reads id n w ps w') :
    Reads id n w.network ps w'.network := by
  induction h with
  | nil => exact .nil _
  | cons h t ih => exact .cons (Recorded.read_eq h).1 ih

theorem Writes.wire {id : StreamId} {w w' : Recorded ν} {ps : List Bytes} (h : Writes id w ps w') :
    w'.wire = w.wire ++ WireEvent.writes id ps := by
  induction h with
  | nil => exact (List.append_nil _).symm
  | cons h t ih =>
    rw [ih, (Recorded.write_eq h).2, List.append_assoc]
    rfl

theorem Writes.network {id : StreamId} {w w' : Recorded ν} {ps : List Bytes} (h : Writes id w ps w') :
    Writes id w.network ps w'.network := by
  induction h with
  | nil => exact .nil _
  | cons h t ih => exact .cons (Recorded.write_eq h).1 ih

end

/-! ## What a record says of a stream -/

namespace WireEvent

/-- The stream that a call is about; a connection that fails is about none. -/
def stream? : WireEvent → Option StreamId
  | connect _ _ _ (.ok id) => some id
  | connect _ _ _ (.error _) => none
  | secure id _ _ _ _ => some id
  | read id _ _ => some id
  | write id _ _ => some id
  | close id => some id

/-- What a call writes to a stream, and whether that succeeds. -/
def writeTo? (id : StreamId) : WireEvent → Option (Bytes × Bool)
  | write i p a => if i = id then some (p, a.isOk) else none
  | _ => none

/-- What a call gives that reads from a stream. -/
def readFrom? (id : StreamId) : WireEvent → Option (Except Fault Bytes)
  | read i _ a => if i = id then some a else none
  | _ => none

def writesTo (id : StreamId) (es : List WireEvent) : List (Bytes × Bool) := es.filterMap (writeTo? id)

def readsFrom (id : StreamId) (es : List WireEvent) : List (Except Fault Bytes) := es.filterMap (readFrom? id)

/-- What an answer to a read gives, if it gives something. -/
def data? : Except Fault Bytes → Option Bytes
  | .ok (b :: bs) => some (b :: bs)
  | _ => none

def dataFrom (id : StreamId) (es : List WireEvent) : List Bytes := (readsFrom id es).filterMap data?

theorem writesTo_append (id : StreamId) (es fs : List WireEvent) :
    writesTo id (es ++ fs) = writesTo id es ++ writesTo id fs := List.filterMap_append

theorem readsFrom_append (id : StreamId) (es fs : List WireEvent) :
    readsFrom id (es ++ fs) = readsFrom id es ++ readsFrom id fs := List.filterMap_append

theorem writesTo_of_others {id : StreamId} {es : List WireEvent} (h : ∀ e ∈ es, e.stream? ≠ some id) :
    writesTo id es = [] := by
  refine List.filterMap_eq_nil_iff.2 fun e he => ?_
  cases e with
  | write i p a => exact if_neg fun hi => h _ he (congrArg some hi)
  | _ => rfl

theorem readsFrom_of_others {id : StreamId} {es : List WireEvent} (h : ∀ e ∈ es, e.stream? ≠ some id) :
    readsFrom id es = [] := by
  refine List.filterMap_eq_nil_iff.2 fun e he => ?_
  cases e with
  | read i n a => exact if_neg fun hi => h _ he (congrArg some hi)
  | _ => rfl

theorem writesTo_writes (id : StreamId) (ps : List Bytes) : writesTo id (writes id ps) = ps.map (·, true) := by
  have h : (writeTo? id ∘ fun p => write id p (.ok ())) = some ∘ (·, true) := funext fun p => if_pos rfl
  rw [writesTo, writes, List.filterMap_map, h, List.filterMap_eq_map]

theorem writesTo_reads (id other : StreamId) (n : Nat) (ps : List Bytes) : writesTo id (reads other n ps) = [] := by
  refine List.filterMap_eq_nil_iff.2 fun e he => ?_
  obtain ⟨p, -, rfl⟩ := List.mem_map.1 he
  rfl

theorem readsFrom_reads (id : StreamId) (n : Nat) (ps : List Bytes) : readsFrom id (reads id n ps) = ps.map .ok := by
  have h : (readFrom? id ∘ fun p => read id n (.ok p)) = some ∘ .ok := funext fun p => if_pos rfl
  rw [readsFrom, reads, List.filterMap_map, h, List.filterMap_eq_map]

theorem readsFrom_writes (id other : StreamId) (ps : List Bytes) : readsFrom id (writes other ps) = [] := by
  refine List.filterMap_eq_nil_iff.2 fun e he => ?_
  obtain ⟨p, -, rfl⟩ := List.mem_map.1 he
  rfl

theorem writesTo_write (id : StreamId) (p : Bytes) (a : Except Fault Unit) :
    writesTo id [.write id p a] = [(p, a.isOk)] := List.filterMap_cons_some (if_pos rfl)

theorem readsFrom_read (id : StreamId) (n : Nat) (a : Except Fault Bytes) :
    readsFrom id [.read id n a] = [a] := List.filterMap_cons_some (if_pos rfl)

theorem dataFrom_append (id : StreamId) (es fs : List WireEvent) :
    dataFrom id (es ++ fs) = dataFrom id es ++ dataFrom id fs := by
  rw [dataFrom, readsFrom_append, List.filterMap_append]
  rfl

theorem dataFrom_reads (id : StreamId) (n : Nat) {ps : List Bytes} (h : ∀ p ∈ ps, p ≠ []) :
    dataFrom id (reads id n ps) = ps := by
  rw [dataFrom, readsFrom_reads, List.filterMap_map]
  induction ps with
  | nil => rfl
  | cons p ps ih =>
    cases p with
    | nil => exact absurd rfl (h [] List.mem_cons_self)
    | cons b bs =>
      have hb : (data? ∘ (.ok : Bytes → Except Fault Bytes)) (b :: bs) = some (b :: bs) := rfl
      rw [List.filterMap_cons_some hb, ih fun p hp => h p (List.mem_cons_of_mem _ hp)]

theorem dataFrom_of_none {id : StreamId} {es : List WireEvent} (h : readsFrom id es = []) : dataFrom id es = [] := by
  rw [dataFrom, h]
  rfl

theorem ne_nil_of_mem_dataFrom {id : StreamId} {es : List WireEvent} {p : Bytes} (h : p ∈ dataFrom id es) :
    p ≠ [] := by
  obtain ⟨x, -, hx⟩ := List.mem_filterMap.1 h
  unfold data? at hx
  split at hx
  · cases hx
    exact List.cons_ne_nil _ _
  · cases hx

theorem dataFrom_of_uncounted {id : StreamId} {es : List WireEvent}
    (h : (dataFrom id es).flatten.length = 0) : dataFrom id es = [] := by
  have hne : ∀ p ∈ dataFrom id es, p ≠ [] := fun p hp => ne_nil_of_mem_dataFrom hp
  cases hd : dataFrom id es with
  | nil => rfl
  | cons p ps =>
    rw [hd] at h hne
    rw [List.flatten_cons, List.length_append] at h
    exact absurd (List.length_eq_zero_iff.1 (Nat.eq_zero_of_add_eq_zero_right h)) (hne p List.mem_cons_self)

/-- What a call reads, from whichever stream, if it reads something. -/
def given? : WireEvent → Option Bytes
  | read _ _ a => data? a
  | _ => none

/-- What calls read, from whichever streams. -/
def given (es : List WireEvent) : List Bytes := es.filterMap given?

theorem given_append (es fs : List WireEvent) : given (es ++ fs) = given es ++ given fs := List.filterMap_append

theorem given_reads (id : StreamId) (n : Nat) {ps : List Bytes} (h : ∀ p ∈ ps, p ≠ []) :
    given (reads id n ps) = ps := by
  induction ps with
  | nil => rfl
  | cons p ps ih =>
    obtain ⟨b, bs, rfl⟩ := List.exists_cons_of_ne_nil (h p List.mem_cons_self)
    have ht := ih fun q hq => h q (List.mem_cons_of_mem _ hq)
    exact congrArg ((b :: bs) :: ·) ht

theorem given_writes (id : StreamId) (ps : List Bytes) : given (writes id ps) = [] := by
  refine List.filterMap_eq_nil_iff.2 fun e he => ?_
  obtain ⟨p, -, rfl⟩ := List.mem_map.1 he
  rfl

theorem given_of_closes {es : List WireEvent} (h : ∀ e ∈ es, ∃ id, e = .close id) : given es = [] := by
  refine List.filterMap_eq_nil_iff.2 fun e he => ?_
  obtain ⟨id, rfl⟩ := h e he
  rfl

theorem mem_of_writesTo {id : StreamId} {es : List WireEvent} {p : Bytes} {b : Bool} (h : (p, b) ∈ writesTo id es) :
    ∃ a, .write id p a ∈ es ∧ a.isOk = b := by
  obtain ⟨e, he, hs⟩ := List.mem_filterMap.1 h
  cases e with
  | write i q a =>
    have hs : (if i = id then some (q, a.isOk) else none) = some (p, b) := hs
    by_cases hi : i = id
    · rw [if_pos hi, Option.some.injEq, Prod.mk.injEq] at hs
      obtain ⟨rfl, ha⟩ := hs
      exact ⟨a, hi ▸ he, ha⟩
    · rw [if_neg hi] at hs
      cases hs
  | _ => cases hs

theorem mem_writes {id : StreamId} {ps : List Bytes} {e : WireEvent} (h : e ∈ writes id ps) :
    ∃ p ∈ ps, e = .write id p (.ok ()) := by
  obtain ⟨p, hp, rfl⟩ := List.mem_map.1 h
  exact ⟨p, hp, rfl⟩

theorem mem_reads {id : StreamId} {n : Nat} {ps : List Bytes} {e : WireEvent} (h : e ∈ reads id n ps) :
    ∃ p ∈ ps, e = .read id n (.ok p) := by
  obtain ⟨p, hp, rfl⟩ := List.mem_map.1 h
  exact ⟨p, hp, rfl⟩

end WireEvent

end Transport
