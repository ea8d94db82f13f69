import ContentTransport.Proofs.Network.Recorded
import ContentTransport.Url
/-!
# Serving — what a record shows of streams

A stream serves an origin if it was connected to the host and the port of the origin, with TLS for that host exactly if
the scheme asks for it (`Serves`).  Calls may be owned by an origin, which is to write to streams that serve it only
(`Owned`), may use one stream as it is (`Talk`), or may leave what is sent and received alone (`Silent`).
-/
namespace Transport

/-! ## Streams of an origin -/

def WireEvent.opens : WireEvent → Bool
  | .connect _ _ _ _ => true
  | .secure _ _ _ _ _ => true
  | _ => false

/-- A stream that serves the requests for an origin, as the record shows it. -/
structure Serves (wire : List WireEvent) (o : Origin) (id : StreamId) : Prop where
  connected : ∃ timeout, .connect o.host (.int o.port) timeout (.ok id) ∈ wire
  nowhereElse : ∀ host port timeout, .connect host port timeout (.ok id) ∈ wire → host = o.host ∧ port = .int o.port
  secured : o.scheme = "https" → ∃ timeout verify, .secure id o.host timeout verify (.ok id) ∈ wire
  plain : ∀ host timeout verify a, .secure id host timeout verify a ∈ wire →
    o.scheme = "https" ∧ host = o.host ∧ a = .ok id

/-- Calls that use a stream as it is. -/
def Talk (id : StreamId) (es : List WireEvent) : Prop := ∀ e ∈ es, e.stream? = some id ∧ e.opens = false

theorem talk_nil (id : StreamId) : Talk id [] := fun _ h => nomatch h

theorem Talk.append {id : StreamId} {es fs : List WireEvent} (h : Talk id es) (h' : Talk id fs) : Talk id (es ++ fs) := by
  intro e he
  rcases List.mem_append.1 he with he | he
  · exact h e he
  · exact h' e he

theorem Talk.others {id other : StreamId} {es : List WireEvent} (h : Talk id es) (hne : other ≠ id) :
    ∀ e ∈ es, e.stream? ≠ some other := by
  intro e he ho
  rw [(h e he).1, Option.some.injEq] at ho
  exact hne ho.symm

theorem talk_read (id : StreamId) (n : Nat) (a : Except Fault Bytes) : Talk id [.read id n a] := by
  intro e he
  cases List.mem_singleton.1 he
  exact ⟨rfl, rfl⟩

theorem talk_write (id : StreamId) (p : Bytes) (a : Except Fault Unit) : Talk id [.write id p a] := by
  intro e he
  cases List.mem_singleton.1 he
  exact ⟨rfl, rfl⟩

theorem talk_close (id : StreamId) : Talk id [.close id] := by
  intro e he
  cases List.mem_singleton.1 he
  exact ⟨rfl, rfl⟩

theorem talk_reads (id : StreamId) (n : Nat) (ps : List Bytes) : Talk id (WireEvent.reads id n ps) := by
  intro e he
  obtain ⟨p, -, rfl⟩ := WireEvent.mem_reads he
  exact ⟨rfl, rfl⟩

theorem talk_writes (id : StreamId) (ps : List Bytes) : Talk id (WireEvent.writes id ps) := by
  intro e he
  obtain ⟨p, -, rfl⟩ := WireEvent.mem_writes he
  exact ⟨rfl, rfl⟩

theorem Serves.append {wire es : List WireEvent} {o : Origin} {id : StreamId} (h : Serves wire o id)
    (kept : ∀ e ∈ es, e.stream? = some id → e.opens = false) : Serves (wire ++ es) o id where
  connected := by
    obtain ⟨timeout, hc⟩ := h.connected
    exact ⟨timeout, List.mem_append_left _ hc⟩
  nowhereElse host port timeout hm := by
    rcases List.mem_append.1 hm with hm | hm
    · exact h.nowhereElse host port timeout hm
    · exact nomatch kept _ hm rfl
  secured hs := by
    obtain ⟨timeout, verify, hm⟩ := h.secured hs
    exact ⟨timeout, verify, List.mem_append_left _ hm⟩
  plain host timeout verify a hm := by
    rcases List.mem_append.1 hm with hm | hm
    · exact h.plain host timeout verify a hm
    · exact nomatch kept _ hm rfl

theorem Serves.talk {wire es : List WireEvent} {o : Origin} {id : StreamId} (h : Serves wire o id) (hes : Talk id es) :
    Serves (wire ++ es) o id := h.append fun e he _ => (hes e he).2

theorem serves_plain {wire : List WireEvent} {o : Origin} {id : StreamId} {timeout : Value}
    (fresh : ∀ e ∈ wire, e.stream? ≠ some id) (scheme : o.scheme ≠ "https") :
    Serves (wire ++ [.connect o.host (.int o.port) timeout (.ok id)]) o id where
  connected := ⟨timeout, List.mem_append_right _ List.mem_cons_self⟩
  nowhereElse host port timeout' hm := by
    rcases List.mem_append.1 hm with hm | hm
    · exact absurd rfl (fresh _ hm)
    · cases List.mem_singleton.1 hm
      exact ⟨rfl, rfl⟩
  secured hs := absurd hs scheme
  plain host timeout' verify a hm := by
    rcases List.mem_append.1 hm with hm | hm
    · exact absurd rfl (fresh _ hm)
    · exact nomatch List.mem_singleton.1 hm

theorem serves_secured {wire : List WireEvent} {o : Origin} {id : StreamId} {timeout timeout' : Value} {verify : Bool}
    (fresh : ∀ e ∈ wire, e.stream? ≠ some id) (scheme : o.scheme = "https") :
    Serves (wire ++ [.connect o.host (.int o.port) timeout (.ok id)] ++ [.secure id o.host timeout' verify (.ok id)])
      o id where
  connected := ⟨timeout, List.mem_append_left _ (List.mem_append_right _ List.mem_cons_self)⟩
  nowhereElse host port t hm := by
    rcases List.mem_append.1 hm with hm | hm
    · rcases List.mem_append.1 hm with hm | hm
      · exact absurd rfl (fresh _ hm)
      · cases List.mem_singleton.1 hm
        exact ⟨rfl, rfl⟩
    · exact nomatch List.mem_singleton.1 hm
  secured _ := ⟨timeout', verify, List.mem_append_right _ List.mem_cons_self⟩
  plain host t v a hm := by
    rcases List.mem_append.1 hm with hm | hm
    · rcases List.mem_append.1 hm with hm | hm
      · exact absurd rfl (fresh _ hm)
      · exact nomatch List.mem_singleton.1 hm
    · cases List.mem_singleton.1 hm
      exact ⟨scheme, rfl, rfl⟩

/-- Every write of some calls goes to a stream that serves the origin at that moment, and of which `P` holds. -/
def Owned (wire : List WireEvent) (o : Origin) (P : StreamId → Prop) (es : List WireEvent) : Prop :=
  ∀ fs id p a rest, es = fs ++ .write id p a :: rest → Serves (wire ++ fs) o id ∧ P id

theorem Owned.append {wire es fs : List WireEvent} {o : Origin} {P : StreamId → Prop} (h : Owned wire o P es)
    (h' : Owned (wire ++ es) o P fs) : Owned wire o P (es ++ fs) := by
  intro gs id p a rest he
  rcases List.append_eq_append_iff.1 he with ⟨ms, hgs, hfs⟩ | ⟨ms, hes, hrest⟩
  · rw [hgs, ← List.append_assoc]
    exact h' ms id p a rest hfs
  · cases ms with
    | nil =>
      rw [List.append_nil] at hes
      subst hes
      have := h' [] id p a rest hrest.symm
      rwa [List.append_nil] at this
    | cons m ms =>
      simp only [List.cons_append, List.cons.injEq] at hrest
      obtain ⟨rfl, -⟩ := hrest
      exact h gs id p a ms hes

theorem Owned.of_unwritten {wire es : List WireEvent} {o : Origin} {P : StreamId → Prop}
    (h : ∀ id p a, .write id p a ∉ es) : Owned wire o P es := by
  intro fs id p a rest he
  refine absurd ?_ (h id p a)
  rw [he]
  exact List.mem_append_right _ List.mem_cons_self

theorem Owned.talk {wire es : List WireEvent} {o : Origin} {P : StreamId → Prop} {id : StreamId}
    (hs : Serves wire o id) (hes : Talk id es) (hP : P id) : Owned wire o P es := by
  intro fs id' p a rest he
  have hmem : .write id' p a ∈ es := by rw [he]; exact List.mem_append_right _ List.mem_cons_self
  obtain ⟨hid, -⟩ := hes _ hmem
  cases hid
  refine ⟨hs.talk fun e he' => hes e ?_, hP⟩
  rw [he]
  exact List.mem_append_left _ he'

/-! ## Calls without a message -/

/-- Calls that neither write nor read. -/
def Silent (es : List WireEvent) : Prop := ∀ e ∈ es, ∀ id, e.writeTo? id = none ∧ e.readFrom? id = none

theorem Silent.append {es fs : List WireEvent} (h : Silent es) (h' : Silent fs) : Silent (es ++ fs) := by
  intro e he
  rcases List.mem_append.1 he with he | he
  · exact h e he
  · exact h' e he

theorem Silent.write {es : List WireEvent} (h : Silent es) (id : StreamId) (p : Bytes) (a : Except Fault Unit) :
    .write id p a ∉ es := by
  intro hm
  have hw : (if id = id then some (p, a.isOk) else none) = none := (h _ hm id).1
  rw [if_pos rfl] at hw
  cases hw

theorem Silent.writesTo {es : List WireEvent} (h : Silent es) (id : StreamId) : WireEvent.writesTo id es = [] :=
  List.filterMap_eq_nil_iff.2 fun e he => (h e he id).1

theorem Silent.readsFrom {es : List WireEvent} (h : Silent es) (id : StreamId) : WireEvent.readsFrom id es = [] :=
  List.filterMap_eq_nil_iff.2 fun e he => (h e he id).2

theorem Silent.unread {es : List WireEvent} (h : Silent es) (i : StreamId) (n : Nat) (x : Except Fault Bytes) :
    .read i n x ∉ es := by
  intro hm
  have hr : (if i = i then some x else none) = none := (h _ hm i).2
  rw [if_pos rfl] at hr
  cases hr

theorem silent_nil : Silent [] := fun _ h => nomatch h

theorem silent_closes {es : List WireEvent} (h : ∀ e ∈ es, ∃ id, e = .close id) : Silent es := by
  intro e he
  obtain ⟨id, rfl⟩ := h e he
  exact fun _ => ⟨rfl, rfl⟩

theorem silent_connect (host : String) (port timeout : Value) (a : Except Fault StreamId) :
    Silent [.connect host port timeout a] := by
  intro e he
  cases List.mem_singleton.1 he
  exact fun _ => ⟨rfl, rfl⟩

theorem silent_secure (id : StreamId) (host : String) (timeout : Value) (verify : Bool) (a : Except Fault StreamId) :
    Silent [.secure id host timeout verify a] := by
  intro e he
  cases List.mem_singleton.1 he
  exact fun _ => ⟨rfl, rfl⟩

theorem silent_close (id : StreamId) : Silent [.close id] := by
  intro e he
  cases List.mem_singleton.1 he
  exact fun _ => ⟨rfl, rfl⟩

theorem closing_quiet {id : StreamId} {es : List WireEvent} (h : es = [] ∨ es = [.close id]) :
    Talk id es ∧ Silent es := by
  rcases h with rfl | rfl
  · exact ⟨talk_nil id, fun _ h => nomatch h⟩
  · exact ⟨talk_close id, silent_close id⟩

/-! ## The end of a stream -/

/-- Whether the server has ended its side of a stream, as far as it was read. -/
def EndRead (id : StreamId) (wire : List WireEvent) : Prop := ∃ n, .read id n (.ok []) ∈ wire

theorem endRead_append {id : StreamId} {wire es : List WireEvent} (h : ∀ n, .read id n (.ok []) ∉ es) :
    EndRead id (wire ++ es) ↔ EndRead id wire := by
  constructor
  · rintro ⟨n, hn⟩
    rcases List.mem_append.1 hn with hn | hn
    · exact ⟨n, hn⟩
    · exact absurd hn (h n)
  · rintro ⟨n, hn⟩
    exact ⟨n, List.mem_append_left _ hn⟩

theorem reads_not_end {id : StreamId} {n : Nat} {ps : List Bytes} (h : [] ∉ ps) (m : Nat) :
    .read id m (.ok []) ∉ WireEvent.reads id n ps := by
  intro hm
  obtain ⟨p, hp, he⟩ := WireEvent.mem_reads hm
  cases he
  exact h hp

end Transport
