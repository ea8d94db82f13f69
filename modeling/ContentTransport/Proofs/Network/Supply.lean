import ContentTransport.Proofs.Network.Delivery
/-!
# Supply — what a new stream gives, up to its end or its fault

The first request on a new stream takes the next reply of the script, whatever that is.  Reads then give its bytes in
their order, in pieces that depend on how much is asked for and on the limit of the reply, and after them the fault of the
reply, or the end of the stream (`Reads.supplied`).
-/
namespace Transport
namespace ScriptedNetwork

/-- The bytes of the next reply, none if there is no reply. -/
def nextData (w : ScriptedNetwork) : Bytes := (w.replies.head?.map (·.data)).getD []

/-- The fault that follows the next reply, if one does. -/
def nextFault (w : ScriptedNetwork) : Option NetworkFault := w.replies.head?.bind (·.fault)

/-- The next reply, if there is one, is read forwards. -/
def ReadsOn (w : ScriptedNetwork) : Prop := ∀ r ∈ w.replies.head?, ∀ l ∈ r.limit, 0 ≤ l

/-- A stream that nothing has been read from. -/
def Blank (id : StreamId) (w : ScriptedNetwork) : Prop :=
  ∃ s, w.stream? id = some s ∧ s.closed = false ∧ s.sourced = true ∧ s.tape.isSpent = true

/-- What a stream has left to give, and the fault that follows. -/
structure Left (data : Bytes) (fault : Option NetworkFault) (s : ScriptedStream) : Prop where
  opened : s.closed = false
  awaiting : s.awaiting = false
  place : 0 ≤ s.tape.place
  ahead : s.tape.ahead = data
  fault : s.reply.bind (·.fault) = fault
  forward : s.isBackward = false

/-- A stream gives some bytes, and then a fault or its end: it has them left, or takes them with the next reply. -/
def Supplies (id : StreamId) (data : Bytes) (fault : Option NetworkFault) (w : ScriptedNetwork) : Prop :=
  ∃ s, w.stream? id = some s ∧ s.closed = false ∧ Left data fault (refill s w.replies).1

theorem Supplies.isOpen {id : StreamId} {data : Bytes} {fault : Option NetworkFault} {w : ScriptedNetwork}
    (h : Supplies id data fault w) : isOpen id w = true := by
  obtain ⟨s, hget, hclosed, -⟩ := h
  simp [ScriptedNetwork.isOpen, hget, hclosed]

/-! ## A new stream -/

theorem Blank.isOpen {id : StreamId} {w : ScriptedNetwork} (h : Blank id w) : isOpen id w = true := by
  obtain ⟨s, hget, hclosed, -⟩ := h
  simp [ScriptedNetwork.isOpen, hget, hclosed]

theorem blank_connect {host : String} {port timeout : Value} {w w' : ScriptedNetwork} {id : StreamId}
    (h : connect host port timeout w = (.ok id, w')) : Blank id w' ∧ w'.replies = w.replies := by
  unfold ScriptedNetwork.connect at h
  dsimp only at h
  split at h
  · cases h
  · cases h
    exact ⟨⟨openedTo host port, by simp [stream?, add], rfl, rfl, rfl⟩, rfl⟩

theorem Blank.secure {id id' : StreamId} {host : String} {w w' : ScriptedNetwork} (h : Blank id w)
    (hs : secure id host w = (.ok id', w')) : id' = id ∧ Blank id w' ∧ w'.replies = w.replies := by
  obtain ⟨s, hget, hclosed, hsourced, hspent⟩ := h
  unfold ScriptedNetwork.secure at hs
  split at hs
  · cases hs
  · simp only [modify, hget] at hs
    cases hs
    exact ⟨rfl, ⟨_, stream?_put hget, hclosed, hsourced, hspent⟩, rfl⟩

theorem left_refill {s : ScriptedStream} {w : ScriptedNetwork} (hsourced : s.sourced = true) (hclosed : s.closed = false)
    (hspent : s.tape.isSpent = true) (hasked : s.awaiting = true) (hw : w.ReadsOn) :
    Left w.nextData w.nextFault (refill s w.replies).1 := by
  unfold ReadsOn at hw
  unfold nextData nextFault
  simp only [refill, hspent, hsourced, hasked, Bool.and_self, if_true]
  cases hr : w.replies with
  | nil =>
    obtain ⟨hplace, hahead⟩ : 0 ≤ s.tape.place ∧ s.tape.ahead = [] := by simpa [Tape.isSpent] using hspent
    exact ⟨hclosed, rfl, hplace, hahead, rfl, rfl⟩
  | cons r rs =>
    refine ⟨hclosed, rfl, Int.le_refl 0, rfl, rfl, ?_⟩
    have hlimit : ∀ l ∈ r.limit, 0 ≤ l := hw r (by rw [hr]; rfl)
    simp only [ScriptedStream.isBackward, ScriptedStream.limit?, Option.bind_some]
    cases hl : r.limit with
    | none => rfl
    | some l =>
      have hle := hlimit l hl
      by_cases h0 : l = 0
      · simp [h0]
      · simp [Option.filter_some, h0, hle]

theorem Blank.write {id : StreamId} {p : Bytes} {w w' : ScriptedNetwork} (h : Blank id w) (hw : w.ReadsOn)
    (hr : write id p w = (.ok (), w')) :
    Blank id w' ∧ w'.replies = w.replies ∧ Supplies id w.nextData w.nextFault w' := by
  obtain ⟨s, hget, hclosed, hsourced, hspent⟩ := h
  have hsame : (nextWriteFault s w).2.replies = w.replies := by
    unfold nextWriteFault
    split <;> rfl
  have hget' := stream?_nextWriteFault s id w
  unfold ScriptedNetwork.write at hr
  simp only [hget] at hr
  generalize nextWriteFault s w = q at hr hsame hget'
  obtain ⟨f, v⟩ := q
  cases f with
  | some f => cases hr
  | none =>
    dsimp only at hr hsame hget'
    rw [if_neg (by simp [hclosed])] at hr
    cases hr
    have hput := stream?_put (t := { s with pieces := p :: s.pieces, awaiting := true }) (hget'.trans hget)
    have hreplies : (put id { s with pieces := p :: s.pieces, awaiting := true } v).replies = w.replies := hsame
    refine ⟨⟨_, hput, hclosed, hsourced, hspent⟩, hreplies, _, hput, hclosed, ?_⟩
    rw [hreplies]
    exact left_refill (s := { s with pieces := p :: s.pieces, awaiting := true }) hsourced hclosed hspent rfl hw

theorem Blank.after_writes {id : StreamId} {w w' : ScriptedNetwork} {ps : List Bytes} (h : Blank id w)
    (hw : w.ReadsOn) (path : Writes id w ps w') (hne : ps ≠ []) : Supplies id w.nextData w.nextFault w' := by
  induction path with
  | nil => exact absurd rfl hne
  | @cons w w1 w2 p ps hp t ih =>
    obtain ⟨hblank, hreplies, hsupplies⟩ := h.write hw hp
    cases t with
    | nil => exact hsupplies
    | cons hp' t' =>
      have hnext := ih hblank (by unfold ReadsOn; rwa [hreplies]) (List.cons_ne_nil _ _)
      unfold nextData nextFault at hnext ⊢
      rwa [hreplies] at hnext

/-! ## A network that takes the request -/

/-- No write to come is to fail. -/
def Unfaulted (w : ScriptedNetwork) : Prop := ∀ f ∈ w.writeFaults, f = none

section

variable {w w' : ScriptedNetwork} {id : StreamId}

theorem Unfaulted.same (h : Unfaulted w) (same : w'.writeFaults = w.writeFaults) : Unfaulted w' := by
  unfold Unfaulted
  rwa [same]

theorem Unfaulted.modify (h : Unfaulted w) (f : ScriptedStream → ScriptedStream) : Unfaulted (w.modify id f) := by
  unfold ScriptedNetwork.modify
  split
  · exact h.same rfl
  · exact h

theorem Unfaulted.connect {host : String} {port timeout : Value} {a : Except Fault StreamId} (h : Unfaulted w)
    (hc : connect host port timeout w = (a, w')) : Unfaulted w' := by
  unfold ScriptedNetwork.connect at hc
  dsimp only at hc
  split at hc
  · cases hc
    exact h.same rfl
  · cases hc
    exact h.same rfl

theorem Unfaulted.secure {host : String} {a : Except Fault StreamId} (h : Unfaulted w)
    (hs : secure id host w = (a, w')) : Unfaulted w' := by
  unfold ScriptedNetwork.secure at hs
  split at hs
  · cases hs
    exact h.same rfl
  · cases hs
    exact h.modify _

theorem Unfaulted.read {n : Int} {a : Except Fault Bytes} (h : Unfaulted w) (hr : read id n w = (a, w')) :
    Unfaulted w' := by
  unfold ScriptedNetwork.read at hr
  split at hr
  · cases hr
    exact h
  · split at hr
    · cases hr
      exact h
    · dsimp only at hr
      split at hr
      · split at hr
        · cases hr
          exact h.same rfl
        · cases hr
          exact h.same rfl
      · cases hr
        exact h.same rfl

/-- A write fails only because the script says so, or because the stream is closed. -/
theorem Unfaulted.write {p : Bytes} {a : Except Fault Unit} (h : Unfaulted w) (hw : write id p w = (a, w')) :
    Unfaulted w' ∧ (isOpen id w = true → a = .ok ()) := by
  unfold ScriptedNetwork.write at hw
  cases hget : w.stream? id with
  | none =>
    rw [hget] at hw
    cases hw
    exact ⟨h, fun _ => rfl⟩
  | some s =>
    obtain ⟨hnone, hrest, -⟩ := nextWriteFault_none (s := s) h
    simp only [hget] at hw
    generalize ScriptedNetwork.nextWriteFault s w = q at hw hnone hrest
    obtain ⟨f, v⟩ := q
    dsimp only at hnone hrest
    subst hnone
    dsimp only at hw
    split at hw
    · rename_i hclosed
      cases hw
      refine ⟨hrest, fun hopen => ?_⟩
      simp [isOpen, hget, hclosed] at hopen
    · cases hw
      exact ⟨hrest, fun _ => rfl⟩

theorem Unfaulted.writes {ps : List Bytes} (h : Unfaulted w) (path : Writes id w ps w') : Unfaulted w' := by
  induction path with
  | nil => exact h
  | cons hp _ ih => exact ih (h.write hp).1

theorem Unfaulted.reads {n : Nat} {ps : List Bytes} (h : Unfaulted w) (path : Reads id n w ps w') : Unfaulted w' := by
  induction path with
  | nil => exact h
  | cons hr _ ih => exact ih (h.read hr)

/-- On an open stream, the writes of a request do not come to fail. -/
theorem Unfaulted.unsent {done : List Bytes} {p : Bytes} {f : Fault} {mid : ScriptedNetwork} (h : Unfaulted w)
    (opened : isOpen id w = true) (path : Writes id w done mid)
    (last : ScriptedNetwork.write id p mid = (.error f, w')) : False := by
  have hok := ((h.writes path).write last).2 (path.alike.isOpen id ▸ opened)
  cases hok

end

/-- The network opens the next stream, with TLS if that is asked for, and takes what is written to it. -/
structure Willing (tls : Bool) (w : ScriptedNetwork) : Prop where
  connects : w.connectFaults = []
  secures : tls = true → w.tlsFaults = []
  writes : Unfaulted w

/-- A willing network, with the reply that comes next: its bytes, and the fault that follows them if not the end of the
stream does. -/
structure Offers (tls : Bool) (data : Bytes) (fault : Option NetworkFault) (w : ScriptedNetwork) : Prop
    extends Willing tls w where
  reply : ∃ limit, w.replies.head? = some ⟨data, limit, fault⟩ ∧ ∀ l ∈ limit, 0 ≤ l

section

variable {tls : Bool} {w w' : ScriptedNetwork}

theorem Offers.next {data : Bytes} {fault : Option NetworkFault} (h : Offers tls data fault w) :
    w.ReadsOn ∧ w.nextData = data ∧ w.nextFault = fault := by
  obtain ⟨limit, hhead, hforward⟩ := h.reply
  refine ⟨fun r hr => ?_, ?_, ?_⟩
  · rw [hhead] at hr
    cases hr
    exact hforward
  · simp [nextData, hhead]
  · simp [nextFault, hhead]

theorem Willing.close (h : Willing tls w) (id : StreamId) : Willing tls (close id w) := by
  unfold ScriptedNetwork.close modify
  split
  · exact ⟨h.connects, h.secures, h.writes⟩
  · exact h

theorem Willing.connect {host : String} {port timeout : Value} {a : Except Fault StreamId} (h : Willing tls w)
    (hc : connect host port timeout w = (a, w')) : (∃ id, a = .ok id) ∧ Willing tls w' := by
  unfold ScriptedNetwork.connect at hc
  simp only [h.connects] at hc
  cases hc
  exact ⟨⟨_, rfl⟩, rfl, h.secures, h.writes⟩

theorem Willing.secure {id : StreamId} {host : String} {a : Except Fault StreamId} (h : Willing true w)
    (hs : secure id host w = (a, w')) : (∃ id, a = .ok id) ∧ Willing true w' := by
  unfold ScriptedNetwork.secure modify at hs
  simp only [h.secures rfl] at hs
  split at hs
  · cases hs
    exact ⟨⟨_, rfl⟩, h.connects, h.secures, h.writes⟩
  · cases hs
    exact ⟨⟨_, rfl⟩, h⟩

end

/-! ## Reads -/

theorem Left.most_pos {data : Bytes} {fault : Option NetworkFault} {s : ScriptedStream} (h : Left data fault s) {n : Nat}
    (hn : 0 < n) : 1 ≤ s.most n := by
  have hforward := h.forward
  unfold ScriptedStream.isBackward at hforward
  unfold ScriptedStream.most
  cases hl : s.limit? with
  | none =>
    dsimp only
    omega
  | some l =>
    rw [hl] at hforward
    have hle : ¬l < 0 := by simpa using hforward
    have hne : l ≠ 0 := by
      unfold ScriptedStream.limit? at hl
      have hf := (Option.filter_eq_some_iff.1 hl).2
      simpa using hf
    dsimp only
    omega

theorem Left.refill {data : Bytes} {fault : Option NetworkFault} {s : ScriptedStream} (h : Left data fault s)
    (replies : List Reply) : ScriptedNetwork.refill s replies = (s, replies) := by
  unfold ScriptedNetwork.refill
  simp [h.awaiting]

/-- What a read of a stream that has something left may answer. -/
inductive Given (id : StreamId) (fault : Option NetworkFault) (w' : ScriptedNetwork) : Bytes → Except Fault Bytes → Prop
  | ended (h : fault = none) : Given id fault w' [] (.ok [])
  | broken {f : NetworkFault} (h : fault = some f) : Given id fault w' [] (.error (.network f))
  | piece {p rest : Bytes} (some : p ≠ []) (more : Supplies id rest fault w') : Given id fault w' (p ++ rest) (.ok p)

theorem Supplies.read {id : StreamId} {data : Bytes} {fault : Option NetworkFault} {n : Nat} {w w' : ScriptedNetwork}
    {a : Except Fault Bytes} (h : Supplies id data fault w) (hn : 0 < n) (hr : read id n w = (a, w')) :
    Given id fault w' data a := by
  obtain ⟨s, hget, hclosed, hleft⟩ := h
  unfold ScriptedNetwork.read at hr
  simp only [hget, hclosed, Bool.false_eq_true, if_false] at hr
  generalize ScriptedNetwork.refill s w.replies = q at hr hleft
  obtain ⟨t, replies⟩ := q
  dsimp only at hr hleft
  have hmost := hleft.most_pos hn
  obtain ⟨htclosed, hawaiting, hplace, hahead, hfault, hforward⟩ := hleft
  by_cases hdata : data = []
  · have hspent : t.tape.isSpent = true := by simp [Tape.isSpent, hplace, hahead, hdata]
    rw [if_pos hspent, hfault] at hr
    subst hdata
    cases fault with
    | some f =>
      cases hr
      exact .broken rfl
    | none =>
      cases hr
      exact .ended rfl
  · have hspent : ¬t.tape.isSpent = true := by simp [Tape.isSpent, hplace, hahead, hdata]
    rw [if_neg hspent] at hr
    obtain ⟨k, hk⟩ : ∃ k, (t.most n).toNat = k + 1 := ⟨(t.most n).toNat - 1, by omega⟩
    unfold Tape.read at hr
    rw [dif_pos ⟨hplace, by omega⟩] at hr
    cases hr
    have hsplit : data = t.tape.ahead.take (t.most n).toNat ++ t.tape.ahead.drop (t.most n).toNat := by
      rw [List.take_append_drop, hahead]
    rw [hsplit]
    refine .piece ?_ ⟨_, stream?_put (w := { w with replies := replies }) hget, htclosed, ?_⟩
    · rw [hahead, hk]
      cases data with
      | nil => exact absurd rfl hdata
      | cons b data => exact List.cons_ne_nil _ _
    · have hrest : Left (t.tape.ahead.drop (t.most n).toNat) fault
          { t with tape := (t.tape.readOn (t.most n).toNat hplace).2 } :=
        ⟨htclosed, hawaiting, by simp only [Tape.readOn]; omega, rfl, hfault, hforward⟩
      exact (hrest.refill _).symm ▸ hrest

end ScriptedNetwork

open ScriptedNetwork

/-- **Reads give what a stream supplies, from the front.** -/
theorem Reads.supplied {id : StreamId} {data : Bytes} {fault : Option NetworkFault} {n : Nat} {w w' : ScriptedNetwork}
    {ps : List Bytes} (h : Reads id n w ps w') (hn : 0 < n) (hs : Supplies id data fault w) :
    ∃ rest, data = ps.flatten ++ rest ∧ Supplies id rest fault w' := by
  induction h generalizing data with
  | nil => exact ⟨data, rfl, hs⟩
  | @cons w w1 w2 b bs ps hr t ih =>
    cases hs.read hn hr with
    | @piece p rest hne more =>
      obtain ⟨rest', rfl, hs'⟩ := ih more
      exact ⟨rest', by simp, hs'⟩

end Transport
