import ContentTransport.Network.ScriptedSystem
import ContentTransport.Network.Sockets
/-!
# Addresses — a host is reached at the first of its addresses that accepts

A search takes the addresses of a host in the order of the resolver.  An address that refuses a connection costs a
socket, which is closed before the next address has its turn; the first address that accepts ends the search, and those
behind it are not tried.  An address for which no socket can be made, or none that can be set up, is not passed over: it
ends the search as well, and the host is given up although an address behind it may accept.  A socket that cannot be set
up is left open besides.

What a search does is read off a record of the sockets that are made, connected and closed meanwhile.
-/
namespace Transport

/-! ## A record of sockets -/

inductive SocketEvent
  | made (family : Family) (answer : Except Fault SocketId)
  /-- A socket could not be set up. -/
  | unfit (id : SocketId) (f : Fault)
  | asked (id : SocketId) (a : Address) (answer : Except Fault Unit)
  | closed (id : SocketId)

/-- The sockets that are open after an event, the latest first. -/
def SocketEvent.held (now : List SocketId) : SocketEvent → List SocketId
  | made _ (.ok id) => id :: now
  | made _ (.error _) => now
  | unfit _ _ => now
  | asked _ _ _ => now
  | closed id => now.erase id

/-- Of the sockets that `events` made, those that are still open after them. -/
def SocketEvent.leftOpen (events : List SocketEvent) : List SocketId := events.foldl held []

/-- What a step that sets a socket up adds to a record. -/
def SocketEvent.ofSetUp (id : SocketId) : Except Fault Unit → List SocketEvent
  | .ok () => []
  | .error f => [.unfit id f]

/-- A system with a record of what its sockets went through, in order. -/
structure Logged (σ : Type) where
  system : σ
  events : List SocketEvent := []

namespace Logged

variable {σ : Type} [System σ]

/-- The same answer, with no more written down. -/
def lift {α : Type} (w : Logged σ) (r : α × σ) : α × Logged σ := (r.1, { w with system := r.2 })

/-- The same answer, and an event that tells it. -/
def note {α : Type} (w : Logged σ) (r : α × σ) (e : α → SocketEvent) : α × Logged σ :=
  (r.1, { system := r.2, events := w.events ++ [e r.1] })

/-- The same answer to a step that sets a socket up, and an event if it is a fault. -/
def noteFault (w : Logged σ) (id : SocketId) (r : Except Fault Unit × σ) : Except Fault Unit × Logged σ :=
  (r.1, { system := r.2, events := w.events ++ SocketEvent.ofSetUp id r.1 })

instance : System (Logged σ) where
  resolve host port w := w.lift (System.resolve host port w.system)
  create family protocol w := w.note (System.create family protocol w.system) (.made family)
  setOption id o w := w.noteFault id (System.setOption id o w.system)
  setTimeout id t w := w.noteFault id (System.setTimeout id t w.system)
  connect id a w := w.note (System.connect id a w.system) (.asked id a)
  recv id n w := w.lift (System.recv id n w.system)
  send id data w := w.lift (System.send id data w.system)
  close id w := { system := System.close id w.system, events := w.events ++ [.closed id] }
  offer protocols w := { w with system := System.offer protocols w.system }
  wrap id terms w := w.lift (System.wrap id terms w.system)
  isTls id w := System.isTls id w.system
  peerName id w := System.peerName id w.system
  ownName id w := System.ownName id w.system
  readable id w := System.readable id w.system
  recv_shrinks h := by
    simp only [lift, Prod.mk.injEq] at h
    obtain ⟨ha, rfl⟩ := h
    exact System.recv_shrinks (Prod.ext ha rfl)

@[simp] theorem close_system (id : SocketId) (w : Logged σ) :
    (System.close id w).system = System.close id w.system := rfl

@[simp] theorem close_events (id : SocketId) (w : Logged σ) :
    (System.close id w).events = w.events ++ [.closed id] := rfl

theorem resolve_eq {host : String} {port : Nat} {w : Logged σ} {s : σ} {a : Except Fault (List Address)}
    (h : System.resolve host port w.system = (a, s)) :
    System.resolve host port w = (a, { w with system := s }) := by
  change w.lift (System.resolve host port w.system) = _
  rw [h]
  rfl

theorem create_eq {family : Family} {protocol : Nat} {w w' : Logged σ} {answer : Except Fault SocketId}
    (h : System.create family protocol w = (answer, w')) :
    System.create family protocol w.system = (answer, w'.system) ∧ w'.events = w.events ++ [.made family answer] := by
  cases h
  exact ⟨rfl, rfl⟩

theorem connect_eq {id : SocketId} {a : Address} {w w' : Logged σ} {answer : Except Fault Unit}
    (h : System.connect id a w = (answer, w')) :
    System.connect id a w.system = (answer, w'.system) ∧ w'.events = w.events ++ [.asked id a answer] := by
  cases h
  exact ⟨rfl, rfl⟩

theorem setOption_eq {id : SocketId} {o : SocketOption} {w w' : Logged σ} {answer : Except Fault Unit}
    (h : System.setOption id o w = (answer, w')) :
    System.setOption id o w.system = (answer, w'.system) ∧ w'.events = w.events ++ SocketEvent.ofSetUp id answer := by
  cases h
  exact ⟨rfl, rfl⟩

theorem setTimeout_eq {id : SocketId} {timeout : Value} {w w' : Logged σ} {answer : Except Fault Unit}
    (h : System.setTimeout id timeout w = (answer, w')) :
    System.setTimeout id timeout w.system = (answer, w'.system)
      ∧ w'.events = w.events ++ SocketEvent.ofSetUp id answer := by
  cases h
  exact ⟨rfl, rfl⟩

theorem setUp_eq {id : SocketId} {timeout : Value} {w w' : Logged σ} {answer : Except Fault Unit}
    (h : Sockets.setUp id timeout w = (answer, w')) :
    Sockets.setUp id timeout w.system = (answer, w'.system)
      ∧ w'.events = w.events ++ SocketEvent.ofSetUp id answer := by
  obtain ⟨delay, w₁, hdelay⟩ : ∃ delay w₁, System.setOption id .noDelay w = (delay, w₁) := ⟨_, _, rfl⟩
  obtain ⟨hdelay', hevents⟩ := setOption_eq hdelay
  unfold Sockets.setUp at h ⊢
  rw [hdelay] at h
  rw [hdelay']
  cases delay with
  | error f =>
    cases h
    exact ⟨rfl, hevents⟩
  | ok u =>
    obtain ⟨alive, w₂, halive⟩ : ∃ alive w₂, System.setOption id .keepAlive w₁ = (alive, w₂) := ⟨_, _, rfl⟩
    obtain ⟨halive', hevents'⟩ := setOption_eq halive
    rw [hevents, SocketEvent.ofSetUp, List.append_nil] at hevents'
    dsimp only at h ⊢
    rw [halive] at h
    rw [halive']
    cases alive with
    | error f =>
      cases h
      exact ⟨rfl, hevents'⟩
    | ok u =>
      obtain ⟨htimeout, hevents''⟩ := setTimeout_eq h
      rw [hevents', SocketEvent.ofSetUp, List.append_nil] at hevents''
      exact ⟨htimeout, hevents''⟩

end Logged

/-- What comes of making a socket: it is made and set up, or it cannot be made, or it is made and cannot be set up. -/
inductive Outfitted (family : Family) : List SocketEvent → Except Fault SocketId → Prop
  | fit {id : SocketId} : Outfitted family [.made family (.ok id)] (.ok id)
  | unmade {f : Fault} : Outfitted family [.made family (.error f)] (.error f)
  | unfit {id : SocketId} {f : Fault} : Outfitted family [.made family (.ok id), .unfit id f] (.error f)

theorem Logged.newSocket_spec {σ : Type} [System σ] {family : Family} {timeout : Value} {w w' : Logged σ}
    {answer : Except Fault SocketId} (h : Sockets.newSocket family timeout w = (answer, w')) :
    Sockets.newSocket family timeout w.system = (answer, w'.system)
      ∧ ∃ events, w'.events = w.events ++ events ∧ Outfitted family events answer := by
  obtain ⟨made, w₁, hmade⟩ : ∃ made w₁, System.create family tcp w = (made, w₁) := ⟨_, _, rfl⟩
  obtain ⟨hplain, hevents⟩ := create_eq hmade
  unfold Sockets.newSocket at h ⊢
  rw [hmade] at h
  rw [hplain]
  cases made with
  | error f =>
    cases h
    exact ⟨rfl, _, hevents, .unmade⟩
  | ok id =>
    obtain ⟨fitted, w₂, hfitted⟩ : ∃ fitted w₂, Sockets.setUp id timeout w₁ = (fitted, w₂) := ⟨_, _, rfl⟩
    obtain ⟨hplain', hevents'⟩ := setUp_eq hfitted
    rw [hevents, List.append_assoc] at hevents'
    dsimp only at h ⊢
    rw [hfitted] at h
    rw [hplain']
    cases fitted with
    | error f =>
      cases h
      exact ⟨rfl, _, hevents', .unfit⟩
    | ok u =>
      cases h
      exact ⟨rfl, _, hevents', .fit⟩

/-! ## A search -/

/-- An address that refused a connection, the socket that was made for it, and its fault. -/
structure Refused where
  address : Address
  socket : SocketId
  fault : Fault

/-- What a search does about an address that refuses. -/
def Refused.events (r : Refused) : List SocketEvent :=
  [.made r.address.family (.ok r.socket), .asked r.socket r.address (.error r.fault), .closed r.socket]

/-- What a search through addresses does, how it ends, and which sockets it leaves open; `otherwise` is its fault if there
is no address at all. -/
inductive Sought (otherwise : Fault) (addresses : List Address) :
    List SocketEvent → Except Fault SocketId → List SocketId → Prop
  /-- An address accepts after the ones before it have refused; the ones behind it are not tried. -/
  | reached {passed : List Refused} {a : Address} {behind : List Address} {id : SocketId}
      (order : addresses = passed.map (·.address) ++ a :: behind) (passable : ∀ r ∈ passed, r.fault.isSystem = true) :
      Sought otherwise addresses
        (passed.flatMap Refused.events ++ [.made a.family (.ok id), .asked id a (.ok ())]) (.ok id) [id]
  /-- Every address refuses; the last one gives the fault. -/
  | exhausted {passed : List Refused}
      (order : addresses = passed.map (·.address)) (passable : ∀ r ∈ passed, r.fault.isSystem = true) :
      Sought otherwise addresses
        (passed.flatMap Refused.events) (.error ((passed.getLast?.map (·.fault)).getD otherwise)) []
  /-- No socket can be made for an address; the ones behind it are not tried. -/
  | unmade {passed : List Refused} {a : Address} {behind : List Address} {f : Fault}
      (order : addresses = passed.map (·.address) ++ a :: behind) (passable : ∀ r ∈ passed, r.fault.isSystem = true) :
      Sought otherwise addresses (passed.flatMap Refused.events ++ [.made a.family (.error f)]) (.error f) []
  /-- The socket that is made for an address cannot be set up, and is left open; the ones behind it are not tried. -/
  | unfit {passed : List Refused} {a : Address} {behind : List Address} {id : SocketId} {f : Fault}
      (order : addresses = passed.map (·.address) ++ a :: behind) (passable : ∀ r ∈ passed, r.fault.isSystem = true) :
      Sought otherwise addresses
        (passed.flatMap Refused.events ++ [.made a.family (.ok id), .unfit id f]) (.error f) [id]
  /-- A connection breaks off with a fault that is not the system's, which leaves its socket open. -/
  | broken {passed : List Refused} {a : Address} {behind : List Address} {id : SocketId} {f : Fault}
      (order : addresses = passed.map (·.address) ++ a :: behind) (passable : ∀ r ∈ passed, r.fault.isSystem = true)
      (foreign : f.isSystem = false) :
      Sought otherwise addresses
        (passed.flatMap Refused.events ++ [.made a.family (.ok id), .asked id a (.error f)]) (.error f) [id]

/-- A search that passes one more address first. -/
theorem Sought.after {r : Refused} {otherwise : Fault} {rest : List Address} {events : List SocketEvent}
    {ending : Except Fault SocketId} {left : List SocketId} (hr : r.fault.isSystem = true)
    (h : Sought r.fault rest events ending left) :
    Sought otherwise (r.address :: rest) (r.events ++ events) ending left := by
  have passable {passed : List Refused} (hp : ∀ q ∈ passed, q.fault.isSystem = true) :
      ∀ q ∈ r :: passed, q.fault.isSystem = true := List.forall_mem_cons.2 ⟨hr, hp⟩
  cases h with
  | @reached passed a behind id order hp =>
    rw [← List.append_assoc, ← List.flatMap_cons]
    exact .reached (by rw [order]; rfl) (passable hp)
  | @exhausted passed order hp =>
    have hlast : (passed.getLast?.map (·.fault)).getD r.fault
        = ((r :: passed).getLast?.map (·.fault)).getD otherwise := by
      rw [List.getLast?_cons]
      cases passed.getLast? <;> rfl
    rw [← List.flatMap_cons, hlast]
    exact .exhausted (by rw [order]; rfl) (passable hp)
  | @unmade passed a behind f order hp =>
    rw [← List.append_assoc, ← List.flatMap_cons]
    exact .unmade (by rw [order]; rfl) (passable hp)
  | @unfit passed a behind id f order hp =>
    rw [← List.append_assoc, ← List.flatMap_cons]
    exact .unfit (by rw [order]; rfl) (passable hp)
  | @broken passed a behind id f order hp foreign =>
    rw [← List.append_assoc, ← List.flatMap_cons]
    exact .broken (by rw [order]; rfl) (passable hp) foreign

theorem passable_nil : ∀ r ∈ ([] : List Refused), r.fault.isSystem = true := List.forall_mem_nil _

/-- An address for which no socket is made and set up ends a search at once. -/
theorem Sought.of_outfitted {a : Address} {events : List SocketEvent} {f : Fault}
    (h : Outfitted a.family events (.error f)) (otherwise : Fault) (behind : List Address) :
    ∃ left, Sought otherwise (a :: behind) events (.error f) left := by
  cases h with
  | unmade => exact ⟨[], .unmade rfl passable_nil⟩
  | @unfit id => exact ⟨[id], .unfit rfl passable_nil⟩

/-- **A search keeps to the order of the addresses**, and a record of it changes nothing. -/
theorem Sockets.connectFirst_spec {σ : Type} [System σ] (timeout : Value) (addresses : List Address) :
    ∀ (otherwise : Fault) (w : Logged σ), ∃ events ending left w',
      connectFirst timeout otherwise addresses w = (ending, w') ∧
      connectFirst timeout otherwise addresses w.system = (ending, w'.system) ∧
      w'.events = w.events ++ events ∧ Sought otherwise addresses events ending left := by
  induction addresses with
  | nil =>
    intro otherwise w
    exact ⟨[], .error otherwise, [], w, rfl, rfl, (List.append_nil _).symm, .exhausted rfl passable_nil⟩
  | cons a rest ih =>
    intro otherwise w
    obtain ⟨made, w₁, hmade⟩ : ∃ made w₁, newSocket a.family timeout w = (made, w₁) := ⟨_, _, rfl⟩
    obtain ⟨hplain, events₁, hevents, houtfitted⟩ := Logged.newSocket_spec hmade
    cases made with
    | error f =>
      obtain ⟨left, hsought⟩ := Sought.of_outfitted houtfitted otherwise rest
      refine ⟨_, .error f, left, w₁, ?_, ?_, hevents, hsought⟩
      · simp only [connectFirst, hmade]
      · simp only [connectFirst, hplain]
    | ok id =>
      obtain ⟨asked, w₂, hasked⟩ : ∃ asked w₂, System.connect id a w₁ = (asked, w₂) := ⟨_, _, rfl⟩
      obtain ⟨hplain', hevents'⟩ := Logged.connect_eq hasked
      cases houtfitted
      rw [hevents, List.append_assoc] at hevents'
      cases asked with
      | ok u =>
        refine ⟨_, .ok id, [id], w₂, ?_, ?_, hevents', .reached rfl passable_nil⟩
        · simp only [connectFirst, hmade, hasked]
        · simp only [connectFirst, hplain, hplain']
      | error f =>
        cases hf : f.isSystem with
        | false =>
          refine ⟨_, .error f, [id], w₂, ?_, ?_, hevents', .broken rfl passable_nil hf⟩
          · simp [connectFirst, hmade, hasked, hf]
          · simp [connectFirst, hplain, hplain', hf]
        | true =>
          -- the search goes on with the fault of this address in the place of `otherwise`
          obtain ⟨events, ending, left, w₃, hrun, hrun', hrest, hsought⟩ := ih f (System.close id w₂)
          refine ⟨Refused.events ⟨a, id, f⟩ ++ events, ending, left, w₃, ?_, ?_, ?_,
            Sought.after (r := ⟨a, id, f⟩) hf hsought⟩
          · simpa [connectFirst, hmade, hasked, hf] using hrun
          · simpa [connectFirst, hplain, hplain', hf] using hrun'
          · rw [hrest, Logged.close_events, hevents']
            simp [Refused.events]

/-! ## The sockets that a search leaves open -/

/-- An address that is passed over leaves the open sockets as they were. -/
theorem Refused.held_events (r : Refused) (now : List SocketId) : r.events.foldl SocketEvent.held now = now := by
  change (r.socket :: now).erase r.socket = now
  exact List.erase_cons_head _ _

theorem Refused.held_all (passed : List Refused) (now : List SocketId) :
    (passed.flatMap Refused.events).foldl SocketEvent.held now = now := by
  induction passed with
  | nil => rfl
  | cons r passed ih => rw [List.flatMap_cons, List.foldl_append, r.held_events, ih]

/-- **The sockets that a search leaves open** are those that a record of it shows open. -/
theorem Sought.leftOpen {otherwise : Fault} {addresses : List Address} {events : List SocketEvent}
    {ending : Except Fault SocketId} {left : List SocketId} (h : Sought otherwise addresses events ending left) :
    SocketEvent.leftOpen events = left := by
  have hpassed (passed : List Refused) (last : List SocketEvent) :
      SocketEvent.leftOpen (passed.flatMap Refused.events ++ last) = SocketEvent.leftOpen last := by
    rw [SocketEvent.leftOpen, List.foldl_append, Refused.held_all]
    rfl
  cases h with
  | exhausted => exact Refused.held_all _ _
  | _ => exact hpassed _ _

/-! ## A stream to a host -/

namespace Sockets

variable {σ : Type} [System σ]

/-- The same streams, with a record of what their sockets go through from now on. -/
def logged (w : Sockets σ) : Sockets (Logged σ) := { system := { system := w.system }, streams := w.streams }

/-- The streams without the record. -/
def unlogged (w : Sockets (Logged σ)) : Sockets σ := { system := w.system.system, streams := w.streams }

/-- **A stream is opened to the first address that accepts**, in the order of the resolver, and to none behind an
address for which no socket can be made and set up: that fault is the answer, as is the fault of the last address if
every one refuses.  A new stream has the one socket that is left open; with no new stream none is, unless a socket could
not be set up, or a fault that is not the system's broke the search off. -/
theorem connect_searches {host : String} {port timeout : Value} {p : Nat} {w : Sockets σ} {addresses : List Address}
    {s : σ} (valid : Port.validate port = .ok p) (resolved : System.resolve host p w.system = (.ok addresses, s)) :
    ∃ ending w', connect host port timeout w.logged = (ending.map fun _ => w.streams.length, w') ∧
      connect host port timeout w = (ending.map fun _ => w.streams.length, w'.unlogged) ∧
      Sought (.noAddress host p) addresses w'.system.events ending (SocketEvent.leftOpen w'.system.events) ∧
      w'.streams = w.streams ++ ending.toOption.toList.map fun id => { socket := some id } := by
  obtain ⟨events, ending, left, after, hlogged, hplain, hevents, hsought⟩ :=
    connectFirst_spec timeout addresses (.noAddress host p) { system := s }
  obtain rfl : after.events = events := hevents
  obtain rfl := hsought.leftOpen
  have hresolved : System.resolve host p w.logged.system = (.ok addresses, { system := s }) :=
    Logged.resolve_eq resolved
  cases ending with
  | ok id =>
    refine ⟨.ok id, { system := after, streams := w.streams ++ [{ socket := some id }] }, ?_, ?_,
      hsought, rfl⟩
    · simp only [connect, valid, hresolved, hlogged]
      rfl
    · simp only [connect, valid, resolved, hplain]
      rfl
  | error f =>
    refine ⟨.error f, { system := after, streams := w.streams }, ?_, ?_,
      hsought, (List.append_nil _).symm⟩
    · simp only [connect, valid, hresolved, hlogged]
      rfl
    · simp only [connect, valid, resolved, hplain]
      rfl

/-- A host with two addresses, of which the first refuses. -/
def secondAccepts : Sockets ScriptedSystem :=
  { system := { answers := [.ok [{ host := "10.0.0.1", script := { refusal := some { kind := .refused } } },
                                 { host := "10.0.0.2" }]] } }

theorem connect_searches_second :
    ∃ s, Port.validate (.int 80) = .ok 80 ∧
      System.resolve "h" 80 secondAccepts.system = (.ok [⟨"10.0.0.1", 80, .inet⟩, ⟨"10.0.0.2", 80, .inet⟩], s) ∧
      ∃ ending w', connect "h" (.int 80) .none secondAccepts.logged = (ending.map fun _ => 0, w') ∧
        connect "h" (.int 80) .none secondAccepts = (ending.map fun _ => 0, w'.unlogged) ∧
        Sought (.noAddress "h" 80) [⟨"10.0.0.1", 80, .inet⟩, ⟨"10.0.0.2", 80, .inet⟩] w'.system.events ending
          (SocketEvent.leftOpen w'.system.events) ∧
        w'.streams = secondAccepts.streams ++ ending.toOption.toList.map fun id => { socket := some id } :=
  have valid : Port.validate (.int 80) = .ok 80 := rfl
  have resolved : System.resolve "h" 80 secondAccepts.system
      = (.ok [⟨"10.0.0.1", 80, .inet⟩, ⟨"10.0.0.2", 80, .inet⟩], (System.resolve "h" 80 secondAccepts.system).2) := rfl
  ⟨_, valid, resolved, connect_searches valid resolved⟩

/-- A host with two addresses, on a system that has no sockets for the family of the first. -/
def oneFamily : Sockets ScriptedSystem :=
  { system := { answers := [.ok [{ host := "::1", family := .inet6 }, { host := "127.0.0.1" }]],
                creations := [some { kind := .system, number := some 97 }] } }

/-- A host with two addresses, on a system that cannot set its first socket up. -/
def unfitting : Sockets ScriptedSystem :=
  { system := { answers := [.ok [{ host := "10.0.0.1" }, { host := "10.0.0.2" }]],
                setUps := [some { kind := .system, number := some 22 }] } }

/-- **A host is given up although its second address accepts**: no socket can be made for the first, and no address is
ever asked for a connection.  It is given up as well if the socket for the first cannot be set up, and that socket is
left open. -/
theorem connect_gives_up_early :
    ((connect "h" (.int 80) .none oneFamily.logged).1 = .error (.network { kind := .system, number := some 97 }) ∧
      (connect "h" (.int 80) .none oneFamily.logged).2.system.events
        = [.made .inet6 (.error (.network { kind := .system, number := some 97 }))] ∧
      (connectFirst .none (.noAddress "h" 80) [⟨"127.0.0.1", 80, .inet⟩]
        (connect "h" (.int 80) .none oneFamily).2.system).1 = .ok 0) ∧
    (connect "h" (.int 80) .none unfitting.logged).1 = .error (.network { kind := .system, number := some 22 }) ∧
      SocketEvent.leftOpen (connect "h" (.int 80) .none unfitting.logged).2.system.events = [0] ∧
      (connectFirst .none (.noAddress "h" 80) [⟨"10.0.0.2", 80, .inet⟩]
        (connect "h" (.int 80) .none unfitting).2.system).1 = .ok 1 :=
  ⟨⟨rfl, rfl, rfl⟩, rfl, rfl, rfl⟩

end Sockets
end Transport
