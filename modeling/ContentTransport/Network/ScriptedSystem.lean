import ContentTransport.Network.System
/-!
# ScriptedSystem — a system that plays a script and keeps a record

The answers of the resolver are queued, and so are the outcomes of making sockets, of setting them up and of handshakes.
Each address in an answer brings the script of its server: what connecting to it does, what it sends, and what sending
to it does.  A script belongs to an address and a port, every connection to them starts it afresh, and a socket with TLS
goes on with the script of the socket under it.  Every call is recorded before it takes effect.
-/
namespace Transport

/-- What one read of a socket gives: bytes, of which a read may take a part, or a fault. -/
inductive Incoming
  | bytes (b : Bytes)
  | fault (f : NetworkFault)

/-- How a server behaves. -/
structure Script where
  refusal : Option NetworkFault := none
  incoming : List Incoming := []
  /-- The outcome of each send: a fault, or none. -/
  sends : List (Option NetworkFault) := []
  /-- The fault of asking for the names of the two ends. -/
  naming : Option NetworkFault := none

/-- An address in an answer of the resolver, with its script. -/
structure Entry where
  host : String
  family : Family := .inet
  script : Script := {}

inductive Call
  | resolve (host : String) (port : Nat)
  | create (family : Family) (protocol : Nat)
  | setOption (o : SocketOption)
  | setTimeout (t : Value)
  | connect (a : Address)
  | recv (n : Int)
  | send (data : Bytes)
  | close
  | offer (protocols : List String)
  | wrap (terms : TlsTerms)

/-- A socket: the conversation that it takes part in, once it is connected. -/
structure ScriptedSocket where
  conversation : Option Nat := none
  tls : Bool := false

structure ScriptedSystem where
  /-- The answers of the next resolutions. -/
  answers : List (Except NetworkFault (List Entry)) := []
  /-- The outcome of each of the next creations: a fault, or none. -/
  creations : List (Option NetworkFault) := []
  /-- The outcome of each of the next steps that set a socket up: a fault, or none. -/
  setUps : List (Option NetworkFault) := []
  tlsFaults : List NetworkFault := []
  /-- The scripts by address, the latest first. -/
  scripts : List ((String × Nat) × Script) := []
  sockets : List ScriptedSocket := []
  /-- What is left of the scripts that connections have started. -/
  conversations : List Script := []
  /-- The calls so far, the latest first. -/
  calls : List Call := []

namespace ScriptedSystem

def record (c : Call) (s : ScriptedSystem) : ScriptedSystem := { s with calls := c :: s.calls }

/-- The script of an address; an address without one has the empty script. -/
def scriptOf (a : Address) (s : ScriptedSystem) : Script := (s.scripts.lookup (a.host, a.port)).getD {}

def talk? (id : SocketId) (s : ScriptedSystem) : Option Nat := s.sockets[id]?.bind (·.conversation)

def conversation? (id : SocketId) (s : ScriptedSystem) : Option Script :=
  (s.talk? id).bind fun k => s.conversations[k]?

def setConversation (id : SocketId) (c : Script) (s : ScriptedSystem) : ScriptedSystem :=
  match s.talk? id with
  | some k => { s with conversations := s.conversations.set k c }
  | none => s

/-! ## The script -/

def queueAnswer (a : Except NetworkFault (List Entry)) (s : ScriptedSystem) : ScriptedSystem :=
  { s with answers := s.answers ++ [a] }

def queueTlsFault (f : NetworkFault) (s : ScriptedSystem) : ScriptedSystem :=
  { s with tlsFaults := s.tlsFaults ++ [f] }

/-! ## The calls -/

/-- The next answer; a resolver with none knows no address. -/
def resolve (host : String) (port : Nat) (s : ScriptedSystem) : Except Fault (List Address) × ScriptedSystem :=
  let s := s.record (.resolve host port)
  match s.answers with
  | [] => (.ok [], s)
  | .error f :: r => (.error (.network f), { s with answers := r })
  | .ok entries :: r =>
    let scripts := entries.foldl (fun known e => ((e.host, port), e.script) :: known) s.scripts
    (.ok (entries.map fun e => ⟨e.host, port, e.family⟩), { s with answers := r, scripts := scripts })

def create (family : Family) (protocol : Nat) (s : ScriptedSystem) : Except Fault SocketId × ScriptedSystem :=
  let s := s.record (.create family protocol)
  match s.creations with
  | some f :: r => (.error (.network f), { s with creations := r })
  | outcomes => (.ok s.sockets.length, { s with creations := outcomes.tail, sockets := s.sockets ++ [{}] })

/-- A step that sets a socket up. -/
def setUp (c : Call) (s : ScriptedSystem) : Except Fault Unit × ScriptedSystem :=
  let s := s.record c
  match s.setUps with
  | some f :: r => (.error (.network f), { s with setUps := r })
  | outcomes => (.ok (), { s with setUps := outcomes.tail })

def connect (id : SocketId) (a : Address) (s : ScriptedSystem) : Except Fault Unit × ScriptedSystem :=
  let s := s.record (.connect a)
  let script := s.scriptOf a
  match script.refusal with
  | some f => (.error (.network f), s)
  | none =>
    (.ok (), { s with sockets := s.sockets.set id { conversation := some s.conversations.length },
                      conversations := s.conversations ++ [script] })

/-- The next piece, up to the place that `n` names in it.  What follows that place stays in front; after the last piece
nothing more comes. -/
def recv (id : SocketId) (n : Int) (s : ScriptedSystem) : Except Fault Bytes × ScriptedSystem :=
  let s := s.record (.recv n)
  match s.conversation? id with
  | none => (.ok [], s)
  | some c =>
    match c.incoming with
    | [] => (.ok [], s)
    | .fault f :: r => (.error (.network f), s.setConversation id { c with incoming := r })
    | .bytes b :: r =>
      let k := b.place n
      let rest := if (b.drop k).isEmpty then r else .bytes (b.drop k) :: r
      (.ok (b.take k), s.setConversation id { c with incoming := rest })

def send (id : SocketId) (data : Bytes) (s : ScriptedSystem) : Except Fault Unit × ScriptedSystem :=
  let s := s.record (.send data)
  match s.conversation? id with
  | none => (.ok (), s)
  | some c =>
    match c.sends with
    | [] => (.ok (), s)
    | none :: r => (.ok (), s.setConversation id { c with sends := r })
    | some f :: r => (.error (.network f), s.setConversation id { c with sends := r })

def wrap (id : SocketId) (terms : TlsTerms) (s : ScriptedSystem) : Except Fault SocketId × ScriptedSystem :=
  let s := s.record (.wrap terms)
  match s.tlsFaults with
  | f :: r => (.error (.network f), { s with tlsFaults := r })
  | [] => (.ok s.sockets.length, { s with sockets := s.sockets ++ [{ conversation := s.talk? id, tls := true }] })

/-- A name of one end of a conversation, unless its script does not tell. -/
def name (v : Value) (id : SocketId) (s : ScriptedSystem) : Except Fault Value :=
  match (s.conversation? id).bind (·.naming) with
  | some f => .error (.network f)
  | none => .ok v

/-! ## What can still be read -/

def size : Incoming → Nat
  | .bytes b => b.length
  | .fault _ => 0

def left (c : Script) : Nat := c.incoming.foldr (fun p n => size p + n) 0

def readable (id : SocketId) (s : ScriptedSystem) : Nat := ((s.conversation? id).map left).getD 0

theorem conversation?_setConversation {id : SocketId} {c d : Script} {s : ScriptedSystem}
    (h : s.conversation? id = some c) : (s.setConversation id d).conversation? id = some d := by
  obtain ⟨k, hk, hc⟩ := Option.bind_eq_some_iff.1 h
  obtain ⟨hlt, _⟩ := List.getElem?_eq_some_iff.1 hc
  have hk' : talk? id { s with conversations := s.conversations.set k d } = some k := hk
  simp only [setConversation, hk]
  simp [conversation?, hk', hlt]

theorem recv_shrinks {id : SocketId} {n : Int} {s s' : ScriptedSystem} {b : UInt8} {bs : Bytes}
    (h : recv id n s = (.ok (b :: bs), s')) : readable id s' < readable id s := by
  have hrec : conversation? id (s.record (.recv n)) = s.conversation? id := rfl
  unfold recv at h
  simp only [hrec] at h
  split at h
  · simp at h
  · rename_i c hc
    have hc' : conversation? id (s.record (.recv n)) = some c := hc
    split at h
    · simp at h
    · simp at h
    · rename_i p r hi
      simp only [Prod.mk.injEq, Except.ok.injEq] at h
      obtain ⟨htake, rfl⟩ := h
      simp only [readable, conversation?_setConversation hc', hc, Option.map_some, Option.getD_some, left, hi,
        List.foldr_cons]
      have hlen : (p.take (Bytes.place n p)).length = bs.length + 1 := by rw [htake]; rfl
      simp only [List.length_take] at hlen
      split
      · simp only [size]; omega
      · simp only [List.foldr_cons, size, List.length_drop]; omega

instance : System ScriptedSystem where
  resolve := resolve
  create := create
  setOption _ o := setUp (.setOption o)
  setTimeout _ t := setUp (.setTimeout t)
  connect := connect
  recv := recv
  send := send
  close _ s := s.record .close
  offer protocols s := s.record (.offer protocols)
  wrap := wrap
  isTls id s := (s.sockets[id]?).any (·.tls)
  peerName := name (.list [.text "peer", .int 1])
  ownName := name (.list [.text "local", .int 2])
  readable := readable
  recv_shrinks := recv_shrinks

end ScriptedSystem
end Transport
