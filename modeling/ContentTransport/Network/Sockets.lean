import ContentTransport.Network.System
import ContentTransport.Port
/-!
# Sockets — the network of a system's sockets

A stream is opened to the first address of the host that accepts a connection; what the others answered is forgotten
unless no address accepts one.  TLS is set up under the terms that the library always asks for, and makes a new stream
in place of the old one.
-/
namespace Transport

/-- A stream over a socket, or one that has none under it. -/
structure SocketStream where
  socket : Option SocketId
  closed : Bool := false

/-- The streams over the sockets of a system, by their numbers. -/
structure Sockets (σ : Type) where
  system : σ
  streams : List SocketStream := []

namespace Sockets

variable {σ : Type} [System σ]

def stream? (id : StreamId) (w : Sockets σ) : Option SocketStream := w.streams[id]?

def socket? (id : StreamId) (w : Sockets σ) : Option SocketId := (w.stream? id).bind (·.socket)

/-- A new stream, with the next number. -/
def add (s : SocketStream) (w : Sockets σ) : StreamId × Sockets σ :=
  (w.streams.length, { w with streams := w.streams ++ [s] })

/-! ## Connecting -/

/-- Sets a socket up for small requests and their replies, within a timeout. -/
def setUp (id : SocketId) (timeout : Value) (s : σ) : Except Fault Unit × σ :=
  match System.setOption id .noDelay s with
  | (.error f, s) => (.error f, s)
  | (.ok (), s) =>
    match System.setOption id .keepAlive s with
    | (.error f, s) => (.error f, s)
    | (.ok (), s) => System.setTimeout id timeout s

/-- A new socket that is set up.  One that cannot be set up is not closed. -/
def newSocket (family : Family) (timeout : Value) (s : σ) : Except Fault SocketId × σ :=
  match System.create family tcp s with
  | (.error f, s) => (.error f, s)
  | (.ok id, s) =>
    match setUp id timeout s with
    | (.error f, s) => (.error f, s)
    | (.ok (), s) => (.ok id, s)

/-- A socket connected to the first address that accepts a connection.  The socket of an address that does not is closed
again.  If none does, the fault is that of the last address, or `otherwise` if there was none; a fault that is not the
system's ends the search at once. -/
def connectFirst (timeout : Value) (otherwise : Fault) : List Address → σ → Except Fault SocketId × σ
  | [], s => (.error otherwise, s)
  | a :: r, s =>
    match newSocket a.family timeout s with
    | (.error f, s) => (.error f, s)
    | (.ok id, s) =>
      match System.connect id a s with
      | (.ok (), s) => (.ok id, s)
      | (.error f, s) => if f.isSystem then connectFirst timeout f r (System.close id s) else (.error f, s)

/-- Opens a stream to a host and to a port that is checked before anything else. -/
def connect (host : String) (port timeout : Value) (w : Sockets σ) : Except Fault StreamId × Sockets σ :=
  match Port.validate port with
  | .error f => (.error f, w)
  | .ok p =>
    match System.resolve host p w.system with
    | (.error f, s) => (.error f, { w with system := s })
    | (.ok addresses, s) =>
      match connectFirst timeout (.noAddress host p) addresses s with
      | (.error f, s) => (.error f, { w with system := s })
      | (.ok id, s) =>
        let (stream, w) := add { socket := some id } { w with system := s }
        (.ok stream, w)

/-! ## TLS -/

/-- The one application protocol that the library speaks. -/
def spoken : List String := ["http/1.1"]

/-- TLS 1.2 at least, without compression; the certificate and its name are checked unless the caller turns that off. -/
def terms (host : String) (verify : Bool) : TlsTerms :=
  { serverName := host, checkName := verify, verification := if verify then .required else .off,
    minimum := .v12, compression := false }

def secure (id : StreamId) (host : String) (timeout : Value) (verify : Bool) (w : Sockets σ) :
    Except Fault StreamId × Sockets σ :=
  match w.socket? id with
  | none => (.error .noSocket, w)
  | some socket =>
    match System.setTimeout socket timeout (System.offer spoken w.system) with
    | (.error f, s) => (.error f, { w with system := s })
    | (.ok (), s) =>
      match System.wrap socket (terms host verify) s with
      | (.error f, s) => (.error f, { w with system := s })
      | (.ok socket, s) =>
        let (stream, w) := add { socket := some socket } { w with system := s }
        (.ok stream, w)

/-! ## Reading, writing and closing -/

/-- At most `n` bytes; a stream without a socket has none. -/
def read (id : StreamId) (n : Int) (w : Sockets σ) : Except Fault Bytes × Sockets σ :=
  match w.stream? id with
  | none => (.ok [], w)
  | some s =>
    if s.closed then (.error .streamClosed, w)
    else match s.socket with
      | none => (.ok [], w)
      | some socket =>
        let (answer, system) := System.recv socket n w.system
        (answer, { w with system := system })

def write (id : StreamId) (data : Bytes) (w : Sockets σ) : Except Fault Unit × Sockets σ :=
  match w.stream? id with
  | none => (.ok (), w)
  | some s =>
    if s.closed then (.error .streamClosed, w)
    else match s.socket with
      | none => (.ok (), w)
      | some socket =>
        let (answer, system) := System.send socket data w.system
        (answer, { w with system := system })

/-- Closes a stream and its socket; a second time it does nothing. -/
def close (id : StreamId) (w : Sockets σ) : Sockets σ :=
  match w.stream? id with
  | none => w
  | some s =>
    if s.closed then w
    else
      let w := { w with streams := w.streams.set id { s with closed := true } }
      match s.socket with
      | none => w
      | some socket => { w with system := System.close socket w.system }

def isOpen (id : StreamId) (w : Sockets σ) : Bool := (w.stream? id).any (!·.closed)

/-! ## Details of a stream -/

/-- A name that the system does not have, for a reason of its own, is none. -/
def nameOrNone : Except Fault Value → Except Fault Value
  | .ok v => .ok v
  | .error f => if f.isSystem then .ok .none else .error f

/-- What is known of a stream under a name. -/
def detail (id : StreamId) (name : String) (w : Sockets σ) : Except Fault Value :=
  match w.socket? id with
  | none => .ok .none
  | some socket =>
    if name == "socket" then .ok (.text "socket")
    else if name == "peername" then nameOrNone (System.peerName socket w.system)
    else if name == "sockname" then nameOrNone (System.ownName socket w.system)
    else if name == "ssl_object" then .ok (.bool (System.isTls socket w.system))
    else .ok .none

/-! ## What can still be read -/

def readable (id : StreamId) (w : Sockets σ) : Nat :=
  match w.socket? id with
  | none => 0
  | some socket => System.readable socket w.system

theorem read_shrinks {id : StreamId} {n : Int} {w w' : Sockets σ} {b : UInt8} {bs : Bytes}
    (h : read id n w = (.ok (b :: bs), w')) : readable id w' < readable id w := by
  unfold read at h
  split at h
  · simp at h
  · rename_i s hs
    split at h
    · simp at h
    · split at h
      · simp at h
      · rename_i socket hsocket
        simp only [Prod.mk.injEq] at h
        obtain ⟨hr, rfl⟩ := h
        have hid : w.socket? id = some socket := by simp [socket?, hs, hsocket]
        have hid' : socket? id { w with system := (System.recv socket n w.system).2 } = some socket := hid
        simp only [readable, hid, hid']
        exact System.recv_shrinks (Prod.ext hr rfl)

instance : Network (Sockets σ) where
  connect := connect
  secure := secure
  read id n := read id n
  write := write
  close := close
  isOpen := isOpen
  readable := readable
  read_shrinks := read_shrinks

end Sockets
end Transport
