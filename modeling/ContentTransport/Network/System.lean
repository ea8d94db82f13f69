import ContentTransport.Network
/-!
# System — what an operating system does for a network

A system resolves names and makes sockets.  A socket is set up, connected, read and written, and TLS can be set up over
it, which gives another socket to the same server.  As for a network, every step answers or breaks off with a fault, and
a read that delivers something lowers the bound on what can still be delivered.
-/
namespace Transport

inductive Family
  | inet
  | inet6
  deriving DecidableEq, Repr

structure Address where
  host : String
  port : Nat
  family : Family
  deriving DecidableEq, Repr

abbrev SocketId := Nat

inductive SocketOption
  | noDelay
  | keepAlive
  deriving DecidableEq, Repr

/-- What a certificate is worth in a handshake. -/
inductive Verification
  | required
  | off
  deriving DecidableEq, Repr

inductive TlsVersion
  | v12
  | v13
  deriving DecidableEq, Repr

structure TlsTerms where
  serverName : String
  checkName : Bool
  verification : Verification
  minimum : TlsVersion
  compression : Bool
  deriving DecidableEq, Repr

/-- The number of the protocol of byte streams. -/
def tcp : Nat := 6

class System (σ : Type) where
  /-- The addresses of a host, for byte streams to a port, in the order in which they are to be tried. -/
  resolve : String → Nat → σ → Except Fault (List Address) × σ
  create : Family → Nat → σ → Except Fault SocketId × σ
  setOption : SocketId → SocketOption → σ → Except Fault Unit × σ
  setTimeout : SocketId → Value → σ → Except Fault Unit × σ
  connect : SocketId → Address → σ → Except Fault Unit × σ
  /-- At most so many bytes, or none once the server has closed the connection. -/
  recv : SocketId → Int → σ → Except Fault Bytes × σ
  send : SocketId → Bytes → σ → Except Fault Unit × σ
  close : SocketId → σ → σ
  /-- Names the protocols that the next handshake offers. -/
  offer : List String → σ → σ
  /-- Sets TLS up over a socket. -/
  wrap : SocketId → TlsTerms → σ → Except Fault SocketId × σ
  isTls : SocketId → σ → Bool
  peerName : SocketId → σ → Except Fault Value
  ownName : SocketId → σ → Except Fault Value
  /-- A bound on the bytes that a socket can still deliver. -/
  readable : SocketId → σ → Nat
  recv_shrinks : ∀ {id n s b bs s'}, recv id n s = (.ok (b :: bs), s') → readable id s' < readable id s

end Transport
