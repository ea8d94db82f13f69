import ContentTransport.Bytes
import ContentTransport.Fault
import ContentTransport.Value
/-!
# Network — byte streams to servers

A network opens streams, and reads and writes them; each step answers or breaks off with a fault, and leaves the network
in a new state either way.  A port and a timeout are what the caller gives, and the network has to take them.  A network
knows a bound on what a stream can still deliver, and a read that delivers something lowers it, so reading until a
stream delivers no more comes to an end.
-/
namespace Transport

/-- The name of a stream within its network. -/
abbrev StreamId := Nat

class Network (ν : Type) where
  /-- Opens a stream to a host and a port, within a timeout that goes on to hold for its reads and writes. -/
  connect : String → Value → Value → ν → Except Fault StreamId × ν
  /-- Sets TLS up on a stream, for a server name, and gives the stream to use in its place. -/
  secure : StreamId → String → Value → Bool → ν → Except Fault StreamId × ν
  /-- At most so many bytes, or none once the server has closed the stream. -/
  read : StreamId → Nat → ν → Except Fault Bytes × ν
  write : StreamId → Bytes → ν → Except Fault Unit × ν
  /-- Closes a stream; a second time it does nothing. -/
  close : StreamId → ν → ν
  isOpen : StreamId → ν → Bool
  /-- A bound on the bytes that a stream can still deliver. -/
  readable : StreamId → ν → Nat
  read_shrinks : ∀ {id n w b bs w'}, read id n w = (.ok (b :: bs), w') → readable id w' < readable id w

end Transport
