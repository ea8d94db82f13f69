import ContentTransport.Network
import ContentTransport.Network.Tape
/-!
# Scripted — a network that replays replies

The replies are queued in the network.  A stream takes the next one when it is read with nothing left to deliver and
something has been written since its last take, whichever stream that is.  Faults are queued for the next connection,
the next handshake and the next writes.  A reply whose reads are limited to less than no bytes is read backwards, as a
tape is.
-/
namespace Transport

/-- A reply of the server: what it sends, the most bytes of one read, and the fault that follows instead of the end. -/
structure Reply where
  data : Bytes
  limit : Option Int := none
  fault : Option NetworkFault := none
  deriving DecidableEq, Repr

structure ScriptedStream where
  /-- Whether the stream takes the replies of its network. -/
  sourced : Bool := true
  /-- Whether the queued write faults are for this stream. -/
  faulty : Bool := true
  tape : Tape := {}
  /-- The reply that was taken last. -/
  reply : Option Reply := none
  /-- Whether something has been written since the last take. -/
  awaiting : Bool := false
  closed : Bool := false
  /-- What was written, the last piece first. -/
  pieces : List Bytes := []
  details : List (String × Value) := []

namespace ScriptedStream

def written (s : ScriptedStream) : Bytes := s.pieces.reverse.flatten

def detail? (s : ScriptedStream) (name : String) : Option Value := s.details.lookup name

def setDetail (name : String) (v : Value) (s : ScriptedStream) : ScriptedStream :=
  { s with details := (name, v) :: s.details }

/-- The most bytes of one read, if they are limited; a limit of zero is none. -/
def limit? (s : ScriptedStream) : Option Int := (s.reply.bind (·.limit)).filter (· != 0)

/-- The most bytes of a read that asks for `n`. -/
def most (s : ScriptedStream) (n : Int) : Int :=
  match s.limit? with
  | some l => min n l
  | none => n

/-- Whether the stream is read backwards. -/
def isBackward (s : ScriptedStream) : Bool := s.limit?.any (· < 0)

theorem most_lt_zero {s : ScriptedStream} (h : s.isBackward = true) (n : Nat) : s.most n < 0 := by
  unfold isBackward at h
  unfold most
  generalize s.limit? = l at h
  match l with
  | some l =>
    have hl : l < 0 := of_decide_eq_true h
    simp only
    omega

theorem zero_le_most {s : ScriptedStream} (h : s.isBackward = false) (n : Nat) : 0 ≤ s.most n := by
  unfold isBackward at h
  unfold most
  generalize s.limit? = l at h
  match l with
  | none => exact Int.natCast_nonneg n
  | some l =>
    have hl : ¬ l < 0 := of_decide_eq_false h
    simp only
    omega

end ScriptedStream

structure Connect where
  host : String
  port : Value
  timeout : Value

structure ScriptedNetwork where
  replies : List Reply := []
  connectFaults : List NetworkFault := []
  tlsFaults : List NetworkFault := []
  /-- The outcome of each of the next writes: a fault, or none. -/
  writeFaults : List (Option NetworkFault) := []
  /-- All streams, by their numbers. -/
  streams : List ScriptedStream := []
  /-- The streams that were opened to a host, in that order. -/
  opened : List StreamId := []
  connects : List Connect := []

namespace ScriptedNetwork

def stream? (id : StreamId) (w : ScriptedNetwork) : Option ScriptedStream := w.streams[id]?

def put (id : StreamId) (s : ScriptedStream) (w : ScriptedNetwork) : ScriptedNetwork :=
  { w with streams := w.streams.set id s }

def modify (id : StreamId) (f : ScriptedStream → ScriptedStream) (w : ScriptedNetwork) : ScriptedNetwork :=
  match w.stream? id with
  | some s => w.put id (f s)
  | none => w

/-- A new stream, with the next number. -/
def add (s : ScriptedStream) (w : ScriptedNetwork) : StreamId × ScriptedNetwork :=
  (w.streams.length, { w with streams := w.streams ++ [s] })

/-! ## The script -/

def queueReply (r : Reply) (w : ScriptedNetwork) : ScriptedNetwork := { w with replies := w.replies ++ [r] }

def queueConnectFault (f : NetworkFault) (w : ScriptedNetwork) : ScriptedNetwork :=
  { w with connectFaults := w.connectFaults ++ [f] }

def queueTlsFault (f : NetworkFault) (w : ScriptedNetwork) : ScriptedNetwork :=
  { w with tlsFaults := w.tlsFaults ++ [f] }

def queueWriteFault (f : Option NetworkFault) (w : ScriptedNetwork) : ScriptedNetwork :=
  { w with writeFaults := w.writeFaults ++ [f] }

/-- Forgets the script and the record of the streams, but not the queued write faults. -/
def reset (w : ScriptedNetwork) : ScriptedNetwork :=
  { w with replies := [], connectFaults := [], tlsFaults := [], opened := [], connects := [] }

/-! ## The steps -/

/-- The details that a stream to a host begins with. -/
def openedTo (host : String) (port : Value) : ScriptedStream :=
  { details := [("peername", .list [.text host, port]), ("sockname", .list [.text "127.0.0.1", .int 12345])] }

def connect (host : String) (port timeout : Value) (w : ScriptedNetwork) :
    Except Fault StreamId × ScriptedNetwork :=
  let w := { w with connects := w.connects ++ [(⟨host, port, timeout⟩ : Connect)] }
  match w.connectFaults with
  | f :: r => (.error (.network f), { w with connectFaults := r })
  | [] =>
    let (id, w) := w.add (openedTo host port)
    (.ok id, { w with opened := w.opened ++ [id] })

def secure (id : StreamId) (host : String) (w : ScriptedNetwork) : Except Fault StreamId × ScriptedNetwork :=
  match w.tlsFaults with
  | f :: r => (.error (.network f), { w with tlsFaults := r })
  | [] =>
    (.ok id, w.modify id fun s => (s.setDetail "ssl_object" (.bool true)).setDetail "server_hostname" (.text host))

/-- The stream and the replies after a take, if one is due. -/
def refill (s : ScriptedStream) (replies : List Reply) : ScriptedStream × List Reply :=
  if s.tape.isSpent && s.awaiting then
    let s := { s with awaiting := false }
    if s.sourced then
      match replies with
      | [] => ({ s with reply := none }, [])
      | r :: rs => ({ s with reply := some r, tape := .ofBytes r.data }, rs)
    else (s, replies)
  else (s, replies)

def read (id : StreamId) (n : Int) (w : ScriptedNetwork) : Except Fault Bytes × ScriptedNetwork :=
  match w.stream? id with
  | none => (.ok [], w)
  | some s =>
    if s.closed then (.error .streamClosed, w)
    else
      let (s, replies) := refill s w.replies
      let w := { w with replies := replies }
      if s.tape.isSpent then
        match s.reply.bind (·.fault) with
        | some f => (.error (.network f), w.put id s)
        | none => (.ok [], w.put id s)
      else
        let (piece, tape) := s.tape.read (s.most n)
        (.ok piece, w.put id { s with tape := tape })

/-- The next write fault, and the ones after it. -/
def nextWriteFault (s : ScriptedStream) (w : ScriptedNetwork) : Option NetworkFault × ScriptedNetwork :=
  match s.faulty, w.writeFaults with
  | true, f :: r => (f, { w with writeFaults := r })
  | _, _ => (none, w)

def write (id : StreamId) (data : Bytes) (w : ScriptedNetwork) : Except Fault Unit × ScriptedNetwork :=
  match w.stream? id with
  | none => (.ok (), w)
  | some s =>
    match nextWriteFault s w with
    | (some f, w) => (.error (.network f), w)
    | (none, w) =>
      if s.closed then (.error .streamClosed, w)
      else (.ok (), w.put id { s with pieces := data :: s.pieces, awaiting := true })

def close (id : StreamId) (w : ScriptedNetwork) : ScriptedNetwork := w.modify id ({ · with closed := true })

def isOpen (id : StreamId) (w : ScriptedNetwork) : Bool := (w.stream? id).any (!·.closed)

/-- More bytes to be read from a stream. -/
def addData (id : StreamId) (data : Bytes) (w : ScriptedNetwork) : ScriptedNetwork :=
  w.modify id fun s => { s with tape := s.tape.add data }

/-- The streams that were opened to a host and are not closed. -/
def openStreams (w : ScriptedNetwork) : List StreamId := w.opened.filter (isOpen · w)

/-! ## What can still be read -/

/-- A bound on what all queued replies can deliver. -/
def queued (replies : List Reply) : Nat := replies.foldr (fun r n => r.data.length + 1 + n) 0

/-- A bound on what a stream can deliver of the reply that it has taken.  A reply that is read backwards delivers once,
from a place within the tape. -/
def remaining (s : ScriptedStream) : Nat :=
  if s.isBackward then (if 0 ≤ s.tape.place then 1 else 0) else s.tape.left

def readable (id : StreamId) (w : ScriptedNetwork) : Nat :=
  ((w.stream? id).map remaining).getD 0 + queued w.replies

theorem stream?_put {id : StreamId} {s t : ScriptedStream} {w : ScriptedNetwork} (h : w.stream? id = some s) :
    (w.put id t).stream? id = some t := by
  obtain ⟨hlt, _⟩ := List.getElem?_eq_some_iff.1 h
  simp [stream?, put, hlt]

theorem remaining_ofBytes (s : ScriptedStream) (data : Bytes) :
    remaining { s with tape := .ofBytes data } ≤ data.length + 1 := by
  unfold remaining
  split
  · split <;> omega
  · simp only [Tape.left, Tape.ofBytes]; omega

/-- A take moves bytes from the queue to the stream, and adds none. -/
theorem refill_le (s : ScriptedStream) (replies : List Reply) :
    remaining (refill s replies).1 + queued (refill s replies).2 ≤ remaining s + queued replies := by
  unfold refill
  split
  · rename_i h
    simp only [Bool.and_eq_true] at h
    simp only
    split
    · split
      · simp [remaining, ScriptedStream.isBackward, ScriptedStream.limit?, Tape.left_of_isSpent h.1]
      · rename_i r rs
        have := remaining_ofBytes { s with awaiting := false, reply := some r } r.data
        simp only [queued, List.foldr_cons] at this ⊢
        omega
    · exact Nat.le_refl _
  · exact Nat.le_refl _

/-- A read that delivers something leaves less to be delivered. -/
theorem remaining_read_lt {n : Nat} {s : ScriptedStream} (h : (s.tape.read (s.most n)).1 ≠ []) :
    remaining { s with tape := (s.tape.read (s.most n)).2 } < remaining s := by
  have hb : ScriptedStream.isBackward { s with tape := (s.tape.read (s.most n)).2 } = s.isBackward := rfl
  unfold remaining
  rw [hb]
  split
  · rename_i hs
    obtain ⟨hplace, hplace'⟩ := Tape.place_of_read_back (ScriptedStream.most_lt_zero hs n) h
    rw [if_pos hplace, if_neg (by simpa using hplace')]
    exact Nat.one_pos
  · rename_i hs
    exact Tape.left_read_lt (ScriptedStream.zero_le_most (by simpa using hs) n) h

theorem read_shrinks {id : StreamId} {n : Nat} {w w' : ScriptedNetwork} {b : UInt8} {bs : Bytes}
    (h : read id n w = (.ok (b :: bs), w')) : readable id w' < readable id w := by
  unfold read at h
  split at h
  · simp at h
  · rename_i s hs
    split at h
    · simp at h
    · have hle := refill_le s w.replies
      generalize refill s w.replies = p at h hle
      obtain ⟨t, replies⟩ := p
      simp only at h hle
      split at h
      · split at h <;> simp at h
      · simp only [Prod.mk.injEq, Except.ok.injEq] at h
        obtain ⟨hpiece, rfl⟩ := h
        have hlt := remaining_read_lt (n := n) (s := t) (by rw [hpiece]; exact List.cons_ne_nil _ _)
        have hput : (put id { t with tape := (t.tape.read (t.most n)).2 } { w with replies := replies }).stream? id
            = some { t with tape := (t.tape.read (t.most n)).2 } := stream?_put (w := { w with replies }) hs
        simp only [readable, hput, hs, Option.map_some, Option.getD_some]
        simp only [put]
        omega

instance : Network ScriptedNetwork where
  connect := connect
  secure id host _ _ w := secure id host w
  read id n := read id n
  write := write
  close := close
  isOpen := isOpen
  readable := readable
  read_shrinks := read_shrinks

end ScriptedNetwork
end Transport
