import ContentTransport.Http.Head
/-!
# Reader — a reply, one byte at a time

The reader takes the bytes of a reply one by one and collects what they say: the status of the final head, and the body
in pieces.  A piece holds the body bytes that follow one another within one read and one chunk.  How the bytes are cut
into reads changes the pieces and nothing else that a complete reply says; `settle` does what the end of a read does:
it ends the piece, and refuses what can already be seen to be wrong with an unfinished line.
-/
namespace Transport
namespace Http

/-- What a reply says, in the order in which it says it. -/
inductive Event
  | status (status : Nat)
  | piece (bytes : Bytes)
  deriving DecidableEq, Repr

/-- Lines up to a blank one.  The finished lines, and the bytes of the unfinished one, are reversed. -/
structure LineBlock where
  lines : List Bytes := []
  line : Bytes := []
  size : Nat := 0
  /-- Whether the first byte of all is a control or a space. -/
  odd : Bool := false
  deriving DecidableEq, Repr

/-- A reversed line without the carriage return at its end. -/
def dropReturn : Bytes → Bytes
  | b :: r => if b == Bytes.cr then r else b :: r
  | [] => []

/-- One byte: the block goes on, or it ends with its lines. -/
def LineBlock.step (s : LineBlock) (b : UInt8) : LineBlock ⊕ List Bytes :=
  if b == Bytes.lf then
    match dropReturn s.line with
    | [] => .inr s.lines.reverse
    | l => .inl { s with lines := l.reverse :: s.lines, line := [], size := s.size + 1 }
  else .inl { s with line := b :: s.line, size := s.size + 1, odd := if s.size == 0 then b ≤ 32 else s.odd }

/-- Where the reader is in the reply. -/
inductive Phase
  | head (block : LineBlock)
  | counted (expected left : Nat)
  | untilEnd
  /-- In the line in front of a chunk; its bytes are reversed. -/
  | chunkHeader (line : Bytes) (size : Nat)
  | chunk (left : Nat)
  /-- After a chunk.  A first byte of the line end is kept until the next one or the end of the read. -/
  | chunkFooter (seen : Option UInt8)
  /-- After a chunk and a carriage return that ended a read. -/
  | chunkFeed
  | trailer (block : LineBlock)
  /-- At the end of the reply; what follows is reversed. -/
  | complete (surplus : Bytes)
  | switched
  | broken (fault : ReplyFault)
  deriving DecidableEq, Repr

structure Reader where
  phase : Phase := .head {}
  proposed : Bool
  /-- Whether the reply lets the stream be used again. -/
  keepAlive : Bool := true
  /-- The piece that the read has not ended yet, reversed. -/
  piece : Bytes := []
  /-- What the reply has said since the last read, reversed. -/
  events : List Event := []
  deriving DecidableEq, Repr

namespace Reader

/-! ## One byte -/

def move (r : Reader) (phase : Phase) : Reader := { r with phase := phase }

def flush (r : Reader) : Reader :=
  if r.piece.isEmpty then r else { r with events := .piece r.piece.reverse :: r.events, piece := [] }

def take (r : Reader) (b : UInt8) (phase : Phase) : Reader := { r with piece := b :: r.piece, phase := phase }

/-- Begins the body of a final reply; an empty one is complete. -/
def beginBody (r : Reader) : Framing → Reader
  | .counted 0 => r.move (.complete [])
  | .counted n => r.move (.counted n n)
  | .chunked => r.move (.chunkHeader [] 0)
  | .untilEnd => r.move .untilEnd

def finishHead (r : Reader) (lines : List Bytes) : Reader :=
  match Head.ofLines lines with
  | .error f => r.move (.broken f)
  | .ok (.informing status) =>
    if status != 101 then r.move (.head {})
    else if r.proposed then r.move .switched
    else r.move (.broken .notProposed)
  | .ok (.final status keepAlive framing) =>
    ({ r with events := .status status :: r.events, keepAlive := keepAlive }).beginBody framing

/-- The most digits of the length of a chunk. -/
def mostChunkDigits : Nat := 20

/-- The length that the line in front of a chunk gives: hexadecimal digits, then spaces and tabs, or extensions after a
semicolon. -/
def chunkLength? (line : Bytes) : Option Nat :=
  let digits := line.takeWhile Bytes.isHex
  let rest := line.drop digits.length
  if digits.isEmpty || digits.length > mostChunkDigits then none
  else if rest.all Bytes.isInline || (rest.head? == some 59 && !rest.contains Bytes.lf) then
    some (Bytes.number 16 digits)
  else none

/-- The end of the line in front of a chunk.  The chunk of no bytes is the last. -/
def finishChunkHeader (r : Reader) (line : Bytes) : Reader :=
  match chunkLength? line with
  | none => r.move (.broken (.chunkHeader (line ++ [Bytes.cr, Bytes.lf])))
  | some 0 => r.move (.trailer {})
  | some n => r.move (.chunk n)

/-- The end of the fields after the last chunk; they are checked and then forgotten. -/
def finishTrailer (r : Reader) (lines : List Bytes) : Reader :=
  match fieldsOfLines lines with
  | .error f => r.move (.broken f)
  | .ok _ => r.move (.complete [])

def step (r : Reader) (b : UInt8) : Reader :=
  match r.phase with
  | .head s =>
    match s.step b with
    | .inl s => r.move (.head s)
    | .inr lines => r.finishHead lines
  | .counted expected left =>
    if left ≤ 1 then (r.take b (.complete [])).flush else r.take b (.counted expected (left - 1))
  | .untilEnd => r.take b .untilEnd
  | .chunkHeader line size =>
    match b == Bytes.lf, line with
    | true, c :: before =>
      if c == Bytes.cr then r.finishChunkHeader before.reverse else r.move (.chunkHeader (b :: line) (size + 1))
    | _, _ => r.move (.chunkHeader (b :: line) (size + 1))
  | .chunk left => if left ≤ 1 then (r.take b (.chunkFooter none)).flush else r.take b (.chunk (left - 1))
  | .chunkFooter none => r.move (.chunkFooter (some b))
  | .chunkFooter (some a) =>
    if a == Bytes.cr && b == Bytes.lf then r.move (.chunkHeader [] 0)
    else r.move (.broken (.chunkFooter [a, b] [Bytes.cr, Bytes.lf]))
  | .chunkFeed =>
    if b == Bytes.lf then r.move (.chunkHeader [] 0) else r.move (.broken (.chunkFooter [b] [Bytes.lf]))
  | .trailer s =>
    match s.step b with
    | .inl s => r.move (.trailer s)
    | .inr lines => r.finishTrailer lines
  | .complete surplus => r.move (.complete (b :: surplus))
  | .switched => r
  | .broken _ => r

/-! ## Reads -/

def feed (r : Reader) (bytes : Bytes) : Reader := bytes.foldl step r

/-- The most bytes of an unfinished line or head. -/
def longest : Nat := 16384

/-- What the end of a read shows to be wrong, and a kept footer byte that has to count by itself. -/
def pausePhase : Phase → Phase
  | .head s =>
    if s.odd then .broken .requestLine else if s.size > longest then .broken .tooLong else .head s
  | .chunkHeader line size => if size > longest then .broken .tooLong else .chunkHeader line size
  | .chunkFooter (some a) =>
    if a == Bytes.cr then .chunkFeed else .broken (.chunkFooter [a] [Bytes.cr, Bytes.lf])
  | .trailer s => if s.size > longest then .broken .tooLong else .trailer s
  | phase => phase

/-- The reader after the end of a read. -/
def pause (r : Reader) : Reader :=
  let r := r.flush
  { r with phase := pausePhase r.phase }

/-- How a reply stands at the end of a read. -/
inductive Standing
  | hungry
  /-- The reply is complete, with the bytes that follow it. -/
  | complete (surplus : Bytes)
  | switched
  | broken (fault : ReplyFault)
  deriving DecidableEq, Repr

def standing (r : Reader) : Standing :=
  match r.phase with
  | .complete surplus => .complete surplus.reverse
  | .switched => .switched
  | .broken f => .broken f
  | _ => .hungry

/-- What the reply said during the read, the reader for the next one, and how the reply stands. -/
def settle (r : Reader) : List Event × Reader × Standing :=
  let r := r.pause
  (r.events.reverse, { r with events := [] }, r.standing)

/-- What the end of the stream means for a reply that needs more bytes: `none` if it completes the reply. -/
def atEnd (r : Reader) : Option ReplyFault :=
  match r.phase with
  | .head s => some (if s.size == 0 then .endedBeforeReply else .endedInLine)
  | .counted expected left => some (.endedInBody (expected - left) expected)
  | .chunkHeader _ size => some (if size == 0 then .endedInChunks else .endedInLine)
  | .trailer s => some (if s.size == 0 then .endedInChunks else .endedInLine)
  | .chunk _ => some .endedInChunks
  | .chunkFooter _ => some .endedInChunks
  | .chunkFeed => some .endedInChunks
  | _ => none

end Reader
end Http
end Transport
