import ContentTransport.Report
import ContentTransport.Session.Options
import ContentTransport.Text.Utf8
/-!
# Diagnosis — the diagnostic buffer of one call

A diagnosis owns a buffer and binds it to a session.  A session that refuses the buffer is unusable, which is reported
and ends the call; a buffer that cannot be unbound afterwards is reported as a warning, since nothing more can be done.
-/
namespace Transport

structure Diagnosis where
  buffer : BufferId
  /-- Whether the buffer is still to be unbound. -/
  isBound : Bool := true
  deriving DecidableEq, Repr

namespace Session

/-- What a buffer holds in front of its first NUL. -/
def described (id : BufferId) (s : Session) : Bytes := ((s.buffers[id]?).getD []).takeWhile (· != 0)

/-- Overwrites the beginning of the bound buffer, if one is bound. -/
def overwrite (data : Bytes) (s : Session) : Option Session :=
  s.bound.map fun id => { s with buffers := s.buffers.modify id fun b => data ++ b.drop data.length }

/-- An empty buffer of the least size. -/
def blankBuffer : Bytes := List.replicate leastBuffer 0

end Session

namespace Diagnosis

/-- Binds a new buffer to a session. -/
def begin (s : Session) (r : Reporter) : Except Fault Diagnosis × Session × Reporter :=
  let (id, t) := s.allocate Session.blankBuffer
  match t.bind (some id) with
  | .ok t => (.ok { buffer := id }, t, r)
  | .error f =>
    match r.logFailure ⟨.connectionSetupFailed, some "Failed to set up error buffer"⟩ with
    | (.ok o, r) => (.error (.unusable o f), s, r)
    | (.error g, r) => (.error g, s, r)

/-- What the session wrote into the buffer. -/
def text (d : Diagnosis) (s : Session) : String := String.ofList (Text.ofUtf8 (s.described d.buffer))

/-- Unbinds the buffer; a second time it does nothing. -/
def unbind (d : Diagnosis) (s : Session) : Outcome × Diagnosis × Session :=
  if !d.isBound then (.ok, d, s)
  else match s.bind none with
    | .ok s => (.ok, { d with isBound := false }, s)
    | .error _ => (⟨.connectionSetupFailed, some "Failed to unset error buffer"⟩, { d with isBound := false }, s)

/-- Unbinds the buffer at the end of a call, and reports if that fails. -/
def finish (d : Diagnosis) (s : Session) (r : Reporter) : Except Fault Unit × Diagnosis × Session × Reporter :=
  let (o, d, s) := d.unbind s
  let (done, r) := r.logIfFailed o
  (done, d, s, r)

end Diagnosis
end Transport
