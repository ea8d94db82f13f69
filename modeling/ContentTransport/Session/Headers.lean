import ContentTransport.Session.Options
/-!
# Headers — the header lists of a session

A list is made for a session, takes fields, and is attached to the next transfers; releasing it takes it off again.
`withList` does all of that around a step, and releases the list however the step ends.
-/
namespace Transport
namespace Session

/-- A new list, with the next number. -/
def newList (s : Session) : ListId × Session := (s.lists.length, { s with lists := s.lists ++ [{}] })

def list? (id : ListId) (s : Session) : Option HeaderList := s.lists[id]?

def putList (id : ListId) (l : HeaderList) (s : Session) : Session := { s with lists := s.lists.set id l }

/-- Adds a field to a list of the session. -/
def addField (id : ListId) (name value : Value) (s : Session) : Outcome × Session :=
  match s.list? id with
  | none => (HeaderList.refusal, s)
  | some l =>
    let (o, l) := l.add name value
    (o, s.putList id l)

/-- Attaches a list, which then leaves the session when it is released. -/
def attach (id : ListId) (s : Session) : Except Fault Session := do
  let s ← s.setHeaders (some id)
  return { s with lists := s.lists.modify id ({ · with joined := true }) }

/-- Releases a list, and takes it off the session if it was joined to it and is attached. -/
def release (id : ListId) (s : Session) : Session :=
  match s.list? id with
  | none => s
  | some l =>
    let leaves := l.joined && !l.isReleased && !s.closed && s.attached == some id
    { s.putList id l.release with attached := if leaves then none else s.attached }

/-- Adds fields to a list; one that the list does not take is left out. -/
def addFields (id : ListId) (fields : List (Value × Value)) (s : Session) : Session :=
  fields.foldl (fun s f => (s.addField id f.1 f.2).2) s

/-- A step with a new list of fields attached.  The list is released in the end, also if it cannot be attached. -/
def withList {α : Type} (fields : List (Value × Value)) (step : Session → Except Fault α × Session) (s : Session) :
    ListId × Except Fault α × Session :=
  let (id, s) := s.newList
  let s := s.addFields id fields
  match s.attach id with
  | .error f => (id, .error f, s.release id)
  | .ok s =>
    let (answer, s) := step s
    (id, answer, s.release id)

end Session
end Transport
