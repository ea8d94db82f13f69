import ContentTransport.Fault
/-!
# Report — one record for every failure

A reporter hands each record to its listener; without a listener the record goes to the fallback log.  The records are
kept in the order in which they were made, with the way that each took, and a listener may break off after it has taken
one.
-/
namespace Transport

inductive Severity
  | info
  | warning
  | error
  | verbose
  deriving DecidableEq, Repr

namespace Severity

/-- The severities in the order in which they are declared. -/
def all : List Severity := [info, warning, error, verbose]

def display : Severity → String
  | info => "Info"
  | warning => "Warning"
  | error => "Error"
  | verbose => "Verbose"

/-- The level of the fallback log. -/
def level : Severity → String
  | info => "INFO"
  | warning => "WARNING"
  | error => "ERROR"
  | verbose => "DEBUG"

def ofDisplay? (s : String) : Option Severity := all.find? (·.display == s)

end Severity

/-- What a listener may break off with: any fault but an outcome, which a call would take for one of its own. -/
structure Protest where
  fault : Fault
  foreign : fault.isOutcome = false

/-- What happens to a record: the listener takes it, the listener takes it and breaks off, or there is no listener. -/
inductive Listener
  | taking
  | failing (x : Protest)
  | absent

namespace Listener

def isPresent : Listener → Bool
  | absent => false
  | _ => true

/-- What the listener answers a record. -/
def answer : Listener → Except Fault Unit
  | failing x => .error x.fault
  | _ => .ok ()

end Listener

/-- A record, and whether a listener took it. -/
structure Record where
  severity : Severity
  message : String
  heard : Bool
  deriving DecidableEq, Repr

structure Reporter where
  listener : Listener := .taking
  records : List Record := []

namespace Reporter

def hasListener (r : Reporter) : Bool := r.listener.isPresent

/-- One record.  It stays in the reporter even if the listener then breaks off. -/
def log (severity : Severity) (message : String) (r : Reporter) : Except Fault Unit × Reporter :=
  (r.listener.answer, { r with records := r.records ++ [⟨severity, message, r.hasListener⟩] })

/-- Reports an outcome as an error, in the words that the caller gets, whatever its code. -/
def logFailure (o : Outcome) (r : Reporter) : Except Fault Outcome × Reporter :=
  let (done, r') := r.log .error o.report
  (done.map fun _ => o, r')

/-- Reports an outcome as a warning if it is a failure: for what happens while a call cleans up. -/
def logIfFailed (o : Outcome) (r : Reporter) : Except Fault Unit × Reporter :=
  if o.isOk then (.ok (), r) else r.log .warning o.report

end Reporter
end Transport
