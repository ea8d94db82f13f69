import ContentTransport.Outcome
import ContentTransport.Text.Quoted
import ContentTransport.TransferCode
/-!
# Fault — what can break a step off

A fault is the cause, not the wording: every constructor is one thing that went wrong, and `Fault.message` is the one
place that words it.  The classes below decide which handler of a transfer takes a fault; they overlap, and the handlers
ask them in a fixed order.
-/
namespace Transport

/-! ## Faults of the network -/

/-- What the operating system, or the script that stands in for it, reports. -/
inductive NetworkFault.Kind
  | timedOut
  | unresolved
  | refused
  | reset
  | brokenPipe
  | system
  | tls
  | runtime
  | value
  | unicode
  deriving DecidableEq, Repr

/-- A kind of fault with the number and the text that came with it. -/
structure NetworkFault where
  kind : NetworkFault.Kind
  number : Option Int := none
  text : Option Text.Points := none
  deriving DecidableEq, Repr

namespace NetworkFault

/-- Whether the fault is one of the operating system's, which carry a number. -/
def isSystem (f : NetworkFault) : Bool :=
  f.kind != .runtime && f.kind != .value && f.kind != .unicode

/-- The number and the text; a handshake shows its text alone, and quoted when it has no number. -/
def message (f : NetworkFault) : Text.Points :=
  match f.number, f.text with
  | none, none => if f.kind == .tls then "()" else ""
  | none, some t => if f.kind == .tls then "(" ++ Text.quoted t ++ ",)" else t
  | some n, none => if f.kind == .tls then "(" ++ toString n ++ ",)" else toString n
  | some n, some t =>
    if f.kind == .tls then t
    else if f.isSystem then "[Errno " ++ toString n ++ "] " ++ t
    else "(" ++ toString n ++ ", " ++ Text.quoted t ++ ")"

/-- A plain fault of the system with a number and a text is of the kind that the number stands for. -/
def classified (f : NetworkFault) : NetworkFault :=
  match f.kind, f.number, f.text with
  | .system, some 110, some _ => { f with kind := .timedOut }
  | .system, some 111, some _ => { f with kind := .refused }
  | .system, some 104, some _ => { f with kind := .reset }
  | .system, some 32, some _ => { f with kind := .brokenPipe }
  | .system, some 108, some _ => { f with kind := .brokenPipe }
  | _, _, _ => f

end NetworkFault

/-! ## Faults of settings -/

inductive SettingsFault
  | timeout
  | cap
  | verification
  | readSize
  deriving DecidableEq, Repr

def SettingsFault.message : SettingsFault → String
  | .timeout => "timeout must be a number"
  | .cap => "max_response_chars must be a non-negative int"
  | .verification => "verify_tls must be bool"
  | .readSize => "read_chunk_size must be a positive int"

/-! ## All faults -/

inductive Fault
  | network (f : NetworkFault)
  | streamClosed
  /-- TLS was asked for on a stream that has no socket under it. -/
  | noSocket
  | noAddress (host : String) (port : Int)
  /-- The listener of the reports failed. -/
  | listener
  | notPort (shown : String)
  | portRange (port : Int)
  /-- An infinite number was to become a whole one. -/
  | infiniteWhole
  /-- Not-a-number was to become a whole one. -/
  | nanWhole
  /-- A whole number has no floating-point number near it. -/
  | tooLarge
  /-- A whole number has more digits than a text may write it with. -/
  | tooManyDigits
  /-- A body was to be cut into pieces of no bytes. -/
  | zeroStep
  /-- A text was to be written in UTF-8 that holds surrogates. -/
  | unwritable (run : Text.Run)
  | settings (f : SettingsFault)
  /-- An outcome was to have something else than a code. -/
  | notCode
  /-- An outcome was to have a message that is no text. -/
  | notMessage
  /-- A primitive of the session refused what it was given. -/
  | refused (code : TransferCode) (reason : String)
  /-- An object could not be brought into a usable state. -/
  | unusable (outcome : Outcome) (cause : Fault)

namespace Fault

def message : Fault → Text.Points
  | network f => f.message
  | streamClosed => "Stream is closed"
  | noSocket => "Stream does not expose a socket"
  | noAddress host port => "No addresses found for " ++ host ++ ":" ++ toString port
  | listener => "callback failed"
  | notPort shown => "Invalid port: " ++ shown
  | portRange port => "Port must be between 1 and 65535, got " ++ toString port
  | infiniteWhole => "cannot convert float infinity to integer"
  | nanWhole => "cannot convert float NaN to integer"
  | tooLarge => "int too large to convert to float"
  | tooManyDigits =>
    "Exceeds the limit (4300 digits) for integer string conversion; use sys.set_int_max_str_digits() to increase the limit"
  | zeroStep => "range() arg 3 must not be zero"
  | unwritable run =>
    Text.unwritable "utf-8" (Text.surrogateNumber run.beginning) run.first run.last "surrogates not allowed"
  | settings f => f.message
  | notCode => "code must be a ResultCode"
  | notMessage => "message must be a string or None"
  | refused _ reason => "Session error: " ++ reason
  | unusable outcome _ => outcome.text

/-! ## Classes -/

def isTimeout : Fault → Bool
  | network f => f.kind == .timedOut
  | _ => false

def isUnresolved : Fault → Bool
  | network f => f.kind == .unresolved
  | _ => false

/-- Faults of the operating system, the two classes above among them. -/
def isSystem : Fault → Bool
  | network f => f.isSystem
  | noAddress _ _ => true
  | _ => false

def isRuntime : Fault → Bool
  | network f => f.kind == .runtime
  | streamClosed => true
  | noSocket => true
  | listener => true
  | _ => false

def isUnicode : Fault → Bool
  | network f => f.kind == .unicode
  | unwritable _ => true
  | _ => false

/-- The outcome of an object that could not be brought into a usable state, as a fault. -/
def isOutcome : Fault → Bool
  | unusable _ _ => true
  | _ => false

/-- Faults of a value, those of an encoding among them. -/
def isValue : Fault → Bool
  | network f => f.kind == .value || f.kind == .unicode
  | notPort _ => true
  | portRange _ => true
  | nanWhole => true
  | tooManyDigits => true
  | zeroStep => true
  | unwritable _ => true
  | settings _ => true
  | notCode => true
  | notMessage => true
  | _ => false

end Fault
end Transport
