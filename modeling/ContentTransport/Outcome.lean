/-!
# Outcome — the answer of every call

Every call that can fail answers with an outcome: a code from a closed set, and a message for people and logs.  Nothing
in the library decides by the message.
-/
namespace Transport

/-- The closed set of answers. -/
inductive Code
  | ok
  | invalidArg
  | connectionSetupFailed
  | connectionUnexpectedError
  | httpTimeout
  | httpBadRequest
  | httpNotFound
  | httpServiceNotAvailable
  | httpUnexpected
  deriving DecidableEq, Repr

namespace Code

/-- The codes in the order in which they are declared. -/
def all : List Code :=
  [ok, invalidArg, connectionSetupFailed, connectionUnexpectedError, httpTimeout, httpBadRequest, httpNotFound,
    httpServiceNotAvailable, httpUnexpected]

def display : Code → String
  | ok => "Ok"
  | invalidArg => "InvalidArg"
  | connectionSetupFailed => "ConnectionSetupFailed"
  | connectionUnexpectedError => "ConnectionUnexpectedError"
  | httpTimeout => "HttpTimeout"
  | httpBadRequest => "HttpBadRequest"
  | httpNotFound => "HttpNotFound"
  | httpServiceNotAvailable => "HttpServiceNotAvailable"
  | httpUnexpected => "HttpUnexpected"

/-- The name of the code as a constant. -/
def constant : Code → String
  | ok => "OK"
  | invalidArg => "INVALID_ARG"
  | connectionSetupFailed => "CONNECTION_SETUP_FAILED"
  | connectionUnexpectedError => "CONNECTION_UNEXPECTED_ERROR"
  | httpTimeout => "HTTP_TIMEOUT"
  | httpBadRequest => "HTTP_BAD_REQUEST"
  | httpNotFound => "HTTP_NOT_FOUND"
  | httpServiceNotAvailable => "HTTP_SERVICE_NOT_AVAILABLE"
  | httpUnexpected => "HTTP_UNEXPECTED"

def ofDisplay? (s : String) : Option Code := all.find? (·.display == s)

theorem mem_all (c : Code) : c ∈ all := by cases c <;> decide

theorem ofDisplay?_display (c : Code) : ofDisplay? c.display = some c := by cases c <;> decide

end Code

/-- A code with an optional message. -/
structure Outcome where
  code : Code
  message : Option String := none
  deriving DecidableEq, Repr

namespace Outcome

def ok : Outcome := ⟨.ok, none⟩

def isOk (o : Outcome) : Bool := o.code == .ok

/-- The message, unless it is absent or empty. -/
def saying? (o : Outcome) : Option String := o.message.filter (!·.isEmpty)

/-- What a log says of the outcome: its message, or the name of its code. -/
def report (o : Outcome) : String := o.saying?.getD o.code.display

/-- The code, followed by the message if there is one to show. -/
def text (o : Outcome) : String :=
  match o.saying? with
  | some m => o.code.display ++ ": " ++ m
  | none => o.code.display

end Outcome
end Transport
