import ContentTransport.Value
/-!
# Applicability — where a file applies

The architectures and platforms that a file applies to, and its moniker.  `Applicability.make` checks what a caller
passes, the architectures first, and answers with an outcome.
-/
namespace Transport

structure Applicability where
  architectures : List Architecture
  platforms : List String
  moniker : String
  deriving DecidableEq, Repr

namespace Applicability

/-- The members of a list that all are architectures, or the first that is none. -/
def architectures? : List Value → Except Value (List Architecture)
  | [] => .ok []
  | .architecture a :: r => (architectures? r).map (a :: ·)
  | v :: _ => .error v

/-- The members of a list that all are texts. -/
def texts? : List Value → Option (List String)
  | [] => some []
  | .text s :: r => (texts? r).map (s :: ·)
  | _ :: _ => none

def invalid (message : String) : Outcome := ⟨.invalidArg, some message⟩

/-- What a value iterates over, or the complaint that it does not. -/
def itemsOf (v : Value) : Except Outcome (List Value) :=
  match v.items? with
  | some items => .ok items
  | none => .error (invalid ("Arguments must be iterable: '" ++ v.kind ++ "' object is not iterable"))

/-- The checked details, or the first thing that is wrong: both lists must be lists, then come the architectures, the
platforms and the moniker. -/
def check (architectures platforms moniker : Value) : Except Outcome Applicability := do
  let as ← itemsOf architectures
  let ps ← itemsOf platforms
  let as ← (architectures? as).mapError fun v => invalid ("Invalid architecture: " ++ v.quoted)
  match texts? ps, moniker with
  | none, _ => .error (invalid "Platform applicability entries must be strings")
  | some ps, .text m => .ok ⟨as, ps, m⟩
  | some _, _ => .error (invalid "file_moniker must be a string")

/-- The outcome of a check, with the details if it is a success. -/
def make (architectures platforms moniker : Value) : Outcome × Option Applicability :=
  match check architectures platforms moniker with
  | .ok a => (.ok, some a)
  | .error o => (o, none)

end Applicability
end Transport
