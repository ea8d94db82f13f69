/-!
# Architecture — the processors that a file can apply to
-/
namespace Transport

inductive Architecture
  | none
  | x86
  | amd64
  | arm
  | arm64
  deriving DecidableEq, Repr

namespace Architecture

/-- The architectures in the order in which they are declared. -/
def all : List Architecture := [none, x86, amd64, arm, arm64]

def display : Architecture → String
  | none => "None"
  | x86 => "x86"
  | amd64 => "amd64"
  | arm => "arm"
  | arm64 => "arm64"

/-- The name of the architecture as a constant. -/
def constant (a : Architecture) : String := a.display.toUpper

def ofDisplay? (s : String) : Option Architecture := all.find? (·.display == s)

theorem ofDisplay?_display (a : Architecture) : ofDisplay? a.display = some a := by cases a <;> decide

end Architecture
end Transport
