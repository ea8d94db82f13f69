import ContentTransport.Fault
import ContentTransport.Value
/-!
# Settings — what every session of a connection is told

The settings are checked when they are made, and each keeps the kind in which it was given: a timeout may be whole or
real, and a size may be a truth value, which counts as one or zero.  What a session then accepts is decided again there.
-/
namespace Transport

/-- A whole number as it was given: as a number, or as a truth value. -/
inductive Whole
  | number (n : Int)
  | truth (b : Bool)
  deriving DecidableEq, Repr

namespace Whole

def toInt : Whole → Int
  | number n => n
  | truth b => if b then 1 else 0

def toValue : Whole → Value
  | number n => .int n
  | truth b => .bool b

def ofValue? : Value → Option Whole
  | .int n => some (.number n)
  | .bool b => some (.truth b)
  | _ => none

end Whole

def Number.toValue : Number → Value
  | .whole n => .int n
  | .real x => .float x

/-- The largest body that a connection takes unless it is told otherwise, so that no server can make it hold more. -/
def largestBody : Int := 100000

structure Settings where
  timeout : Number := .real 30.0
  cap : Whole := .number largestBody
  verifyTls : Bool := true
  readSize : Whole := .number 65536
  cap_nonneg : 0 ≤ cap.toInt := by decide
  readSize_pos : 0 < readSize.toInt := by decide

namespace Settings

/-- Settings from four values, or the first that is not acceptable. -/
def ofValues (timeout cap verifyTls readSize : Value) : Except SettingsFault Settings :=
  match timeout.number? with
  | none => .error .timeout
  | some t =>
    match Whole.ofValue? cap with
    | none => .error .cap
    | some c =>
      if hc : 0 ≤ c.toInt then
        match verifyTls with
        | .bool v =>
          match Whole.ofValue? readSize with
          | none => .error .readSize
          | some r => if hr : 0 < r.toInt then .ok ⟨t, c, v, r, hc, hr⟩ else .error .readSize
        | _ => .error .verification
      else .error .cap

def default : Settings := {}

end Settings
end Transport
