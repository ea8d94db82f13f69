import ContentTransport.Decimal.Numeral
import ContentTransport.Fault
import ContentTransport.Value
/-!
# Port — the number of a port, from a value of any kind

A port is a whole number from 1 to 65535.  Texts and bytes may write it, and a real number loses its fraction first.
-/
namespace Transport
namespace Port

/-- The whole number that a value gives.  An infinite number is a fault of its own. -/
def number (v : Value) : Except Fault Int :=
  let given : Option Int → Except Fault Int := fun
    | some n => .ok n
    | none => .error (.notPort v.shown)
  match v with
  | .bool b => .ok (if b then 1 else 0)
  | .int n => .ok n
  | .float x => if x.isInf then .error .infiniteWhole else given (Decimal.truncate? x)
  | .text s => given (Decimal.integer? s.toList)
  | .bytes b => given (Decimal.integerOfBytes? b)
  | .buffer b => given (Decimal.integerOfBytes? b)
  | .view b => given (Decimal.integerOfBytes? b)
  | _ => given none

/-- A valid port. -/
def validate (v : Value) : Except Fault Nat := do
  let n ← number v
  if 1 ≤ n ∧ n ≤ 65535 then return n.toNat else .error (.portRange n)

end Port
end Transport
