import ContentTransport.Fault
import ContentTransport.Value
/-!
# OfValue — outcomes made from, and compared with, values of any kind
-/
namespace Transport
namespace Outcome

/-- The outcome of a code and a message, if they are a code and a text or nothing. -/
def ofValues : Value → Value → Except Fault Outcome
  | .code c, .text m => .ok ⟨c, some m⟩
  | .code c, .none => .ok ⟨c, none⟩
  | .code _, _ => .error .notMessage
  | _, _ => .error .notCode

/-- An outcome equals a code by its code alone, and an outcome by code and message; it equals nothing else. -/
def equals (o : Outcome) : Value → Bool
  | .code c => o.code == c
  | .outcome p => o == p
  | _ => false

end Outcome
end Transport
