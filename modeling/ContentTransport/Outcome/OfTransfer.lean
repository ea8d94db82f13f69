import ContentTransport.Outcome
import ContentTransport.TransferCode
/-!
# OfTransfer — the outcome of a transfer

A complete transfer is judged by its status alone, and only 200 is a success.  A failed one is judged by its code, and
keeps its description if it has one.
-/
namespace Transport
namespace Outcome

/-- The outcome of a complete transfer. -/
def ofStatus (status : Int) : Outcome :=
  if status = 200 then ok
  else if status = 400 then ⟨.httpBadRequest, some "400 Bad Request"⟩
  else if status = 404 then ⟨.httpNotFound, some "404 Not Found"⟩
  else if status = 405 then ⟨.httpBadRequest, some "405 Method Not Allowed"⟩
  else if status = 503 then ⟨.httpServiceNotAvailable, some "503 Service Unavailable"⟩
  else ⟨.httpUnexpected, some ("Unexpected HTTP code " ++ toString status)⟩

/-- The outcome of a failed transfer. -/
def ofTransfer (code : TransferCode) (description : String) : Outcome :=
  ⟨if code == .operationTimedout then .httpTimeout else .connectionUnexpectedError,
    some (if description.isEmpty then "Transport error: " ++ code.describe else description)⟩

/-- Only 200 is a success. -/
theorem ofStatus_isOk (status : Int) : (ofStatus status).isOk = true ↔ status = 200 := by
  unfold ofStatus
  split
  · simp_all [isOk, ok]
  · rename_i h
    simp only [h, iff_false]
    repeat' split
    all_goals simp [isOk]

end Outcome
end Transport
