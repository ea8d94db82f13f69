import ContentTransport.Client
import ContentTransport.Network.ScriptedSystem
import ContentTransport.Network.Sockets
/-!
# Main — the client as a program

The argument is the base URL of the service, and the service is played: its host has one address, and a server there
sends whatever stands on standard input, from its beginning on every connection.  The log goes to standard error.
-/

namespace Transport

/-- The base URL unless an argument gives another. -/
def Client.defaultBase : String := "http://httpbin.org"

end Transport

def main (args : List String) : IO UInt32 := do
  let input ← (← IO.getStdin).readToEnd
  let script : Transport.Script := { incoming := [.bytes (Transport.Text.utf8 input.toList)] }
  let answers := List.replicate 3 (.ok [{ host := "127.0.0.1", script := script }])
  let network : Transport.Sockets Transport.ScriptedSystem := { system := { answers := answers } }
  let (exit, log, _) := Transport.Client.run (args.headD Transport.Client.defaultBase) network
  for line in log do
    IO.eprintln (line.level ++ ": " ++ line.message)
  match exit with
  | .ok n => return n.toUInt32
  | .error f =>
    IO.eprintln (String.ofList (Transport.Text.marked f.message))
    return 1
