import ContentTransport.Connection
/-!
# Client — a small client of one service

The client makes a connection, asks for three resources in turn, and logs what it gets.  What the library reports is
logged in between, at the level of its severity.
-/
namespace Transport
namespace Client

/-- A line of the log. -/
structure Line where
  level : String
  message : String
  deriving DecidableEq, Repr

def info (message : String) : Line := ⟨"INFO", message⟩

/-- The records of a reporter as lines. -/
def heard (r : Reporter) : List Line := r.records.map fun x => ⟨x.severity.level, x.message⟩

/-- The settings of the client. -/
def settings : Settings := { Settings.default with timeout := .real 10.0 }

variable {ν : Type} [Network ν]

/-- One call: what the reporter got during it is logged at once, and then the answer. -/
def call (title : String) (showsBody : Bool) (step : Connection ν → Except Fault Answer × Connection ν)
    (c : Connection ν) (log : List Line) : Except Fault Unit × Connection ν × List Line :=
  let (answer, c) := step c
  let log := log ++ heard c.reporter
  let c := { c with reporter := { c.reporter with records := [] } }
  match answer with
  | .error f => (.error f, c, log)
  | .ok (o, body) =>
    let log := log ++ [info (title ++ o.text)]
    let log := if showsBody && o.isOk then
        log ++ [info ("Response body length: " ++ toString body.length ++ " bytes")]
      else log
    (.ok (), c, log)

/-- The three calls. -/
def calls (base : String) (c : Connection ν) (log : List Line) : Except Fault Unit × Connection ν × List Line :=
  let log := log ++ [info "Making GET request..."]
  match call "GET result: " true (Connection.get (.text (base ++ "/get"))) c log with
  | (.error f, c, log) => (.error f, c, log)
  | (.ok (), c, log) =>
    let log := log ++ [info "Making POST request with a JSON body..."]
    let body := Value.text "\x7b\"TargetingAttributes\": \x7b\x7d\x7d"
    match call "POST result: " true (Connection.post (.text (base ++ "/post")) body) c log with
    | (.error f, c, log) => (.error f, c, log)
    | (.ok (), c, log) =>
      call "Missing resource result: " false (Connection.get (.text (base ++ "/status/404"))) c log

/-- The exit code of the client, its log, and the network that it leaves. -/
def run (base : String) (w : ν) : Except Fault Nat × List Line × ν :=
  match Connection.make settings none {} w with
  | (.error f, r) => (.error f, heard r, w)
  | (.ok (o, none), r) =>
    (.ok 1, heard r ++ [⟨"ERROR", "Could not create connection: " ++ o.text⟩], w)
  | (.ok (_, some c), r) =>
    let (answer, c, log) := calls base { c with reporter := { r with records := [] } } (heard r)
    (answer.map fun _ => 0, log, c.close.network)

end Client
end Transport
