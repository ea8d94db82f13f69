import ContentTransport.HostName.Ascii
import ContentTransport.Http.Field
/-!
# Request — what a request puts on the stream

A request is written in pieces: the head, the body if it is not empty, and the end of a chunked body.  What is wrong
with the head refuses the request before anything is written; a body that does not have the declared length refuses it
when the head is out.
-/
namespace Transport
namespace Http

inductive Method
  | get
  | post
  deriving DecidableEq, Repr

def Method.text : Method → String
  | get => "GET"
  | post => "POST"

structure Request where
  method : Method
  /-- The value of the Host field before it is written in ASCII. -/
  host : String
  target : String
  /-- The fields between Host and the length of the body. -/
  fields : List Field
  body : Bytes

inductive RequestFault
  | host (f : HostName.Fault)
  | field (f : FieldFault)
  /-- The target has characters beyond ASCII, the first such run from `first` to `last`. -/
  | targetText (c : Char) (first last : Nat)
  | manyHosts
  | target
  | tooMuch
  | tooLittle
  deriving DecidableEq, Repr

def RequestFault.message : RequestFault → String
  | host f => f.message
  | field f => f.message
  | targetText c first last => Text.unwritable "ascii" c.toNat first last "ordinal not in range(128)"
  | manyHosts => "Found multiple Host: headers"
  | target => "Illegal target characters"
  | tooMuch => "Too much data for declared Content-Length"
  | tooLittle => "Too little data for declared Content-Length"

def crlf : Bytes := [Bytes.cr, Bytes.lf]

def Field.line (f : Field) : Bytes := f.name ++ Bytes.ofText ": " ++ f.value ++ crlf

/-- The bytes of a target, which all have to be ASCII. -/
def targetBytes (target : List Char) : Except RequestFault Bytes :=
  match Bytes.ascii? target with
  | some b => .ok b
  | none =>
    let before := target.takeWhile (·.toNat < 128)
    let run := (target.drop before.length).takeWhile (128 ≤ ·.toNat)
    .error (.targetText (run.headD ' ') before.length (before.length + run.length - 1))

/-- The fields of a request before they are checked: Host, the fields of the caller, and the length of a posted body. -/
def Request.allFields (r : Request) (host : Bytes) : List Field :=
  ⟨Bytes.ofText "Host", host⟩ :: r.fields ++
    (match r.method with
      | .get => []
      | .post => [⟨Bytes.ofText "Content-Length", Bytes.decimal r.body.length⟩])

/-- The request line, the Host fields, the other fields and a blank line. -/
def headBytes (method : Method) (target : Bytes) (fields : List Field) : Bytes :=
  Bytes.ofText method.text ++ [Bytes.space] ++ target ++ Bytes.ofText " HTTP/1.1" ++ crlf
    ++ (fields.filter (·.isNamed "host")).flatMap Field.line
    ++ (fields.filter (!·.isNamed "host")).flatMap Field.line ++ crlf

/-- What a request puts on the stream. -/
structure Written where
  /-- The pieces, none of them empty, in sending order. -/
  pieces : List Bytes
  /-- What refuses the rest of the request once the pieces are out. -/
  fault : Option RequestFault
  keepAlive : Bool
  proposes : Bool
  deriving DecidableEq, Repr

/-- The chunk that holds a body, and the empty chunk that ends it. -/
def chunkedPieces (body : Bytes) : List Bytes :=
  (if body.isEmpty then [] else [Bytes.hex body.length ++ crlf ++ body ++ crlf]) ++ [[48] ++ crlf ++ crlf]

/-- The pieces of a body of a declared length, and what is wrong with its length. -/
def countedPieces (declared : Nat) (body : Bytes) : List Bytes × Option RequestFault :=
  if body.length > declared then ([], some .tooMuch)
  else (if body.isEmpty then [] else [body], if body.length < declared then some .tooLittle else none)

/-- The pieces of a request, or the first thing that is wrong with its head: the host, the fields in their order, the
characters of the target, a second Host field, the bytes of the target. -/
def Request.write (r : Request) : Except RequestFault Written := do
  let host ← (HostName.toAscii r.host.toList).mapError .host
  let fields ← (checkFields (r.allFields host)).mapError .field
  let target ← targetBytes r.target.toList
  if (fields.filter (·.isNamed "host")).length > 1 then .error .manyHosts
  if !target.all (fun b => 0x21 ≤ b && b ≤ 0x7e) then .error .target
  let head := headBytes r.method target fields
  let (body, fault) := if isChunked fields then (chunkedPieces r.body, none)
    else countedPieces ((contentLength? fields).getD 0) r.body
  return { pieces := head :: body, fault := fault, keepAlive := !asksToClose fields,
           proposes := !(members "upgrade" fields).isEmpty }

end Http
end Transport
