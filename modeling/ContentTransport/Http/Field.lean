import ContentTransport.Bytes
import ContentTransport.Text.Quoted
/-!
# Field — header fields and the classes of their bytes

A field is a name and a value.  A name is a token; a value is empty, or begins and ends with a visible byte and holds
nothing but visible bytes, spaces and tabs.  Every byte beyond ASCII counts as visible.
-/
namespace Transport
namespace Http

structure Field where
  name : Bytes
  value : Bytes
  deriving DecidableEq, Repr

/-- The bytes other than letters and digits that a token may hold. -/
def tokenMarks : Bytes := Bytes.ofText "!#$%&'*+-.^_`|~"

def isTokenByte (b : UInt8) : Bool := Bytes.isDigit b || Bytes.isLetter b || tokenMarks.contains b

def isToken (b : Bytes) : Bool := !b.isEmpty && b.all isTokenByte

/-- Neither NUL nor white space. -/
def isVisible (b : UInt8) : Bool := b != 0 && !Bytes.isWhite b

/-- Visible, a space or a tab: what a line of text may hold. -/
def isLineByte (b : UInt8) : Bool := isVisible b || Bytes.isInline b

def isFieldValue (b : Bytes) : Bool :=
  b.all isLineByte && b.head?.all isVisible && b.getLast?.all isVisible

/-- Whether a field has the name, whatever the case of either. -/
def Field.isNamed (f : Field) (name : String) : Bool := Bytes.lower f.name == Bytes.ofText name

/-- The members of the comma-separated lists in the fields of a name: in lower case, without white space around them,
and without the empty ones. -/
def members (name : String) (fields : List Field) : List Bytes :=
  (fields.filter (·.isNamed name)).flatMap fun f =>
    ((Bytes.split Bytes.comma (Bytes.lower f.value)).map (Bytes.trim Bytes.isWhite)).filter (!·.isEmpty)

/-- Whether the fields ask that the stream be closed after the exchange. -/
def asksToClose (fields : List Field) : Bool := (members "connection" fields).contains (Bytes.ofText "close")

/-! ## What a field may say -/

inductive FieldFault
  | name (name : Bytes)
  | value (value : Bytes)
  | conflictingLengths
  | length
  | repeatedCoding
  | otherCoding
  deriving DecidableEq, Repr

def FieldFault.message : FieldFault → String
  | name n => "Illegal header name " ++ Text.quotedBytes n
  | value v => "Illegal header value " ++ Text.quotedBytes v
  | conflictingLengths => "conflicting Content-Length headers"
  | length => "bad Content-Length"
  | repeatedCoding => "multiple Transfer-Encoding headers"
  | otherCoding => "Only Transfer-Encoding: chunked is supported"

/-- The one length that a list of lengths repeats, if it is a length. -/
def lengthOf (value : Bytes) : Except FieldFault Bytes :=
  let lengths := (Bytes.split Bytes.comma value).map (Bytes.trim Bytes.isWhite)
  match lengths with
  | [] => .error .conflictingLengths
  | l :: r =>
    if !r.all (· == l) then .error .conflictingLengths
    else if l.isEmpty || l.length > 20 || !l.all Bytes.isDigit then .error .length
    else .ok l

/-- The fields that have been accepted, reversed, with the length among them and whether there is a coding. -/
structure Accepted where
  fields : List Field := []
  length : Option Bytes := none
  coding : Bool := false

/-- Accepts one more field.  A repeated length is dropped if it is the same; the one coding is written in lower case. -/
def Accepted.add (a : Accepted) (f : Field) : Except FieldFault Accepted :=
  if f.isNamed "content-length" then do
    let l ← lengthOf f.value
    match a.length with
    | none => .ok { a with fields := { f with value := l } :: a.fields, length := some l }
    | some seen => if seen == l then .ok a else .error .conflictingLengths
  else if f.isNamed "transfer-encoding" then
    if a.coding then .error .repeatedCoding
    else if Bytes.lower f.value != Bytes.ofText "chunked" then .error .otherCoding
    else .ok { a with fields := { f with value := Bytes.lower f.value } :: a.fields, coding := true }
  else .ok { a with fields := f :: a.fields }

/-- The fields of a received message, whose bytes have been checked, as they count. -/
def acceptFields (fields : List Field) : Except FieldFault (List Field) := do
  let a ← fields.foldlM Accepted.add {}
  return a.fields.reverse

/-- The name and the value of a field that is to be sent. -/
def checkField (f : Field) : Except FieldFault Unit :=
  if !isToken f.name then .error (.name f.name)
  else if !isFieldValue f.value then .error (.value f.value)
  else .ok ()

/-- The fields of a message to be sent, as they count: each is checked before the next. -/
def checkFields (fields : List Field) : Except FieldFault (List Field) := do
  let a ← fields.foldlM (fun (a : Accepted) f => do
    checkField f
    a.add f) {}
  return a.fields.reverse

def contentLength? (fields : List Field) : Option Nat :=
  (members "content-length" fields).head?.map (Bytes.number 10)

/-- Whether accepted fields say that the body comes in chunks. -/
def isChunked (fields : List Field) : Bool := !(members "transfer-encoding" fields).isEmpty

end Http
end Transport
