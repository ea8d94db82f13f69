import ContentTransport.Http.Field
import ContentTransport.Outcome
import ContentTransport.Text.Blank
import ContentTransport.Value
/-!
# HeaderList — the fields that one request brings along

A list takes fields, in their order, until it is released.  It takes a field only if its name is a token and its value
is text of one line in Latin-1; blanks around the value do not count.
-/
namespace Transport

structure HeaderList where
  /-- The fields, or none once the list is released. -/
  content : Option (List Http.Field) := some []
  /-- Whether the list has been joined to its session, and is to leave it on release. -/
  joined : Bool := false
  releases : Nat := 0
  deriving DecidableEq, Repr

namespace HeaderList

def fields (l : HeaderList) : List Http.Field := l.content.getD []

def isReleased (l : HeaderList) : Bool := l.content.isNone

def entries (l : HeaderList) : List String := l.fields.map fun f => Bytes.text f.name ++ ": " ++ Bytes.text f.value

def size (l : HeaderList) : Nat := l.fields.length

/-- A byte that the value of a field may hold. -/
def isValueByte (b : UInt8) : Bool := b == Bytes.tab || (0x20 ≤ b && b ≤ 0x7e) || 0x80 ≤ b

/-- A token, which one line feed may follow. -/
def isName (b : Bytes) : Bool :=
  Http.isToken (if b.getLast? == some Bytes.lf then b.dropLast else b)

/-- The field that two values give, if they are texts and acceptable. -/
def field? : Value → Value → Option Http.Field
  | .text name, .text value => do
    let n ← Bytes.ascii? name.toList
    let v ← Bytes.latin1? (Text.strip value.toList)
    if isName n && v.all isValueByte then some ⟨n, v⟩ else none
  | _, _ => none

/-- What a list answers to a field that it does not take. -/
def refusal : Outcome := ⟨.connectionSetupFailed, some "Failed to add header to HeaderList"⟩

/-- Adds a field at the end, or says why not. -/
def add (name value : Value) (l : HeaderList) : Outcome × HeaderList :=
  match l.content with
  | none => (⟨.connectionSetupFailed, some "Header list was already released"⟩, l)
  | some fields =>
    match field? name value with
    | none => (refusal, l)
    | some f => (.ok, { l with content := some (fields ++ [f]) })

/-- Gives the fields up.  A list is released once; after that it stays as it is. -/
def release (l : HeaderList) : HeaderList :=
  match l.content with
  | none => l
  | some _ => ⟨none, false, l.releases + 1⟩

end HeaderList
end Transport
