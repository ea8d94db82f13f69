import ContentTransport.Architecture
import ContentTransport.Decimal.Shortest
import ContentTransport.Outcome
import ContentTransport.Text.Quoted
/-!
# Value — an argument as a caller may pass it

The entry points of the library check what they are given, so what they are given is a value of any kind.  A value has a
truth, a number if it is one, the items that it iterates over, and two texts: the quoted one, in which messages show a
value inside another, and the plain one, which differs for texts, constants and outcomes.
-/
namespace Transport

/-- A number of seconds, or any other number that keeps the kind in which it was given. -/
inductive Number
  | whole (n : Int)
  | real (x : Float)

inductive Value
  | none
  | bool (b : Bool)
  | int (n : Int)
  | float (x : Float)
  | text (s : String)
  | bytes (b : Bytes)
  | buffer (b : Bytes)
  | view (b : Bytes)
  | list (items : List Value)
  | dict (entries : List (Value × Value))
  | architecture (a : Architecture)
  | code (c : Code)
  | outcome (o : Outcome)
  deriving Inhabited

namespace Value

/-! ## Truth and numbers -/

/-- A value is false when it is none, zero, empty, or an outcome that is not a success. -/
def truth : Value → Bool
  | none => false
  | bool b => b
  | int n => n != 0
  | float x => x != 0.0
  | text s => !s.isEmpty
  | bytes b => !b.isEmpty
  | buffer b => !b.isEmpty
  | view b => !b.isEmpty
  | list items => !items.isEmpty
  | dict entries => !entries.isEmpty
  | architecture _ => true
  | code _ => true
  | outcome o => o.isOk

/-- The number that a value is; a truth value is none. -/
def number? : Value → Option Number
  | int n => some (.whole n)
  | float x => some (.real x)
  | _ => Option.none

/-- The whole number that a value is; a truth value is none. -/
def whole? : Value → Option Int
  | int n => some n
  | _ => Option.none

/-- The bytes of a value that holds bytes of any kind. -/
def bytes? : Value → Option Bytes
  | bytes b => some b
  | buffer b => some b
  | view b => some b
  | _ => Option.none

/-! ## Kinds and items -/

def kind : Value → String
  | none => "NoneType"
  | bool _ => "bool"
  | int _ => "int"
  | float _ => "float"
  | text _ => "str"
  | bytes _ => "bytes"
  | buffer _ => "bytearray"
  | view _ => "memoryview"
  | list _ => "list"
  | dict _ => "dict"
  | architecture _ => "Architecture"
  | code _ => "ResultCode"
  | outcome _ => "Result"

/-- What a value iterates over: the characters of a text, the numbers of bytes, the keys of a dictionary. -/
def items? : Value → Option (List Value)
  | text s => some (s.toList.map fun c => text (String.singleton c))
  | bytes b => some (b.map fun x => int x.toNat)
  | buffer b => some (b.map fun x => int x.toNat)
  | view b => some (b.map fun x => int x.toNat)
  | list items => some items
  | dict entries => some (entries.map (·.1))
  | _ => Option.none

/-! ## Texts -/

def quotedCode (c : Code) : String := "<ResultCode." ++ c.constant ++ ": " ++ Text.quoted c.display ++ ">"

def quotedMessage : Option String → String
  | some m => Text.quoted m
  | Option.none => "None"

mutual

/-- The text of a value as messages show it inside another text. -/
def quoted : Value → String
  | none => "None"
  | bool b => if b then "True" else "False"
  | int n => toString n
  | float x => Decimal.text x
  | text s => Text.quoted s
  | bytes b => Text.quotedBytes b
  | buffer b => Text.quotedBuffer b
  | view _ => "<memory>"
  | list items => "[" ++ quotedItems items ++ "]"
  | dict entries => "\x7b" ++ quotedEntries entries ++ "\x7d"
  | architecture a => "<Architecture." ++ a.constant ++ ": " ++ Text.quoted a.display ++ ">"
  | code c => quotedCode c
  | outcome o => "Result(code=" ++ quotedCode o.code ++ ", message=" ++ quotedMessage o.message ++ ")"

def quotedItems : List Value → String
  | [] => ""
  | [v] => v.quoted
  | v :: w :: r => v.quoted ++ ", " ++ quotedItems (w :: r)

def quotedEntries : List (Value × Value) → String
  | [] => ""
  | [(k, v)] => k.quoted ++ ": " ++ v.quoted
  | (k, v) :: e :: r => k.quoted ++ ": " ++ v.quoted ++ ", " ++ quotedEntries (e :: r)

end

mutual

/-- Whether a value has a quoted text: a number of too many digits has none, nor has what holds one. -/
def isWritable : Value → Bool
  | int n => n.natAbs < Nat.pow 10 Decimal.mostDigits
  | list items => writableItems items
  | dict entries => writableEntries entries
  | _ => true

def writableItems : List Value → Bool
  | [] => true
  | v :: r => v.isWritable && writableItems r

def writableEntries : List (Value × Value) → Bool
  | [] => true
  | (k, v) :: r => k.isWritable && v.isWritable && writableEntries r

end

/-- The text of a value on its own. -/
def shown : Value → String
  | text s => s
  | architecture a => "Architecture." ++ a.constant
  | code c => "ResultCode." ++ c.constant
  | outcome o => o.text
  | v => v.quoted

end Value
end Transport
