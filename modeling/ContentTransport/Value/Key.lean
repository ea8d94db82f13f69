import ContentTransport.Decimal.Binary
import ContentTransport.Value
/-!
# Key — dictionaries from their entries

Two values are the same key when they are equal and of kinds that compare: numbers and truth values by what they count,
texts by their characters, bytes and views of bytes by their bytes.  A dictionary has each key once, at the place and in
the form in which it came first, with the value that came last.
-/
namespace Transport
namespace Value

/-- The whole number that a value counts, if it is a number without a fraction or a truth value. -/
def count? : Value → Option Int
  | bool b => some (if b then 1 else 0)
  | int n => some n
  | float x => if x.floor == x then Decimal.truncate? x else Option.none
  | _ => Option.none

/-- The bytes of a value whose bytes do not change. -/
def fixedBytes? : Value → Option Bytes
  | bytes b => some b
  | view b => some b
  | _ => Option.none

/-- Whether two values are the same key.  A number that is none is no key but its own. -/
def isSameKey : Value → Value → Bool
  | none, none => true
  | text s, text t => s == t
  | architecture a, architecture b => a == b
  | code c, code d => c == d
  | outcome o, outcome p => o == p
  | float x, float y => x == y
  | v, w =>
    match v.count?, w.count? with
    | some m, some n => m == n
    | _, _ =>
      match v.fixedBytes?, w.fixedBytes? with
      | some b, some c => b == c
      | _, _ => false

/-- Entries with one more: a key that is among them keeps its place and takes the new value. -/
def setEntry (k v : Value) : List (Value × Value) → List (Value × Value)
  | [] => [(k, v)]
  | (l, w) :: r => if l.isSameKey k then (l, v) :: r else (l, w) :: setEntry k v r

/-- The dictionary of entries, of which later ones take precedence. -/
def ofEntries (entries : List (Value × Value)) : Value :=
  dict (entries.foldl (fun known e => setEntry e.1 e.2 known) [])

end Value
end Transport
