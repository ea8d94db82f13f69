import ContentTransport.Value
/-!
# Body — what a caller may post

A post takes a value of any kind for its body.  A text need not consist of characters to be passed, but UTF-8 writes no
other, so a text with surrogates in it is a body of its own kind.
-/
namespace Transport

/-- A body as a caller may pass it: a value, or a text of any code points. -/
inductive Body
  | value (v : Value)
  | points (t : Text.Points)

instance : Coe Value Body := ⟨.value⟩

end Transport
