import JobScheduling.Json.Token

/-!
# The tree of a document

A `Tree` is a document as it is written: numerals and texts are not yet evaluated, and a
record keeps its fields in order, equal keys included. Reading a tree checks the grammar
only, so a part of a document that is ignored may hold numbers too large for any value,
halves of surrogate pairs and nesting of any depth.

The tokens drive a machine that holds the brackets still open. Each open bracket is the
part of its list or record that lies before the value being read.
-/

set_option autoImplicit false

namespace JobScheduling

/-- A document as it is written. -/
inductive Tree
  | null
  | bool (b : Bool)
  | number (n : Numeral)
  | text (pieces : List Piece)
  | list (items : List Tree)
  | record (fields : List (List Piece × Tree))

namespace Tree

/-- A list or record with a hole for the value being read; what lies before the hole
comes newest first. -/
inductive Frame
  | list (items : List Tree)
  | record (fields : List (List Piece × Tree)) (key : List Piece)

/-- What may come next. -/
inductive Mode
  /-- A value. -/
  | value
  /-- The first item of a list, or its end. -/
  | firstItem
  /-- The first key of a record, or its end. -/
  | firstKey
  /-- A further key of a record with these fields. -/
  | nextKey (fields : List (List Piece × Tree))
  /-- The colon after a key. -/
  | colon (fields : List (List Piece × Tree)) (key : List Piece)
  /-- Whatever may follow a complete value. -/
  | after (value : Tree)

/-- The open brackets, innermost first, and what may come next. -/
structure Reader where
  frames : List Frame := []
  mode : Mode := .value

namespace Reader

/-- Takes the first token of a value. -/
def takeValue (frames : List Frame) : Token → Option Reader
  | .beginList => some ⟨frames, .firstItem⟩
  | .beginRecord => some ⟨frames, .firstKey⟩
  | .null => some ⟨frames, .after .null⟩
  | .bool b => some ⟨frames, .after (.bool b)⟩
  | .number n => some ⟨frames, .after (.number n)⟩
  | .text t => some ⟨frames, .after (.text t)⟩
  | _ => none

/-- Takes the token after a complete value. -/
def takeAfter (value : Tree) : List Frame → Token → Option Reader
  | .list items :: frames, .comma => some ⟨.list (value :: items) :: frames, .value⟩
  | .list items :: frames, .endList => some ⟨frames, .after (.list (value :: items).reverse)⟩
  | .record fields key :: frames, .comma => some ⟨frames, .nextKey ((key, value) :: fields)⟩
  | .record fields key :: frames, .endRecord =>
    some ⟨frames, .after (.record ((key, value) :: fields).reverse)⟩
  | _, _ => none

/-- Takes one token, or fails when the grammar does not allow it here. -/
def take (r : Reader) (token : Token) : Option Reader :=
  match r.mode, token with
  | .value, token => takeValue r.frames token
  | .firstItem, .endList => some ⟨r.frames, .after (.list [])⟩
  | .firstItem, token => takeValue (.list [] :: r.frames) token
  | .firstKey, .endRecord => some ⟨r.frames, .after (.record [])⟩
  | .firstKey, .text key => some ⟨r.frames, .colon [] key⟩
  | .nextKey fields, .text key => some ⟨r.frames, .colon fields key⟩
  | .colon fields key, .colon => some ⟨.record fields key :: r.frames, .value⟩
  | .after value, token => takeAfter value r.frames token
  | _, _ => none

/-- The value read, once no bracket is open. -/
def result? (r : Reader) : Option Tree :=
  match r.frames, r.mode with
  | [], .after value => some value
  | _, _ => none

end Reader

/-- The tree of a list of tokens. -/
def ofTokens? (tokens : List Token) : Option Tree :=
  (tokens.foldlM Reader.take {}).bind Reader.result?

/-- The tree of a document. Nothing but space may stand before or after its value. -/
def parse? (document : String) : Option Tree := (Token.scan document.toList).bind ofTokens?

end Tree

end JobScheduling
