import JobScheduling.Json.Tree

/-!
# Values of a document

A `Json` is the value of a document. The fields of a record are sorted by key, and of
equal keys in a document the last one counts.

`Tree.value?` evaluates a tree. It fails where a numeral has no value, where a text holds
half of a surrogate pair, and where lists and records are nested too deeply.
`Json.write` gives the compact text of a value.
-/

set_option autoImplicit false

namespace JobScheduling

/-- The value of a document. -/
inductive Json
  | null
  | bool (b : Bool)
  | number (n : Number)
  | text (s : String)
  | list (items : List Json)
  | record (fields : List (String × Json))
  deriving Inhabited, Repr

namespace Json

/-- Adds a field to fields sorted by key, in the place of a field of that key. -/
def insertField (key : String) (value : Json) : List (String × Json) → List (String × Json)
  | [] => [(key, value)]
  | (k, v) :: rest =>
    if key < k then (key, value) :: (k, v) :: rest
    else if key = k then (key, value) :: rest
    else (k, v) :: insertField key value rest

/-- The record with these fields. Of equal keys the last one counts. -/
def ofFields (fields : List (String × Json)) : Json :=
  .record (fields.foldl (fun done field => insertField field.1 field.2 done) [])

/-- The field of a record. -/
def field? (key : String) : Json → Option Json
  | .record fields => fields.lookup key
  | _ => none

/-- An integer as a value. -/
def ofNat (n : Nat) : Json := .number (.integer n)

/-- A value, or null in its absence. -/
def ofOption {α : Type} (f : α → Json) : Option α → Json
  | none => .null
  | some a => f a

/-- The natural number that a value is. -/
def nat? : Json → Option Nat
  | .number (.integer i) => if 0 ≤ i then some i.toNat else none
  | _ => none

/-- The integer that a value is. -/
def int? : Json → Option Int
  | .number (.integer i) => some i
  | _ => none

/-- The text that a value is. -/
def text? : Json → Option String
  | .text s => some s
  | _ => none

/-- The truth value that a value is. -/
def bool? : Json → Option Bool
  | .bool b => some b
  | _ => none

/-- The items of the list that a value is. -/
def items? : Json → Option (List Json)
  | .list items => some items
  | _ => none

mutual

/-- Whether two values are equal. -/
def eq : Json → Json → Bool
  | .null, .null => true
  | .bool a, .bool b => a == b
  | .number a, .number b => a == b
  | .text a, .text b => a == b
  | .list a, .list b => eqItems a b
  | .record a, .record b => eqFields a b
  | _, _ => false

/-- Whether two lists of values are equal. -/
def eqItems : List Json → List Json → Bool
  | [], [] => true
  | a :: as, b :: bs => eq a b && eqItems as bs
  | _, _ => false

/-- Whether two lists of fields are equal. -/
def eqFields : List (String × Json) → List (String × Json) → Bool
  | [], [] => true
  | (k, a) :: as, (l, b) :: bs => k == l && eq a b && eqFields as bs
  | _, _ => false

end

mutual

/-- The test for equality is right, also for items and fields. -/
theorem eq_iff (a b : Json) : eq a b = true ↔ a = b := by
  cases a <;> cases b <;> simp [eq]
  · exact eqItems_iff _ _
  · exact eqFields_iff _ _

/-- Lists of values are equal item by item. -/
theorem eqItems_iff (as bs : List Json) : eqItems as bs = true ↔ as = bs := by
  cases as <;> cases bs <;> simp [eqItems, eq_iff, eqItems_iff]

/-- Fields are equal key by key and value by value. -/
theorem eqFields_iff (as bs : List (String × Json)) : eqFields as bs = true ↔ as = bs := by
  cases as with
  | nil => cases bs <;> simp [eqFields]
  | cons a as =>
    obtain ⟨k, a⟩ := a
    cases bs with
    | nil => simp [eqFields]
    | cons b bs => simp [eqFields, eq_iff, eqFields_iff, Prod.ext_iff, and_assoc]

end

instance : DecidableEq Json := fun a b => decidable_of_iff _ (eq_iff a b)

end Json

namespace Tree

/-- The value of a tree whose lists and records are nested at most `depth` levels. -/
def value? : Nat → Tree → Option Json
  | _, .null => some .null
  | _, .bool b => some (.bool b)
  | _, .number n => n.value?.map .number
  | _, .text pieces => (Piece.text? pieces).map .text
  | 0, .list _ => none
  | 0, .record _ => none
  | depth + 1, .list items => (items.mapM (value? depth)).map .list
  | depth + 1, .record fields =>
    (fields.mapM fun (key, tree) => do return (← Piece.text? key, ← value? depth tree)).map
      Json.ofFields

end Tree

namespace Json

/-- How many levels of lists and records a document may be nested. -/
def maxDepth : Nat := 127

/-- The value of a document. -/
def parse? (document : String) : Option Json := (Tree.parse? document).bind (Tree.value? maxDepth)

/-- The hexadecimal digit of a number below sixteen. -/
def hexChar (n : Nat) : Char := if n < 10 then Char.ofNat (48 + n) else Char.ofNat (87 + n)

/-- A character inside a text. Quotes, backslashes and control characters are escaped,
with a letter where there is one. -/
def escape (c : Char) : List Char :=
  if c = '"' then ['\\', '"']
  else if c = '\\' then ['\\', '\\']
  else if c = '\x08' then ['\\', 'b']
  else if c = '\x0c' then ['\\', 'f']
  else if c = '\n' then ['\\', 'n']
  else if c = '\r' then ['\\', 'r']
  else if c = '\t' then ['\\', 't']
  else if c.toNat < 0x20 then
    ['\\', 'u', '0', '0', hexChar (c.toNat / 16), hexChar (c.toNat % 16)]
  else [c]

/-- A text between quotes. -/
def quote (s : String) : String := "\"" ++ String.ofList (s.toList.flatMap escape) ++ "\""

mutual

/-- The compact text of a value. -/
def write : Json → String
  | .null => "null"
  | .bool true => "true"
  | .bool false => "false"
  | .number n => n.write
  | .text s => quote s
  | .list items => "[" ++ writeItems items ++ "]"
  | .record fields => "\x7b" ++ writeFields fields ++ "\x7d"

/-- Items with commas between them. -/
def writeItems : List Json → String
  | [] => ""
  | [item] => write item
  | item :: rest => write item ++ "," ++ writeItems rest

/-- Fields with commas between them. -/
def writeFields : List (String × Json) → String
  | [] => ""
  | [(key, value)] => quote key ++ ":" ++ write value
  | (key, value) :: rest => quote key ++ ":" ++ write value ++ "," ++ writeFields rest

end

end Json

end JobScheduling
