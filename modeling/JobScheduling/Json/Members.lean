import JobScheduling.Json.Value

/-!
# Members of a structure

A structure with named members is written as a record or as a list. In a record the
members stand in any order, fields with other names are ignored whatever they hold, and a
member may not come twice. In a list the members stand in their own order.

The readers here give `none` for anything else, and for a member of the wrong type.
-/

set_option autoImplicit false

namespace JobScheduling

namespace Tree

/-- The members among the fields of a record. A member that comes twice and a key that is
no text are refused. -/
def known? (names : List String) : List (List Piece × Tree) → Option (List (String × Tree))
  | [] => some []
  | (key, tree) :: rest => do
    let name ← Piece.text? key
    let found ← known? names rest
    if names.contains name then
      if (found.lookup name).isSome then none else some ((name, tree) :: found)
    else some found

/-- The members that a structure has, by their names. A list holds all members, or with
`partly` the first of them. -/
def members? (partly : Bool) (names : List String) : Tree → Option (List (String × Tree))
  | .record fields => known? names fields
  | .list items =>
    if items.length = names.length ∨ partly ∧ items.length ≤ names.length then
      some (names.zip items)
    else none
  | _ => none

/-- The text that a tree holds. -/
def text? : Tree → Option String
  | .text pieces => Piece.text? pieces
  | _ => none

/-- The word that a tree holds: an integer from zero to `2 ^ 64 - 1`. -/
def word? : Tree → Option Nat
  | .number n => n.integer?.bind fun i => if 0 ≤ i then some i.toNat else none
  | _ => none

/-- The truth value that a tree holds. -/
def bool? : Tree → Option Bool
  | .bool b => some b
  | _ => none

/-- A member that must be there. -/
def required {α : Type} (name : String) (read : Tree → Option α)
    (members : List (String × Tree)) : Option α := (members.lookup name).bind read

/-- A member that may be null or missing. -/
def optional {α : Type} (name : String) (read : Tree → Option α)
    (members : List (String × Tree)) : Option (Option α) :=
  match members.lookup name with
  | none | some .null => some none
  | some tree => (read tree).map some

end Tree

end JobScheduling
