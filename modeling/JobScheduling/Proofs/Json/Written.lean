import JobScheduling.Proofs.Json.Lexeme

/-!
# `JobScheduling.Proofs.Json.Written`: the tree of a written value

The text of every value is a document, and `Json.tree` is its tree (`Tree.parse?_write`): numbers
are numerals, texts are pieces, and the fields of a record stand in their order.

The reader takes the tokens of a value where a value may come, whatever brackets are open, and has
then read the tree (`Tree.Reader.takes_lexemes`). Inside a list or record it is the reader's bracket
that grows by one item or field after the other.
-/

set_option autoImplicit false

namespace JobScheduling

namespace Json

mutual

/-- The tree of the text of a value. -/
def tree : Json → Tree
  | .null => .null
  | .bool b => .bool b
  | .number n => .number n.numeral
  | .text s => .text (Piece.ofText s)
  | .list items => .list (itemTrees items)
  | .record fields => .record (fieldTrees fields)

/-- The trees of items. -/
def itemTrees : List Json → List Tree
  | [] => []
  | item :: rest => tree item :: itemTrees rest

/-- The fields of a tree. -/
def fieldTrees : List (String × Json) → List (List Piece × Tree)
  | [] => []
  | (key, value) :: rest => (Piece.ofText key, tree value) :: fieldTrees rest

end

/-- The items of a list are read in their order. -/
theorem itemTrees_eq_map (items : List Json) : itemTrees items = items.map tree := by
  induction items with
  | nil => rfl
  | cons item rest ih => rw [itemTrees, ih, List.map_cons]

/-- So are the fields of a record, keys included. -/
theorem fieldTrees_eq_map (fields : List (String × Json)) :
    fieldTrees fields = fields.map fun field => (Piece.ofText field.1, tree field.2) := by
  induction fields with
  | nil => rfl
  | cons field rest ih => rw [fieldTrees, ih, List.map_cons]

end Json

namespace Tree

namespace Reader

/-- From one state the reader takes the tokens of these lexemes and comes to the other. -/
def Takes (r : Reader) (ls : List Lexeme) (s : Reader) : Prop :=
  (ls.map Lexeme.token).foldlM take r = some s

/-- No tokens, no step. -/
theorem Takes.nil (r : Reader) : Takes r [] r := rfl

/-- One token, and then the others. -/
theorem Takes.cons {r s t : Reader} {l : Lexeme} {ls : List Lexeme} (h : take r l.token = some s)
    (hs : Takes s ls t) : Takes r (l :: ls) t := by
  rw [Takes, List.map_cons, List.foldlM_cons, h]
  exact hs

/-- The tokens of two parts are taken one part after the other. -/
theorem Takes.append {r s t : Reader} {ls ms : List Lexeme} (h : Takes r ls s)
    (hs : Takes s ms t) : Takes r (ls ++ ms) t := by
  rw [Takes, List.map_append, List.foldlM_append, h]
  exact hs

/-- The first item of a list is taken like any other. -/
theorem takes_firstItem {frames : List Frame} {items : List Json} {ls : List Lexeme} {s : Reader}
    (hne : items ≠ [])
    (h : Takes ⟨.list [] :: frames, .value⟩ (Json.itemLexemes items ++ ls) s) :
    Takes ⟨frames, .firstItem⟩ (Json.itemLexemes items ++ ls) s := by
  -- No value begins with the closing bracket, the one token that would end the list.
  match items with
  | [item] => cases item <;> exact h
  | item :: next :: rest => cases item <;> exact h

mutual

/-- Where a value may come the tokens of one are taken, and its tree is read. -/
theorem takes_lexemes (v : Json) (frames : List Frame) :
    Takes ⟨frames, .value⟩ v.lexemes ⟨frames, .after v.tree⟩ := by
  cases v with
  | null | bool _ | number _ | text _ => rfl
  | list items =>
    have hitems := takes_itemLexemes items frames []
    match items with
    | [] => rfl
    | item :: rest => exact .cons rfl (takes_firstItem nofun (hitems nofun))
  | record fields =>
    have hfields := takes_fieldLexemes fields frames []
    -- After the first member there is the end, or a comma and the next one.
    match fields with
    | [] => rfl
    | [(key, value)] => exact .cons rfl (hfields nofun)
    | (key, value) :: next :: rest => exact .cons rfl (hfields nofun)

/-- The items of an open list are taken up to its closing bracket. -/
theorem takes_itemLexemes (items : List Json) (frames : List Frame) (done : List Tree)
    (hne : items ≠ []) :
    Takes ⟨.list done :: frames, .value⟩ (Json.itemLexemes items ++ [.endList])
      ⟨frames, .after (.list (done.reverse ++ Json.itemTrees items))⟩ := by
  match items with
  | [item] =>
    refine (takes_lexemes item (.list done :: frames)).append (.cons ?_ (.nil _))
    simp [take, takeAfter, Lexeme.token, Json.itemTrees]
  | item :: next :: rest =>
    -- After the comma the item that was read is the newest one of the open list.
    have hitem := takes_lexemes item (.list done :: frames)
    have hrest := takes_itemLexemes (next :: rest) frames (item.tree :: done) nofun
    rw [List.reverse_cons, List.append_assoc] at hrest
    have hparts : Json.itemLexemes (item :: next :: rest) ++ [.endList]
        = item.lexemes ++ .comma :: (Json.itemLexemes (next :: rest) ++ [.endList]) := by
      simp [Json.itemLexemes]
    rw [hparts]
    exact hitem.append (.cons rfl hrest)

/-- The fields of an open record are taken up to its closing bracket. -/
theorem takes_fieldLexemes (fields : List (String × Json)) (frames : List Frame)
    (done : List (List Piece × Tree)) (hne : fields ≠ []) :
    Takes ⟨frames, .nextKey done⟩ (Json.fieldLexemes fields ++ [.endRecord])
      ⟨frames, .after (.record (done.reverse ++ Json.fieldTrees fields))⟩ := by
  -- By recursion on the fields. The reader holds those that it has read, the last one first.
  match fields with
  | [(key, value)] =>
    have hvalue := takes_lexemes value (.record done (Piece.ofText key) :: frames)
    refine .cons rfl (.cons rfl (hvalue.append (.cons ?_ (.nil _))))
    simp [take, takeAfter, Lexeme.token, Json.fieldTrees]
  | (key, value) :: next :: rest =>
    have hvalue := takes_lexemes value (.record done (Piece.ofText key) :: frames)
    have hrest := takes_fieldLexemes (next :: rest) frames ((Piece.ofText key, value.tree) :: done)
      nofun
    rw [List.reverse_cons, List.append_assoc] at hrest
    have hparts : Json.fieldLexemes ((key, value) :: next :: rest) ++ [.endRecord]
        = .text key :: .colon ::
          (value.lexemes ++ .comma :: (Json.fieldLexemes (next :: rest) ++ [.endRecord])) := by
      simp [Json.fieldLexemes]
    rw [hparts]
    exact .cons rfl (.cons rfl (hvalue.append (.cons rfl hrest)))

end

end Reader

/-- The text of a value is a document with its tree. -/
theorem parse?_write (v : Json) : parse? v.write = some v.tree := by
  have htakes := Reader.takes_lexemes v []
  rw [parse?, Json.scan_write, Option.bind_some, ofTokens?, htakes]
  rfl

end Tree

end JobScheduling
