import JobScheduling.Proofs.Json.Numeral
import JobScheduling.Proofs.Json.Quoted
import Mathlib.Data.List.Chain

/-!
# `JobScheduling.Proofs.Json.Lexeme`: the text of a value in lexemes

A compact text is a sequence of lexemes with nothing between them (`Json.toList_write`). A lexeme is
what a token is made from: it holds a number or a text where the token holds a numeral or pieces.

Each lexeme is read back as its token, a number only where the text does not go on like one
(`Lexeme.scanOne_chars`). In the text of a value no number stands directly after another
(`Json.isSpaced_lexemes_append`), so the whole text is read back (`Json.scan_write`).
-/

set_option autoImplicit false

namespace JobScheduling

/-- Part of a compact text. -/
inductive Lexeme
  | beginList
  | endList
  | beginRecord
  | endRecord
  | comma
  | colon
  | null
  | bool (b : Bool)
  | number (n : Number)
  | text (s : String)

namespace Lexeme

/-- The characters of a lexeme. -/
def chars : Lexeme → List Char
  | beginList => ['[']
  | endList => [']']
  | beginRecord => ['\x7b']
  | endRecord => ['\x7d']
  | comma => [',']
  | colon => [':']
  | null => ['n', 'u', 'l', 'l']
  | bool true => ['t', 'r', 'u', 'e']
  | bool false => ['f', 'a', 'l', 's', 'e']
  | number n => n.numeral.chars
  | text s => '"' :: (s.toList.flatMap Json.escape ++ ['"'])

/-- The token that a lexeme is read as. -/
def token : Lexeme → Token
  | beginList => .beginList
  | endList => .endList
  | beginRecord => .beginRecord
  | endRecord => .endRecord
  | comma => .comma
  | colon => .colon
  | null => .null
  | bool b => .bool b
  | number n => .number n.numeral
  | text s => .text (Piece.ofText s)

/-- Whether the lexeme is a number. -/
def isNumber : Lexeme → Bool
  | number _ => true
  | _ => false

/-! ### One lexeme -/

/-- No number begins with a character that is neither a minus sign nor a digit. -/
theorem ne_of_beginsNumber {c : Char} (h : c = '-' ∨ c.isDigit = true) (d : Char)
    (hminus : d ≠ '-') (hdigit : d.isDigit = false) : c ≠ d := by
  rintro rfl
  rcases h with rfl | h
  · exact hminus rfl
  · exact absurd h (by simp [hdigit])

/-- Where a number begins, a number is read. -/
theorem scanOne_number {c : Char} (h : c = '-' ∨ c.isDigit = true) (rest : List Char) :
    Token.scanOne (c :: rest)
      = (Token.scanNumber (c :: rest)).map fun (n, left) => (.number n, left) := by
  rw [Token.scanOne]
  all_goals
    intros
    rename_i heq
    exact absurd (List.cons.inj heq).1 (ne_of_beginsNumber h _ (by decide) (by decide))

/-- A lexeme is read back as its token. -/
theorem scanOne_chars (l : Lexeme) {rest : List Char}
    (h : l.isNumber = true → Token.EndsNumber rest) :
    Token.scanOne (l.chars ++ rest) = some (l.token, rest) := by
  cases l with
  | bool b => cases b <;> rfl
  -- A number is the one lexeme whose end is seen only by what follows.
  | number n =>
    have hscan := Token.scanNumber_chars n.isWellFormed_numeral (h rfl)
    obtain ⟨c, cs, hchars, hc⟩ := Token.head_chars n.isWellFormed_numeral
    rw [chars, hchars, List.cons_append, scanOne_number hc, ← List.cons_append, ← hchars, hscan]
    rfl
  | text s =>
    rw [chars, List.cons_append, List.append_assoc, List.singleton_append, Token.scanOne,
      Token.scanText_ofText]
    rfl
  | _ => rfl

/-- A lexeme begins with a character that is no space, and only a number goes on with a number. -/
theorem head_chars (l : Lexeme) :
    ∃ c cs, l.chars = c :: cs ∧ Token.isSpace c = false ∧
      (l.isNumber = false → c.isDigit = false ∧ c ≠ '.' ∧ c ≠ 'e' ∧ c ≠ 'E') := by
  cases l with
  | bool b => cases b <;> exact ⟨_, _, rfl, by decide, fun _ => by decide⟩
  | number n =>
    obtain ⟨c, cs, hchars, hc⟩ := Token.head_chars n.isWellFormed_numeral
    have hne := ne_of_beginsNumber hc
    refine ⟨c, cs, hchars, ?_, nofun⟩
    simp [Token.isSpace, hne ' ' (by decide) (by decide), hne '\n' (by decide) (by decide),
      hne '\t' (by decide) (by decide), hne '\r' (by decide) (by decide)]
  | _ => exact ⟨_, _, rfl, by decide, fun _ => by decide⟩

/-! ### All lexemes -/

/-- No number stands directly after another. -/
def IsSpaced (ls : List Lexeme) : Prop :=
  ls.IsChain fun l m => l.isNumber = true → m.isNumber = false

/-- What is no number may stand before anything. -/
theorem IsSpaced.cons {l : Lexeme} (hl : l.isNumber = false) {ls : List Lexeme} (h : IsSpaced ls) :
    IsSpaced (l :: ls) :=
  List.isChain_cons.2 ⟨fun _ _ hnumber => absurd hnumber (by simp [hl]), h⟩

/-- The text after a lexeme. -/
theorem IsSpaced.endsNumber {l : Lexeme} {ls : List Lexeme} (h : IsSpaced (l :: ls))
    (hl : l.isNumber = true) : Token.EndsNumber (ls.flatMap chars) := by
  intro c hc
  cases ls with
  | nil => cases hc
  | cons m ls =>
    obtain ⟨d, cs, hchars, -, hends⟩ := m.head_chars
    rw [List.flatMap_cons, hchars] at hc
    cases hc
    exact hends ((List.isChain_cons.1 h).1 m rfl hl)

/-- Spaced lexemes are read back one by one. -/
theorem scanFrom_chars {ls : List Lexeme} (h : IsSpaced ls) {fuel : Nat} (hfuel : ls.length ≤ fuel)
    (done : List Token) :
    Token.scanFrom fuel done (ls.flatMap chars) = some ((ls.map token).reverse ++ done) := by
  induction ls generalizing fuel done with
  | nil => cases fuel <;> rfl
  | cons l ls ih =>
    rw [List.length_cons] at hfuel
    obtain ⟨fuel, rfl⟩ := Nat.exists_eq_add_of_le' (Nat.le_of_add_left_le hfuel)
    -- No lexeme begins with a space, so nothing is skipped before it.
    obtain ⟨c, cs, hchars, hspace, -⟩ := l.head_chars
    have hone := scanOne_chars l h.endsNumber
    rw [hchars, List.cons_append] at hone
    rw [List.flatMap_cons, hchars, List.cons_append, Token.scanFrom, List.dropWhile_cons,
      if_neg (by simp [hspace])]
    dsimp only
    rw [hone, Option.bind_some, ih (List.isChain_cons.1 h).2 (Nat.le_of_succ_le_succ hfuel)]
    simp

/-- Every lexeme has a character. -/
theorem length_le_length_chars (ls : List Lexeme) : ls.length ≤ (ls.flatMap chars).length := by
  induction ls with
  | nil => exact Nat.le_refl 0
  | cons l ls ih =>
    obtain ⟨c, cs, hchars, -⟩ := l.head_chars
    rw [List.flatMap_cons, List.length_append, hchars, List.length_cons, List.length_cons]
    omega

/-- A text of spaced lexemes is read back. -/
theorem scan_chars {ls : List Lexeme} (h : IsSpaced ls) :
    Token.scan (ls.flatMap chars) = some (ls.map token) := by
  rw [Token.scan, scanFrom_chars h (length_le_length_chars ls)]
  simp

end Lexeme

/-! ### The lexemes of a value -/

namespace Json

mutual

/-- The lexemes of a value. -/
def lexemes : Json → List Lexeme
  | .null => [.null]
  | .bool b => [.bool b]
  | .number n => [.number n]
  | .text s => [.text s]
  | .list items => .beginList :: (itemLexemes items ++ [.endList])
  | .record fields => .beginRecord :: (fieldLexemes fields ++ [.endRecord])

/-- The lexemes of items with commas between them. -/
def itemLexemes : List Json → List Lexeme
  | [] => []
  | [item] => lexemes item
  | item :: rest => lexemes item ++ .comma :: itemLexemes rest

/-- The lexemes of fields with commas between them. -/
def fieldLexemes : List (String × Json) → List Lexeme
  | [] => []
  | [(key, value)] => .text key :: .colon :: lexemes value
  | (key, value) :: rest => .text key :: .colon :: lexemes value ++ .comma :: fieldLexemes rest

end

/-- A quoted text is written as its lexeme. -/
theorem toList_quote (s : String) : (quote s).toList = (Lexeme.text s).chars := by
  simp [quote, Lexeme.chars]

mutual

/-- The text of a value is that of its lexemes. -/
theorem toList_write (v : Json) : (write v).toList = (lexemes v).flatMap Lexeme.chars := by
  cases v with
  | null => rfl
  | bool b => cases b <;> rfl
  | number n => simp [write, lexemes, Number.write, Lexeme.chars]
  | text s => simp [write, lexemes, toList_quote]
  | list items => simp [write, lexemes, toList_writeItems items, Lexeme.chars]
  | record fields => simp [write, lexemes, toList_writeFields fields, Lexeme.chars]

/-- The items of a list are written as their lexemes, with commas between them. -/
theorem toList_writeItems (items : List Json) :
    (writeItems items).toList = (itemLexemes items).flatMap Lexeme.chars := by
  match items with
  | [] => rfl
  | [item] => rw [writeItems, itemLexemes, toList_write item]
  | item :: next :: rest =>
    have hrest := toList_writeItems (next :: rest)
    simp [writeItems, itemLexemes, toList_write item, hrest, Lexeme.chars]

/-- So are the fields of a record. -/
theorem toList_writeFields (fields : List (String × Json)) :
    (writeFields fields).toList = (fieldLexemes fields).flatMap Lexeme.chars := by
  match fields with
  | [] => rfl
  | [(key, value)] =>
    simp [writeFields, fieldLexemes, toList_write value, toList_quote, Lexeme.chars]
  | (key, value) :: next :: rest =>
    have hrest := toList_writeFields (next :: rest)
    simp [writeFields, fieldLexemes, toList_write value, toList_quote, hrest, Lexeme.chars]

end

mutual

/-- After a value anything may follow but a number. -/
theorem isSpaced_lexemes_append (v : Json) {rest : List Lexeme} (h : Lexeme.IsSpaced rest)
    (hrest : ∀ l ∈ rest.head?, l.isNumber = false) : Lexeme.IsSpaced (lexemes v ++ rest) := by
  cases v with
  | null | bool _ | text _ => exact h.cons rfl
  | number n => exact List.isChain_cons.2 ⟨fun l hl _ => hrest l hl, h⟩
  | list items =>
    rw [lexemes, List.cons_append, List.append_assoc]
    exact (isSpaced_itemLexemes_append items (h.cons rfl) (by simp [Lexeme.isNumber])).cons rfl
  | record fields =>
    rw [lexemes, List.cons_append, List.append_assoc]
    exact (isSpaced_fieldLexemes_append fields (h.cons rfl) (by simp [Lexeme.isNumber])).cons rfl

/-- Between two items there is a comma. -/
theorem isSpaced_itemLexemes_append (items : List Json) {rest : List Lexeme}
    (h : Lexeme.IsSpaced rest) (hrest : ∀ l ∈ rest.head?, l.isNumber = false) :
    Lexeme.IsSpaced (itemLexemes items ++ rest) := by
  match items with
  | [] => exact h
  | [item] => exact isSpaced_lexemes_append item h hrest
  | item :: next :: more =>
    have hmore := isSpaced_itemLexemes_append (next :: more) h hrest
    have hparts : itemLexemes (item :: next :: more) ++ rest
        = lexemes item ++ .comma :: (itemLexemes (next :: more) ++ rest) := by
      simp [itemLexemes]
    rw [hparts]
    exact isSpaced_lexemes_append item (hmore.cons rfl) (by simp [Lexeme.isNumber])

/-- Before a value there is a colon, and a comma after it. -/
theorem isSpaced_fieldLexemes_append (fields : List (String × Json)) {rest : List Lexeme}
    (h : Lexeme.IsSpaced rest) (hrest : ∀ l ∈ rest.head?, l.isNumber = false) :
    Lexeme.IsSpaced (fieldLexemes fields ++ rest) := by
  match fields with
  | [] => exact h
  | [(key, value)] => exact ((isSpaced_lexemes_append value h hrest).cons rfl).cons rfl
  | (key, value) :: next :: more =>
    have hmore := isSpaced_fieldLexemes_append (next :: more) h hrest
    have hparts : fieldLexemes ((key, value) :: next :: more) ++ rest
        = .text key :: .colon ::
          (lexemes value ++ .comma :: (fieldLexemes (next :: more) ++ rest)) := by
      simp [fieldLexemes]
    have hvalue := isSpaced_lexemes_append value (hmore.cons (l := .comma) rfl)
      (by simp [Lexeme.isNumber])
    rw [hparts]
    exact (hvalue.cons rfl).cons rfl

end

/-- The text of a value is read back as the tokens of its lexemes. -/
theorem scan_write (v : Json) :
    Token.scan (write v).toList = some ((lexemes v).map Lexeme.token) := by
  have hnil : Lexeme.IsSpaced [] := List.isChain_nil
  have hspaced : Lexeme.IsSpaced (lexemes v) := by
    simpa using isSpaced_lexemes_append v hnil (by simp)
  rw [toList_write, Lexeme.scan_chars hspaced]

end Json

end JobScheduling
