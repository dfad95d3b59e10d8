import JobScheduling.Json.Number

/-!
# Tokens of a document

A document is read in two steps. `Token.scan` splits its characters into tokens, and the
tokens are then put together to a tree.

A text keeps its escapes: a `Piece` is a character as it stands or a UTF-16 unit given by
four hexadecimal digits. Only `Piece.decode` joins the units to characters, and it fails
on half of a surrogate pair. So a text that nobody looks at may hold such a half.
-/

set_option autoImplicit false

namespace JobScheduling

/-- Part of a text: a character, or a UTF-16 unit given by its number. -/
inductive Piece
  | char (c : Char)
  | unit (n : Nat)
  deriving DecidableEq, Repr

/-- The parts of a document. -/
inductive Token
  | beginList
  | endList
  | beginRecord
  | endRecord
  | comma
  | colon
  | null
  | bool (b : Bool)
  | number (n : Numeral)
  | text (pieces : List Piece)
  deriving DecidableEq, Repr

namespace Piece

/-- Whether the unit is the first half of a surrogate pair. -/
def isHigh (n : Nat) : Bool := 0xd800 ≤ n && n < 0xdc00

/-- Whether the unit is the second half of a surrogate pair. -/
def isLow (n : Nat) : Bool := 0xdc00 ≤ n && n < 0xe000

/-- The characters of a text, or `none` when half of a surrogate pair stands alone. -/
def decode : List Piece → Option (List Char)
  | [] => some []
  | .char c :: rest => (decode rest).map (c :: ·)
  | .unit n :: .unit m :: rest =>
    if isHigh n then
      if isLow m then
        (decode rest).map (Char.ofNat (0x10000 + (n - 0xd800) * 0x400 + (m - 0xdc00)) :: ·)
      else none
    else if isLow n then none
    else (decode (.unit m :: rest)).map (Char.ofNat n :: ·)
  | .unit n :: rest =>
    if isHigh n || isLow n then none else (decode rest).map (Char.ofNat n :: ·)

/-- The text of the pieces, or `none` when half of a surrogate pair stands alone. -/
def text? (pieces : List Piece) : Option String := (decode pieces).map String.ofList

end Piece

namespace Token

/-- The value of a hexadecimal digit. -/
def hexDigit? (c : Char) : Option Nat :=
  if '0' ≤ c ∧ c ≤ '9' then some (c.toNat - '0'.toNat)
  else if 'a' ≤ c ∧ c ≤ 'f' then some (c.toNat - 'a'.toNat + 10)
  else if 'A' ≤ c ∧ c ≤ 'F' then some (c.toNat - 'A'.toNat + 10)
  else none

/-- The character that a backslash and this character stand for. -/
def escaped? : Char → Option Char
  | '"' => some '"'
  | '\\' => some '\\'
  | '/' => some '/'
  | 'b' => some '\x08'
  | 'f' => some '\x0c'
  | 'n' => some '\n'
  | 'r' => some '\r'
  | 't' => some '\t'
  | _ => none

/-- Reads a text up to its closing quote. Control characters must be escaped. -/
def scanText : List Char → Option (List Piece × List Char)
  | [] => none
  | '"' :: rest => some ([], rest)
  | '\\' :: 'u' :: a :: b :: c :: d :: rest =>
    match hexDigit? a, hexDigit? b, hexDigit? c, hexDigit? d with
    | some a, some b, some c, some d =>
      (scanText rest).map fun (pieces, left) =>
        (.unit (((a * 16 + b) * 16 + c) * 16 + d) :: pieces, left)
    | _, _, _, _ => none
  | '\\' :: e :: rest =>
    match escaped? e with
    | some c => (scanText rest).map fun (pieces, left) => (.char c :: pieces, left)
    | none => none
  | c :: rest =>
    if c.toNat < 0x20 ∨ c = '\\' then none
    else (scanText rest).map fun (pieces, left) => (.char c :: pieces, left)

/-- The value of a decimal digit. -/
def digit (c : Char) : Nat := c.toNat - '0'.toNat

/-- Reads the decimal digits at the front. -/
def scanDigits (cs : List Char) : List Nat × List Char :=
  ((cs.takeWhile Char.isDigit).map digit, cs.dropWhile Char.isDigit)

/-- Reads a point and the digits after it, of which there is at least one. -/
def scanFraction : List Char → Option (Option (List Nat) × List Char)
  | '.' :: rest =>
    match scanDigits rest with
    | ([], _) => none
    | (digits, left) => some (some digits, left)
  | cs => some (none, cs)

/-- Reads an exponent, which has at least one digit. -/
def scanExponent : List Char → Option (Option (Bool × List Nat) × List Char)
  | c :: rest =>
    if c = 'e' ∨ c = 'E' then
      let (down, rest) := match rest with
        | '+' :: rest => (false, rest)
        | '-' :: rest => (true, rest)
        | rest => (false, rest)
      match scanDigits rest with
      | ([], _) => none
      | (digits, left) => some (some (down, digits), left)
    else some (none, c :: rest)
  | [] => some (none, [])

/-- Reads a number after its sign. A leading zero is the only digit before the point. -/
def scanUnsigned (negative : Bool) (cs : List Char) : Option (Numeral × List Char) :=
  match scanDigits cs with
  | ([], _) => none
  | (0 :: _ :: _, _) => none
  | (whole, left) => do
    let (fraction, left) ← scanFraction left
    let (exponent, left) ← scanExponent left
    return (⟨negative, whole, fraction, exponent⟩, left)

/-- Reads a number. -/
def scanNumber : List Char → Option (Numeral × List Char)
  | '-' :: rest => scanUnsigned true rest
  | cs => scanUnsigned false cs

/-- Whether a character may stand between tokens. -/
def isSpace (c : Char) : Bool := c = ' ' || c = '\n' || c = '\t' || c = '\r'

/-- Reads one token at the front. -/
def scanOne : List Char → Option (Token × List Char)
  | '[' :: rest => some (.beginList, rest)
  | ']' :: rest => some (.endList, rest)
  | '\x7b' :: rest => some (.beginRecord, rest)
  | '\x7d' :: rest => some (.endRecord, rest)
  | ',' :: rest => some (.comma, rest)
  | ':' :: rest => some (.colon, rest)
  | 'n' :: 'u' :: 'l' :: 'l' :: rest => some (.null, rest)
  | 't' :: 'r' :: 'u' :: 'e' :: rest => some (.bool true, rest)
  | 'f' :: 'a' :: 'l' :: 's' :: 'e' :: rest => some (.bool false, rest)
  | '"' :: rest => (scanText rest).map fun (pieces, left) => (.text pieces, left)
  | cs => (scanNumber cs).map fun (n, left) => (.number n, left)

/-- Reads tokens until nothing is left, newest first. Every token has a character, so the
number of characters is fuel enough. -/
def scanFrom : Nat → List Token → List Char → Option (List Token)
  | 0, done, cs => if (cs.dropWhile isSpace).isEmpty then some done else none
  | fuel + 1, done, cs =>
    match cs.dropWhile isSpace with
    | [] => some done
    | cs => (scanOne cs).bind fun (token, left) => scanFrom fuel (token :: done) left

/-- The tokens of a document, or `none` when some of its characters form none. -/
def scan (cs : List Char) : Option (List Token) := (scanFrom cs.length [] cs).map List.reverse

end Token

end JobScheduling
