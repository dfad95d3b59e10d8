import JobScheduling.Text.Unprintable

/-!
# Quoted text

A text is shown between quotes. Quotes and backslashes in it have a backslash in front,
line ends, tabs and the null character are written as letters or a digit after a
backslash, and every other unprintable character is written by its code point.
-/

set_option autoImplicit false

namespace JobScheduling

namespace Quoted

/-- A code point between braces, in hexadecimal. -/
def codePoint (c : Char) : List Char :=
  ['\\', 'u', '\x7b'] ++ Nat.toDigits 16 c.toNat ++ ['\x7d']

/-- A character inside a quoted text. -/
def escape (c : Char) : List Char :=
  if c = '\x00' then ['\\', '0']
  else if c = '\t' then ['\\', 't']
  else if c = '\r' then ['\\', 'r']
  else if c = '\n' then ['\\', 'n']
  else if c = '\\' then ['\\', '\\']
  else if c = '"' then ['\\', '"']
  else if isUnprintable c then codePoint c
  else [c]

/-- A text between quotes. -/
def text (s : String) : String := "\"" ++ String.ofList (s.toList.flatMap escape) ++ "\""

end Quoted

end JobScheduling
