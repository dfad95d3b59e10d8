import JobScheduling.Job.Basic

/-!
# Reference ids of new jobs

A new job gets a random identifier of version 4: sixteen random bytes as hexadecimal
digits in five groups, with the version and the variant in fixed places.
-/

set_option autoImplicit false

namespace JobScheduling

namespace Identifier

/-- A byte as two hexadecimal digits. -/
def hexByte (byte : Nat) : List Char := [Json.hexChar (byte / 16 % 16), Json.hexChar (byte % 16)]

/-- The byte at a place of an identifier: the seventh holds the version, the ninth the
variant. -/
def marked (place byte : Nat) : Nat :=
  if place = 6 then 0x40 + byte % 16
  else if place = 8 then 0x80 + byte % 64
  else byte

/-- The places before which a dash stands. -/
def dashed (place : Nat) : Bool := place = 4 || place = 6 || place = 8 || place = 10

/-- The identifier of sixteen random bytes, given by their places. -/
def ofBytes (random : Nat → Nat) : String :=
  String.ofList <| (List.range 16).flatMap fun place =>
    (if dashed place then ['-'] else []) ++ hexByte (marked place (random place))

end Identifier

/-- A new job submitted now by nobody in particular, with an identifier made of random
bytes. -/
def Job.new (now : Nat) (random : Nat → Nat) (params : Json) : Job :=
  { id := Identifier.ofBytes random, submittedAt := now, params }

end JobScheduling
