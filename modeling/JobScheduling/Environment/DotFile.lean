import JobScheduling.Text.Alphanumeric
import JobScheduling.Text.Blank

/-!
# Files of variables

A file of variables has a line `NAME=value` for each. Values may be quoted, hold escapes
and refer to other variables. Reading proceeds in three steps: physical lines are joined
to logical ones, because quotes go on over line ends; a logical line is split into a name
and a written value; and the written value is expanded.

A reference `$NAME` or `${NAME}` stands for the variable in the environment, or else for
the last value that an earlier line gave it, or else for nothing. A variable that is set
stays as it is, so of two lines for one name the first counts. Reading ends without a
word at the first line that is malformed; the lines before it count.
-/

set_option autoImplicit false

namespace JobScheduling

/-- Variables and their values, of which the first for a name counts. -/
abbrev Variables := List (String × String)

namespace DotFile

/-- Where in a logical line its next character stands. -/
inductive LineState
  | plain
  | space
  | escape
  | single
  | singleEscape
  | double
  | doubleEscape
  deriving DecidableEq, Repr

/-- The state after one character, or `none` where a comment begins. -/
def LineState.next : LineState → Char → Option LineState
  | .space, '#' => none
  | .space, '\\' | .plain, '\\' => some .escape
  | .space, '"' | .plain, '"' => some .double
  | .space, '\x27' | .plain, '\x27' => some .single
  | .space, _ => some .plain
  | .plain, c => some (if isBlank c ∧ c ≠ '\n' ∧ c ≠ '\r' then .space else .plain)
  | .escape, _ => some .plain
  | .double, '\\' => some .doubleEscape
  | .double, '"' => some .plain
  | .double, _ => some .double
  | .doubleEscape, _ => some .double
  | .single, '\\' => some .singleEscape
  | .single, '\x27' => some .plain
  | .single, _ => some .single
  | .singleEscape, _ => some .single

/-- Follows one physical line: the characters before a comment, and the state at the end,
or `none` for it when the line ends in a comment. -/
def follow : LineState → List Char → List Char × Option LineState
  | state, [] => ([], some state)
  | state, c :: rest =>
    match state.next c with
    | none => ([], none)
    | some state =>
      let (kept, final) := follow state rest
      (c :: kept, final)

/-- The physical lines of a file, each with its line end. -/
def physicalLines : List Char → List (List Char)
  | [] => []
  | '\n' :: rest => ['\n'] :: physicalLines rest
  | c :: rest =>
    match physicalLines rest with
    | [] => [[c]]
    | line :: lines => (c :: line) :: lines

/-- A line without its line end. -/
def withoutEnd (line : List Char) : List Char :=
  match line.reverse with
  | '\n' :: '\r' :: rest => rest.reverse
  | '\n' :: rest => rest.reverse
  | _ => line

/-- The logical lines of a file. The last one is `none` when the file ends within it.
`before` is the part of a logical line that was read before. -/
def logicalLines (before : List Char) (state : LineState) :
    List (List Char) → List (Option (List Char))
  | [] => if state = .plain then [] else [none]
  | line :: rest =>
    if ((before ++ line).dropWhile isBlank).head? = some '#' then
      logicalLines [] .plain rest
    else
      match follow state line with
      | (kept, none) => some (before ++ kept) :: logicalLines [] .plain rest
      | (_, some .plain) => some (withoutEnd (before ++ line)) :: logicalLines [] .plain rest
      | (_, some state) => logicalLines (before ++ line) state rest

/-- Whether a character may begin a name. -/
def beginsName (c : Char) : Bool := c.isAlpha || c == '_'

/-- Whether a character may go on a name. -/
def continuesName (c : Char) : Bool := c.isAlphanum || c == '_' || c == '.'

/-- Reads a name at the front. -/
def name? : List Char → Option (List Char × List Char)
  | [] => none
  | c :: rest =>
    if beginsName c then
      some (c :: rest.takeWhile continuesName, rest.dropWhile continuesName)
    else none

/-- Reads an equals sign at the front. -/
def equals? : List Char → Option (List Char)
  | '=' :: rest => some rest
  | _ => none

/-- What a logical line says. -/
inductive Line
  | nothing
  | assign (name : String) (value : List Char)
  | malformed
  deriving DecidableEq, Repr

/-- Splits a logical line. The word `export` may stand before the name. -/
def Line.parse (line : List Char) : Line :=
  let line := trim line
  if line.isEmpty ∨ line.head? = some '#' then .nothing
  else
    let split := do
      let (name, rest) ← name? line
      let rest := rest.dropWhile isBlank
      match equals? rest with
      | some value => return (name, value)
      | none =>
        if name = "export".toList then
          let (name, rest) ← name? rest
          return (name, ← equals? (rest.dropWhile isBlank))
        else none
    match split with
    | none => .malformed
    | some (name, value) => .assign (String.ofList name) (value.dropWhile isBlank)

/-- Where in a written value its next character stands. -/
inductive ValueMode
  | text
  | escape
  | single
  /-- After a space outside quotes only space and a comment may follow. -/
  | ended
  | comment
  /-- In a reference, after this much of its name, newest character first. -/
  | name (read : List Char)
  | braced (read : List Char)
  deriving DecidableEq, Repr

/-- A value that is being expanded: its characters so far, newest first, and whether a
double quote is open. -/
structure Expansion where
  value : List Char := []
  inDouble : Bool := false
  mode : ValueMode := .text
  deriving DecidableEq, Repr

namespace Expansion

/-- The expansion with a further character. -/
def push (c : Char) (e : Expansion) : Expansion := { e with value := c :: e.value, mode := .text }

/-- The expansion in another mode. -/
def enter (mode : ValueMode) (e : Expansion) : Expansion := { e with mode }

/-- The expansion with the value of a reference, whose name comes newest first. -/
def refer (resolve : String → String) (name : List Char) (e : Expansion) : Expansion :=
  { e with
    value := (resolve (String.ofList name.reverse)).toList.reverse ++ e.value
    mode := .text }

/-- Takes a character outside references, single quotes and escapes. -/
def takeText (c : Char) (e : Expansion) : Expansion :=
  if c = '$' then e.enter (.name [])
  else if c = '\\' then e.enter .escape
  else if c = '"' then { e with inDouble := !e.inDouble }
  else if e.inDouble then e.push c
  else if c = '\x27' then e.enter .single
  else if c = ' ' ∨ c = '\t' then e.enter .ended
  else e.push c

/-- Takes one character, or fails when it is malformed. -/
def take (resolve : String → String) (e : Expansion) (c : Char) : Option Expansion :=
  match e.mode with
  | .comment => some e
  | .ended =>
    if c = ' ' ∨ c = '\t' then some e else if c = '#' then some (e.enter .comment) else none
  | .escape =>
    if c = 'n' then some (e.push '\n')
    else if c = '\\' ∨ c = '\x27' ∨ c = '"' ∨ c = '$' ∨ c = ' ' then some (e.push c)
    else none
  | .single => some (if c = '\x27' then e.enter .text else (e.push c).enter .single)
  | .name read =>
    if isAlphanumeric c then some (e.enter (.name (c :: read)))
    else if c = '\x7b' ∧ read = [] then some (e.enter (.braced []))
    else
      let e := e.refer resolve read
      some (if c = '$' then e.enter (.name []) else e.push c)
  | .braced read =>
    some (if c = '\x7d' then e.refer resolve read else e.enter (.braced (c :: read)))
  | .text => some (e.takeText c)

/-- The value, once all its characters were taken. Open quotes and braces are malformed. -/
def result? (resolve : String → String) (e : Expansion) : Option String :=
  let e? := match e.mode with
    | .name read => some (e.refer resolve read)
    | .braced _ | .single => none
    | _ => some e
  e?.bind fun e => if e.inDouble then none else some (String.ofList e.value.reverse)

end Expansion

/-- Expands a written value. A comment may stand in its place. -/
def expand? (resolve : String → String) (written : List Char) : Option String :=
  if written.head? = some '#' then some ""
  else (written.foldlM (Expansion.take resolve) {}).bind (Expansion.result? resolve)

/-- What a reference stands for. -/
def resolve (set read : Variables) (name : String) : String :=
  (set.lookup name).getD ((read.lookup name).getD "")

/-- Sets the variables of logical lines. `read` holds what the lines said so far, newest
first. -/
def loadLines (set read : Variables) : List (Option (List Char)) → Variables
  | [] => set
  | none :: _ => set
  | some line :: rest =>
    match Line.parse line with
    | .nothing => loadLines set read rest
    | .malformed => set
    | .assign name written =>
      match expand? (resolve set read) written with
      | none => set
      | some value =>
        -- The first line counts for the environment, the last one for references.
        let set := if (set.lookup name).isSome then set else set ++ [(name, value)]
        loadLines set ((name, value) :: read) rest

/-- Sets the variables of a file that are not set. A mark of the byte order may stand at
the front of the file. -/
def load (set : Variables) (file : List Char) : Variables :=
  let file := if file.head? = some '\ufeff' then file.tail else file
  loadLines set [] (logicalLines [] .plain (physicalLines file))

end DotFile

end JobScheduling
