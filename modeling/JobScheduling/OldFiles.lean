/-!
# Old files

Removes the files of a directory that were not modified for longer than a given age.
Links to files are files, and their age is that of the file they lead to. Directories are
left alone. A file modified in the future has no age.

The entries are visited in the order in which the directory lists them. A link that leads
nowhere stops the visit, and what was removed before stays removed. A file whose removal fails
is left where it is and not counted, and the visit goes on.
-/

set_option autoImplicit false

namespace JobScheduling

namespace OldFiles

/-- What an entry of a directory is. -/
inductive Kind
  | file
  | directory
  /-- A link to a file. -/
  | link
  /-- A link that leads nowhere. -/
  | brokenLink
  deriving DecidableEq, Repr

/-- An entry of a directory. -/
structure Entry where
  name : String
  kind : Kind
  /-- The time of the last modification. -/
  modifiedAt : Int
  deriving DecidableEq, Repr

/-- What is found at a path. -/
inductive Place
  | missing
  | file
  | directory (entries : List Entry)
  deriving DecidableEq, Repr

/-- Why a cleanup stopped. -/
inductive Fault
  | notListable
  | unreadable (name : String)
  deriving DecidableEq, Repr

/-- The text of a fault in the directory of a path. -/
def Fault.message (path : String) : Fault → String
  | notListable => "listing " ++ path
  | unreadable name => "reading metadata of " ++ path ++ "/" ++ name

/-- Whether the entry is a file, or leads to one. -/
def Entry.isFile (e : Entry) : Bool := e.kind == .file || e.kind == .link

/-- Whether the entry is a file that is older than `maxAge`. -/
def Entry.isExpired (now : Int) (maxAge : Nat) (e : Entry) : Bool :=
  e.isFile && maxAge < now - e.modifiedAt

/-- Removes the expired files among entries: how many were removed, and the entries left. The
removal of an entry succeeds where `removes` says so. -/
def sweep (now : Int) (maxAge : Nat) (removes : Entry → Bool) :
    List Entry → Except Fault Nat × List Entry
  | [] => (.ok 0, [])
  | e :: rest =>
    if e.kind = .brokenLink then (.error (.unreadable e.name), e :: rest)
    else
      let (removed, left) := sweep now maxAge removes rest
      if e.isExpired now maxAge && removes e then (removed.map (· + 1), left)
      else (removed, e :: left)

/-- Cleans up what is at a path. Where nothing is, nothing is removed. -/
def cleanUp (now : Int) (maxAge : Nat) (place : Place) (removes : Entry → Bool := fun _ => true) :
    Except Fault Nat × Place :=
  match place with
  | .missing => (.ok 0, .missing)
  | .file => (.error .notListable, .file)
  | .directory entries =>
    let (removed, left) := sweep now maxAge removes entries
    (removed, .directory left)

/-- The entries at a path. -/
def Place.entries : Place → List Entry
  | .directory entries => entries
  | _ => []

end OldFiles

end JobScheduling
