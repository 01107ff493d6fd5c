/-
# The system around the files

Folders and files alone do not say what becomes of a call.  The system may refuse a call for a
reason of its own, a write may break off when the file is cut short already, and a name may be a
link, which leads somewhere else.  A `Host` says all of this; it stays as it is while a program
runs.  `Host.plain` has nothing to say.

Of links it is known only where they really lead.  What a link needs besides, such as the folder
around the file that it leads to, is among the reasons of the system.
-/
import Carryover.Files.Location

namespace Carryover.Files

/-- Why a path does not lead to what is wanted. -/
inductive Trouble where
  | missing
  | occupied
  | notFolder
  | isFolder
  | tooLong
  | holdsNul
  | denied
  | looping
  | readOnly
  | noSpace
  | overQuota
  | tooLarge
  | broken
  deriving DecidableEq, Repr

/-- The wording of a trouble, with its number if it has one. -/
def Trouble.message : Trouble → String
  | missing => "No such file or directory (os error 2)"
  | occupied => "File exists (os error 17)"
  | notFolder => "Not a directory (os error 20)"
  | isFolder => "Is a directory (os error 21)"
  | tooLong => "File name too long (os error 36)"
  | holdsNul => "file name contained an unexpected NUL byte"
  | denied => "Permission denied (os error 13)"
  | looping => "Too many levels of symbolic links (os error 40)"
  | readOnly => "Read-only file system (os error 30)"
  | noSpace => "No space left on device (os error 28)"
  | overQuota => "Disk quota exceeded (os error 122)"
  | tooLarge => "File too large (os error 27)"
  | broken => "Input/output error (os error 5)"

/-- What can be asked of a system about a path. -/
inductive Call where
  /-- What is there? -/
  | look
  /-- Which names are in the folder? -/
  | list
  /-- What does the file hold? -/
  | read
  /-- Make a folder. -/
  | make
  /-- Open the file to write it anew. -/
  | write
  deriving DecidableEq, Repr

/-- What a system adds to its folders and files. -/
structure Host (base : List String := defaultBase) where
  /-- Why the system refuses a call that the folders and files allow. -/
  trouble? : Call → Path → Option Trouble
  /-- After how many bytes a write breaks off, and why. -/
  cut? : Path → Option (Nat × Trouble)
  /-- Where the names of a location really lead: elsewhere if a link stands there. -/
  real : Location base → Location base

namespace Host

variable {base : List String}

/-- The system that refuses nothing, finishes every write, and has no links. -/
def plain : Host base :=
  ⟨fun _ _ => none, fun _ => none, fun l => l⟩

/-- Whether a link stands at a location. -/
def isLink (host : Host base) (l : Location base) : Bool :=
  host.real l ≠ l

/-- Where one step leads. -/
def step (host : Host base) (start : Location base) : Part → Location base
  | .here => start
  | .up => start.up
  | .name s => host.real (start.enter s)

@[simp] theorem trouble?_plain (call : Call) (p : Path) :
    (plain : Host base).trouble? call p = none :=
  rfl

/-- Without links a name leads to itself. -/
@[simp] theorem step_plain_name (start : Location base) (s : String) :
    plain.step start (.name s) = start.enter s :=
  rfl

end Host

end Carryover.Files
