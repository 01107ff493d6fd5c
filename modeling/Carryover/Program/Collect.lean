/-
# The spec files of a run

The files that were named come first, then those found in the folder, in the order of their
paths.  A file that is reached twice counts where it is reached first.

Files are told apart by one kind of key (`Identity`), which is a path compared part by part.  For
a path that leads to a file it is the path to where the file really is, from the outermost
folder; for any other path it is the path itself.  The two kinds can meet: with a slash at its
end the path to a file leads to nothing, but its parts are those of the path to the file.
-/
import Carryover.Files.Tree
import Carryover.Program.Arguments

namespace Carryover.Program

open Files

variable {base : List String}

/-- What tells files apart: the path that a program would write to get there, part by part. -/
structure Identity where
  isRooted : Bool
  parts : List Part
  deriving DecidableEq, Repr

/-- A path as it is written. -/
def Identity.ofPath (p : Path) : Identity :=
  ⟨p.isRooted, p.parts⟩

/-- The path to a location from the outermost folder. -/
def Identity.ofLocation (l : Location base) : Identity :=
  ⟨true, l.names.map .name⟩

/-- What tells the file of a path apart: where it really is, if something is there that the system
lets be seen, or else the path as it is written.  How long the path is does not matter here. -/
def identity (t : Tree base) (p : Path) (host : Host base := .plain) : Identity :=
  match t.resolve p p.steps host, host.trouble? .look p with
  | .ok l, none => if (t.get? l).isSome then .ofLocation l else .ofPath p
  | _, _ => .ofPath p

/-- The paths whose files were not seen before, each file once. -/
def firstOfEach (t : Tree base) (seen : List Identity) (ps : List Path)
    (host : Host base := .plain) : List Path :=
  match ps with
  | [] => []
  | p :: ps =>
    let i := identity t p host
    if i ∈ seen then firstOfEach t seen ps host else p :: firstOfEach t (i :: seen) ps host

/-- Whether a path looks like a spec file. -/
def isSpecFile (p : Path) : Bool :=
  p.fileName?.any (hasExtension "json")

/-- A folder that cannot be searched to the end. -/
structure SearchError where
  folder : Path
  /-- Where the search ended. -/
  place : Path
  cause : Trouble
  deriving DecidableEq, Repr

/-- A cause with its number.  Further lines of it stand below the first. -/
def numbered (n : Nat) (cause : String) : String :=
  "    " ++ toString n ++ ": " ++ "\n       ".intercalate (Text.cutAt '\n' cause)

/-- The wording of an error, with its causes in order. -/
def SearchError.message (e : SearchError) : String :=
  let cause := e.cause.message
  "Error: Failed to walk spec directory " ++ e.folder.text ++ "\n\nCaused by:\n" ++
    numbered 0 ("IO error for operation on " ++ e.place.text ++ ": " ++ cause) ++ "\n" ++
    numbered 1 cause

/-- The spec files found in the folder. -/
def discovered (o : Options) (t : Tree base) (host : Host base := .plain) :
    Except SearchError (List Path) :=
  match o.folder? with
  | none => .ok []
  | some d =>
    match t.filesBelow d host with
    | .ok ps => .ok (ps.filter isSpecFile)
    | .error (place, cause) => .error ⟨d, place, cause⟩

/-- **The spec files of a run**, in order. -/
def specFiles (o : Options) (t : Tree base) (host : Host base := .plain) :
    Except SearchError (List Path) :=
  (discovered o t host).map fun found => firstOfEach t [] (o.specs ++ found) host

end Carryover.Program
