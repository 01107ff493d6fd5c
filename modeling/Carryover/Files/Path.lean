/-
# Paths

A path is kept as the text that was given, because messages show it so.  It is read in two
ways.

* `Path.steps` is the way that the path leads, step by step, from the working folder.
* `Path.parts` is what the path is compared by: empty parts and dots fall out, except a dot at
  the very beginning.

`Path.parent?`, `Path.folders`, `Path.fromFirst`, `Path.join` and `Path.fileName?` cut and build
the text by parts.  A path that begins with a slash leads from the outermost folder instead.
-/
import Carryover.Text.Split

namespace Carryover.Files

/-- A path as it was written. -/
structure Path where
  text : String
  deriving DecidableEq, Repr

/-- One part of a path. -/
inductive Part where
  | here
  | up
  | name (s : String)
  deriving DecidableEq, Repr

/-- The part that a piece of text stands for. -/
def Part.ofText (s : String) : Part :=
  if s = "." then here else if s = ".." then up else name s

namespace Path

/-- The pieces between the slashes. -/
def pieces (p : Path) : List String :=
  Text.cutAt '/' p.text

/-- Whether the path begins with a slash. -/
def isRooted (p : Path) : Bool :=
  p.text.startsWith "/"

/-- The way that the path leads. -/
def way (p : Path) : List Part :=
  (p.pieces.filter (· ≠ "")).map Part.ofText

/-- The way to what stands at the path.  What a slash ends has to be a folder, as if a dot
followed. -/
def steps (p : Path) : List Part :=
  p.way ++ if p.text.endsWith "/" then [.here] else []

/-- The parts behind the first piece that count. -/
def counted (pieces : List String) : List Part :=
  (pieces.filter fun s => s ≠ "" ∧ s ≠ ".").map Part.ofText

/-- The parts that the path is compared by. -/
def parts (p : Path) : List Part :=
  match p.pieces with
  | "." :: rest => .here :: counted rest
  | pieces => counted pieces

/-- The paths that end in a part that counts, the longest first, from pieces, the last one
first. -/
def heads : List String → List Path
  | [] => []
  | [first] => if first = "" then [] else [⟨first⟩]
  | last :: rest =>
    if last = "" ∨ last = "." then heads rest
    else ⟨"/".intercalate (last :: rest).reverse⟩ :: heads rest

/-- The path and the paths of the folders around it, the innermost first, without what follows
the last part of each. -/
def chain (p : Path) : List Path :=
  heads p.pieces.reverse

/-- The folders around a path, the innermost first.  The folder where all paths begin is not
among them. -/
def folders (p : Path) : List Path :=
  p.chain.tail

/-- The path without its last part; none if it has no part. -/
def parent? (p : Path) : Option Path :=
  match p.chain with
  | [] => none
  | [_] => some ⟨if p.isRooted then "/" else ""⟩
  | _ :: parent :: _ => some parent

/-- The path from its first part that counts.  Dots in front of it lead nowhere else, but a slash at
the very beginning does. -/
def fromFirst (p : Path) : Path :=
  if p.isRooted then p
  else ⟨"/".intercalate (p.pieces.dropWhile fun s => s = "" ∨ s = ".")⟩

/-- The name that the path ends in, if it ends in one. -/
def fileName? (p : Path) : Option String :=
  match p.parts.getLast? with
  | some (.name s) => some s
  | _ => none

/-- The path one name further. -/
def join (p : Path) (name : String) : Path :=
  if p.text = "" then ⟨name⟩
  else if p.text.endsWith "/" then ⟨p.text ++ name⟩
  else ⟨p.text ++ "/" ++ name⟩

end Path

/-- Whether a file's name has that extension.  A dot at the very beginning begins none. -/
def hasExtension (extension name : String) : Bool :=
  name.endsWith ("." ++ extension) && name ≠ "." ++ extension

end Carryover.Files
