/-
# Saving a text

`Tree.save` puts a text into a file and makes the folders that the file needs.  A file that
holds exactly this text already is left alone, so that nothing looks changed that is not.  Any
other file is emptied before it is written.
-/
import Carryover.Files.Tree

namespace Carryover.Files

/-- Why a text was not saved. -/
inductive SaveError where
  /-- The folder could not be made. -/
  | folder (p : Path) (cause : Trouble)
  /-- The file could not be written. -/
  | file (p : Path) (cause : Trouble)
  deriving DecidableEq, Repr

namespace SaveError

/-- The wording of an error, without its cause. -/
def message : SaveError → String
  | folder p _ => "Failed to create directory: " ++ p.text
  | file p _ => "Failed to write " ++ p.text

/-- The trouble that an error comes from. -/
def cause : SaveError → Trouble
  | folder _ cause => cause
  | file _ cause => cause

end SaveError

/-- The bytes of a text. -/
def bytesOf (s : String) : List UInt8 :=
  s.toUTF8.data.toList

section Saving

variable {base : List String}

/-- The tree with the folders that a file needs. -/
def Tree.prepare (t : Tree base) (p : Path) (host : Host base := .plain) :
    Tree base × Except SaveError Unit :=
  match p.parent? with
  | none => (t, .ok ())
  | some d =>
    let (t, made) := t.makeFolders p.folders host
    (t, made.mapError (.folder d))

/-- Whether a file holds exactly this text. -/
def Tree.holds (t : Tree base) (p : Path) (s : String) (host : Host base := .plain) : Bool :=
  match t.read p host with
  | .ok bytes => bytes == bytesOf s
  | .error _ => false

/-- The tree with these bytes written into a file, and where.  The file is emptied first, so a
write that breaks off leaves their beginning. -/
def Tree.write (t : Tree base) (p : Path) (bytes : List UInt8) (host : Host base := .plain) :
    Tree base × Except Trouble (Location base) :=
  match host.cut? p with
  | none =>
    match t.put p bytes host with
    | .error cause => (t, .error cause)
    | .ok (t, l) => (t, .ok l)
  | some (n, cut) =>
    match t.put p (bytes.take n) host with
    | .error cause => (t, .error cause)
    | .ok (t, _) => (t, .error cut)

/-- The tree with a text written into a file, and where.  Nowhere if the file held it. -/
def Tree.update (t : Tree base) (p : Path) (s : String) (host : Host base := .plain) :
    Tree base × Except SaveError (Option (Location base)) :=
  if t.holds p s host then (t, .ok none)
  else
    match t.write p (bytesOf s) host with
    | (t, .error cause) => (t, .error (.file p cause))
    | (t, .ok l) => (t, .ok (some l))

/-- **A text saved.**  The tree is given back also on failure, because folders may have been made
before, and the file may be cut short; the location says where a file changed. -/
def Tree.save (t : Tree base) (p : Path) (s : String) (host : Host base := .plain) :
    Tree base × Except SaveError (Option (Location base)) :=
  match t.prepare p host with
  | (t, .error e) => (t, .error e)
  | (t, .ok ()) => t.update p s host

end Saving

end Carryover.Files
