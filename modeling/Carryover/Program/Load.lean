/-
# Loading a spec

A spec file is read byte by byte as a document.  A file that cannot be read and one that holds
no spec fail with the same headline.
-/
import Carryover.Files.Tree
import Carryover.Model.Document

namespace Carryover.Program

open Files

/-- Why a file gave no spec. -/
inductive LoadError where
  | unreadable (cause : Trouble)
  | malformed (cause : Json.Problem)
  deriving DecidableEq, Repr

namespace LoadError

/-- The wording of the cause. -/
def cause : LoadError → String
  | unreadable t => t.message
  | malformed p => p.message

/-- The wording of the error; the cause is part of it. -/
def message (e : LoadError) : String :=
  "malformed spec model: " ++ e.cause

end LoadError

/-- The spec in these bytes. -/
def specOfBytes (bytes : List UInt8) : Except LoadError Spec :=
  (Spec.ofDocument (Json.Document.read (Json.Symbol.ofBytes bytes))).mapError .malformed

/-- **The spec in a file.** -/
def loadSpec {base : List String} (t : Tree base) (p : Path) : Except LoadError Spec :=
  match t.read p with
  | .ok bytes => specOfBytes bytes
  | .error cause => .error (.unreadable cause)

end Carryover.Program
