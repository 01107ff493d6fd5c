/-
# The outline of a spec

The program that loads one spec, prints its shape, and says whether it is sound.  The shape is
printed of a spec with defects too.
-/
import Carryover.Model.Validity
import Carryover.Program.Load
import Carryover.Program.Report

namespace Carryover.Program

open Files

/-- A text filled up with spaces to a width in characters. -/
def padded (width : Nat) (s : String) : String :=
  s ++ String.ofList (List.replicate (width - s.length) ' ')

/-- The line of a field. -/
def fieldLine (f : Field) : String :=
  "    " ++ padded 16 f.name ++ " " ++ f.type ++ if f.isLazy then "  [lazy]" else ""

/-- A parameter as the method sees it: a slot comes in a box. -/
def paramText (p : Param) : String :=
  p.name ++ ": " ++
    match p.role with
    | .captured => p.type
    | .slot => "&mut StateValue<" ++ p.type ++ ">"

/-- The line of a method. -/
def methodLine (m : Method) : String :=
  "    " ++ m.name ++ "(" ++ ", ".intercalate (m.params.map paramText) ++ ")"

/-- The shape of a spec, line by line. -/
def outline (s : Spec) : List String :=
  [s.component ++ " (spec " ++ s.path ++ ")",
    "  State fields:    " ++ toString s.fields.length] ++
  s.fields.map fieldLine ++
  ["  Update methods:  " ++ toString s.methods.length] ++
  s.methods.map methodLine

/-- **The outline program**, run with arguments in a tree of files; only the first argument
counts. -/
def runOutline {base : List String} (args : List String) (t : Tree base) : Report base :=
  match args with
  | [] => .abandoned 2 ["usage: dump_model <spec.json>"] t
  | file :: _ =>
    match loadSpec t ⟨file⟩ with
    | .error e => .abandoned 1 [file ++ ": " ++ e.message] t
    | .ok s =>
      match s.check with
      | .ok () => ⟨0, outline s ++ ["Model is valid."], [], t, []⟩
      | .error r => ⟨1, outline s, [.text r.message], t, []⟩

end Carryover.Program
