/-
# Generating the module of one spec

A sound spec gives its artifacts, and these give the text of one file, named for the component,
in the folder for modules.  A spec with defects touches no file.
-/
import Carryover.Artifact.Inventory
import Carryover.Artifact.StateModule
import Carryover.Files.Save
import Carryover.Program.Report

namespace Carryover.Program

open Files

variable {base : List String}

/-- What was generated for a component. -/
structure Generation (base : List String := defaultBase) where
  component : String
  fields : Nat
  methods : Nat
  lazyFields : Nat
  functions : Nat
  types : Nat
  file : Path
  /-- Where the file was written; nowhere if it was up to date. -/
  written : Option (Location base)
  deriving DecidableEq, Repr

/-- Why nothing was generated. -/
inductive GenerationError where
  | rejected (r : Rejection)
  | unsaved (e : SaveError)
  deriving DecidableEq, Repr

/-- The events of making a spec's artifacts. -/
def synthesisEvents (s : Spec) (a : Artifacts) : List Event :=
  (if s.hasState ∨ s.methods.isEmpty then []
    else [.ignoredMethods s.component s.methods.length]) ++
  [.synthesized s.component a.functions.length a.types.length]

/-- The file of a spec's module in a folder. -/
def moduleFile (out : Path) (s : Spec) : Path :=
  out.join (moduleFileName s.component)

/-- The account of a spec's module, once it is in place. -/
def Generation.ofSpec (s : Spec) (a : Artifacts) (out : Path) (written : Option (Location base)) :
    Generation base where
  component := s.component
  fields := s.fields.length
  methods := s.methods.length
  lazyFields := s.lazyFields.length
  functions := a.functions.length
  types := a.types.length
  file := moduleFile out s
  written := written

/-- **The tree with the module of a spec in a folder**, with the events on the way. -/
def generateInto (out : Path) (s : Spec) (t : Tree base) (host : Host base := .plain) :
    Tree base × List Event × Except GenerationError (Generation base) :=
  match s.synthesize with
  | .error r => (t, [], .error (.rejected r))
  | .ok a =>
    let file := moduleFile out s
    let events := synthesisEvents s a
    match t.save file (s.moduleText a) host with
    | (t, .error e) => (t, events, .error (.unsaved e))
    | (t, .ok written) =>
      (t, events ++ [.placed s.component file], .ok (.ofSpec s a out written))

end Carryover.Program
