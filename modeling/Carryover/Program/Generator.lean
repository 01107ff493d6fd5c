/-
# The generator

The program that generates, or only checks, the modules of a list of spec files.  Each file is
an attempt of its own: one that fails is reported and counted, and the others go on.  The
program fails if any attempt did.
-/
import Carryover.Program.Collect
import Carryover.Program.Generation
import Carryover.Program.Load

namespace Carryover.Program

open Files

variable {base : List String}

/-! ## 1. One spec file -/

/-- Why an attempt failed. -/
inductive Failure where
  | unloaded (p : Path) (e : LoadError)
  | ungenerated (e : GenerationError)
  deriving DecidableEq, Repr

/-- The wording of a failure, with its causes behind colons. -/
def Failure.message : Failure → String
  | unloaded p e =>
    "Failed to load spec model " ++ p.text ++ ": " ++ e.message ++ ": " ++ e.cause
  | ungenerated (.rejected r) => r.message
  | ungenerated (.unsaved e) => e.message ++ ": " ++ e.cause.message

/-- What became of one spec file. -/
structure Attempt (base : List String := defaultBase) where
  file : Path
  events : List Event
  /-- The success in words, and where a file was written. -/
  result : Except Failure (String × Option (Location base))
  deriving Repr

/-- A checked spec in words. -/
def checkedLine (s : Spec) (a : Artifacts) : String :=
  "OK   " ++ s.component ++ ": " ++ toString a.functions.length ++ " methods, " ++
    toString a.types.length ++ " types"

/-- A generated module in words. -/
def generatedLine (g : Generation base) : String :=
  "OK   " ++ g.component ++ ": " ++ toString g.fields ++ " state fields, " ++
    toString g.methods ++ " update methods, " ++ toString g.lazyFields ++
    " lazy updaters -> " ++ g.file.text

/-- A spec that is only checked. -/
def checkSpec (file : Path) (s : Spec) : Attempt base :=
  match s.synthesize with
  | .error r => ⟨file, [], .error (.ungenerated (.rejected r))⟩
  | .ok a => ⟨file, synthesisEvents s a, .ok (checkedLine s a, none)⟩

/-- The tree after an attempt at one spec file, with the attempt. -/
def attempt (o : Options) (t : Tree base) (file : Path) : Tree base × Attempt base :=
  match loadSpec t file with
  | .error e => (t, ⟨file, [], .error (.unloaded file e)⟩)
  | .ok s =>
    if o.isCheck then (t, checkSpec file s)
    else
      match generateInto o.out s t with
      | (t, events, .error e) => (t, ⟨file, events, .error (.ungenerated e)⟩)
      | (t, events, .ok g) => (t, ⟨file, events, .ok (generatedLine g, g.written)⟩)

/-- The tree after attempts at all files in turn, with the attempts. -/
def attemptAll (o : Options) : Tree base → List Path → Tree base × List (Attempt base)
  | t, [] => (t, [])
  | t, file :: files =>
    let (t, a) := attempt o t file
    let (t, as) := attemptAll o t files
    (t, a :: as)

/-! ## 2. The report -/

namespace Attempt

/-- Whether an attempt failed. -/
def isFailure (a : Attempt base) : Bool :=
  match a.result with
  | .ok _ => false
  | .error _ => true

/-- What an attempt prints. -/
def stdout (a : Attempt base) : List String :=
  match a.result with
  | .ok (line, _) => ["  " ++ line]
  | .error _ => []

/-- What an attempt writes to the error output. -/
def stderr (verbosity : Nat) (a : Attempt base) : List Notice :=
  (a.events.filter (·.isShown verbosity)).map .log ++
    match a.result with
    | .ok _ => []
    | .error f => [.text ("  FAIL " ++ a.file.text ++ ": " ++ f.message)]

/-- Where an attempt wrote a file. -/
def written (a : Attempt base) : Option (Location base) :=
  match a.result with
  | .ok (_, l) => l
  | .error _ => none

end Attempt

/-- The report on attempts. -/
def Report.ofAttempts (o : Options) (t : Tree base) (as : List (Attempt base)) : Report base :=
  let failed := as.countP (·.isFailure)
  { exit := if failed = 0 then 0 else 1
    stdout :=
      ("Processing " ++ toString as.length ++ " spec model(s)") :: as.flatMap (·.stdout) ++
        if failed = 0 then [(if o.isCheck then "Check" else "Generation") ++ " complete."] else []
    stderr := as.flatMap (·.stderr o.verbosity) ++
      if failed = 0 then []
      else [.text (toString failed ++ " of " ++ toString as.length ++ " spec model(s) failed.")]
    files := t
    written := as.filterMap (·.written) }

/-- A run with proper options. -/
def generateAll (o : Options) (t : Tree base) : Report base :=
  match specFiles o t with
  | .error e => .abandoned 1 [e.message] t
  | .ok [] =>
    .abandoned 1 ["Error: no spec models given: pass --spec <file> or --specs <dir>"] t
  | .ok files =>
    let (t, as) := attemptAll o t files
    .ofAttempts o t as

/-- **The generator**, run with arguments in a tree of files. -/
def runGenerator (args : List String) (t : Tree base) : Report base :=
  match Options.ofArguments? args with
  | none => .abandoned 2 [] t
  | some o => generateAll o t

end Carryover.Program
