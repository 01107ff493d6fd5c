/-
# What a program run leaves behind

A run ends in a `Report`: an exit code, what was printed, and the files as they are now.  The
error output mixes messages with log lines; how talkative the log is, is a number, and
`Event.isShown` says which events a run with that number logs.
-/
import Carryover.Files.Tree

namespace Carryover.Program

open Files

/-! ## 1. Events -/

/-- What a run may log. -/
inductive Event where
  /-- Methods of a component without state; nothing is made from them. -/
  | ignoredMethods (component : String) (count : Nat)
  /-- Artifacts were made. -/
  | synthesized (component : String) (functions types : Nat)
  /-- A state module is in place. -/
  | placed (component : String) (file : Path)
  deriving DecidableEq, Repr

namespace Event

/-- Whether a run logs the event: warnings always, all else when asked to talk. -/
def isShown (verbosity : Nat) : Event → Bool
  | ignoredMethods _ _ => true
  | _ => verbosity ≠ 0

/-- The log line of an event. -/
def line : Event → String
  | ignoredMethods component count =>
    "WARN stately_codegen: update-state methods on a stateless component are ignored component=" ++
      component ++ " methods=" ++ toString count
  | synthesized component functions types =>
    "DEBUG stately_codegen: synthesized state artifacts component=" ++ component ++
      " methods=" ++ toString functions ++ " types=" ++ toString types
  | placed component file =>
    "INFO stately_codegen: wrote state module component=" ++ component ++ " file=" ++ file.text

end Event

/-! ## 2. Reports -/

/-- What goes to the error output. -/
inductive Notice where
  | log (e : Event)
  | text (s : String)
  deriving DecidableEq, Repr

/-- The outcome of a run. -/
structure Report (base : List String := defaultBase) where
  exit : Nat
  /-- What was printed, each with a line break behind it. -/
  stdout : List String
  stderr : List Notice
  files : Tree base
  /-- The files that were written. -/
  written : List (Location base)
  deriving Repr

namespace Report

variable {base : List String}

/-- The report of a run that ended before it did anything. -/
def abandoned (exit : Nat) (stderr : List String) (t : Tree base) : Report base :=
  ⟨exit, [], stderr.map .text, t, []⟩

/-- The lines of the log.  An event whose wording holds a line break begins one line only. -/
def logs (r : Report base) : List String :=
  r.stderr.filterMap fun
    | .text _ => none
    | .log e => (Text.cutAt '\n' e.line).head?

/-- What else is on the error output: the messages, and what line breaks cut off the log. -/
def messages (r : Report base) : List String :=
  r.stderr.flatMap fun
    | .text s => [s]
    | .log e => (Text.cutAt '\n' e.line).tail

end Report

end Carryover.Program
