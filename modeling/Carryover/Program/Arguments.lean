/-
# Arguments of the generator

`Options.ofArguments` reads the argument list, or refuses it.  Three options take a value,
which follows as the next argument or behind an equals sign; `--specs`, `--out` and `--check`
may be given once only.  There are no arguments besides options.

To ask for help is left out: `--help` and `-h` are refused like any other option that is not known,
and nothing is printed.
-/
import Carryover.Files.Path
import Carryover.Text.Split

namespace Carryover.Program

open Files

/-- What the arguments ask for. -/
structure Options where
  /-- The spec files named, in order. -/
  specs : List Path
  /-- The folder to search for further spec files. -/
  folder? : Option Path
  /-- The folder for the modules, if one is named. -/
  out? : Option Path
  /-- Make everything, but write nothing. -/
  isCheck : Bool
  /-- How often more talk was asked for. -/
  verbosity : Nat
  deriving DecidableEq, Repr

/-- An option that takes a value. -/
inductive Setting where
  | spec
  | folder
  | out
  deriving DecidableEq, Repr

/-- The option of a name. -/
def Setting.ofName? : String → Option Setting
  | "--spec" => some spec
  | "--specs" => some folder
  | "--out" => some out
  | _ => none

/-- Whether an argument may be the value of the option before it; one that looks like an
option may not. -/
def isValue (arg : String) : Bool :=
  arg ≠ "" && (arg = "-" || !arg.startsWith "-")

/-- How often `-v` is given in an argument made of it. -/
def verbosity? (arg : String) : Option Nat :=
  match arg.toList with
  | '-' :: 'v' :: vs => if vs.all (· == 'v') then some (vs.length + 1) else none
  | _ => none

/-- The name and the value of an argument with an equals sign. -/
def assigned? (arg : String) : Option (String × String) :=
  match Text.split (· == '=') arg.toList with
  | name :: first :: rest =>
    some (String.ofList name, "=".intercalate ((first :: rest).map String.ofList))
  | _ => none

namespace Options

/-- Nothing is asked for. -/
def empty : Options :=
  ⟨[], none, none, false, 0⟩

/-- The folder for the modules. -/
def out (o : Options) : Path :=
  o.out?.getD ⟨"src/generated"⟩

/-- The options with one more value; refused if there can be only one. -/
def set? (o : Options) (value : String) : Setting → Option Options
  | .spec => some { o with specs := o.specs ++ [⟨value⟩] }
  | .folder => if o.folder?.isSome then none else some { o with folder? := some ⟨value⟩ }
  | .out => if o.out?.isSome then none else some { o with out? := some ⟨value⟩ }

/-- The options once checking is asked for. -/
def check? (o : Options) : Option Options :=
  if o.isCheck then none else some { o with isCheck := true }

/-- The options once more talk is asked for. -/
def talk (o : Options) (count : Nat) : Options :=
  { o with verbosity := o.verbosity + count }

/-- The options with those that the arguments add. -/
def read? : Options → List String → Option Options
  | o, [] => some o
  | o, arg :: rest =>
    if arg = "--" then (if rest.isEmpty then some o else none)
    else if arg = "--check" then o.check?.bind fun o => o.read? rest
    else if arg = "--verbose" then (o.talk 1).read? rest
    else
      match verbosity? arg, assigned? arg, Setting.ofName? arg with
      | some count, _, _ => (o.talk count).read? rest
      | none, some (name, value), _ =>
        if value = "" then none
        else ((Setting.ofName? name).bind (o.set? value)).bind fun o => o.read? rest
      | none, none, some s =>
        match rest with
        | value :: rest =>
          if isValue value then (o.set? value s).bind fun o => o.read? rest else none
        | [] => none
      | none, none, none => none

/-- **The options that arguments ask for**, unless they are no proper arguments. -/
def ofArguments? (args : List String) : Option Options :=
  empty.read? args

end Options

end Carryover.Program
