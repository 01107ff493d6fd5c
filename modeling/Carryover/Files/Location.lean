/-
# Locations

A path tells how to get somewhere; a `Location` is the place that it leads to.  Different paths
may lead to the same place.  A location is known by the names that lead to it from the outermost
folder.

Paths begin in the working folder, so it matters where that one stands.  Its own names are the
parameter `base` of all that follows.
-/
import Carryover.Files.Path

namespace Carryover.Files

/-- The names of the working folder where none are given. -/
def defaultBase : List String :=
  ["tmp", "work"]

/-- A place for a file or a folder: the names that lead there from the outermost folder. -/
structure Location (base : List String := defaultBase) where
  names : List String
  deriving DecidableEq, Repr

namespace Location

variable {base : List String}

/-- The working folder. -/
def work : Location base :=
  ⟨base⟩

/-- The outermost folder. -/
def top : Location base :=
  ⟨[]⟩

/-- The location of names below a location. -/
def below (l : Location base) (names : List String) : Location base :=
  ⟨l.names ++ names⟩

/-- The location of names in the working folder. -/
def inside (names : List String) : Location base :=
  work.below names

/-- Whether the location is in the working folder, at any depth. -/
def isInside (l : Location base) : Bool :=
  base.isPrefixOf l.names

/-- Whether the location is the working folder or a folder around it. -/
def isAbove (l : Location base) : Bool :=
  l.names.isPrefixOf base

/-- The working folder is one of these, and so is the outermost folder. -/
@[simp] theorem isAbove_work : (work : Location base).isAbove = true := by
  simp [isAbove, work]

@[simp] theorem isAbove_top : (top : Location base).isAbove = true :=
  rfl

/-- The location of a name in a folder. -/
def enter (l : Location base) (name : String) : Location base :=
  ⟨l.names ++ [name]⟩

theorem below_nil (l : Location base) : l.below [] = l := by
  simp [below]

theorem below_enter (l : Location base) (name : String) (names : List String) :
    (l.enter name).below names = l.below (name :: names) := by
  simp [below, enter]

theorem enter_below (l : Location base) (names : List String) (name : String) :
    (l.below names).enter name = l.below (names ++ [name]) := by
  simp [below, enter]

/-- Different names below a location lead to different locations. -/
theorem below_inj {l : Location base} {a b : List String} : l.below a = l.below b ↔ a = b := by
  simp [below]

/-- The folder around a location.  Nothing is around the outermost folder but itself. -/
def up (l : Location base) : Location base :=
  ⟨l.names.dropLast⟩

/-- The names that lead from a folder to a location below it. -/
def below? (folder l : Location base) : Option (List String) :=
  if folder.names.isPrefixOf l.names then some (l.names.drop folder.names.length) else none

/-- The plainest path to a location. -/
def path (l : Location base) : Path :=
  if l.isInside then ⟨"/".intercalate (l.names.drop base.length)⟩
  else ⟨"/" ++ "/".intercalate l.names⟩

end Location

end Carryover.Files
