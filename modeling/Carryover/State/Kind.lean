/-
# Kinds of components and state errors

The kinds of components that a queue of updates can meet, and what goes wrong when an update
or a transfer meets the wrong one.  An error names the concrete type that it expected; the
wording is in `StateError.message`.
-/
namespace Carryover.State

/-- The kinds of components.  A badge keeps no state; a hollow component says that it does,
but has no container. -/
inductive Kind where
  | counter
  | label
  | title
  | greeter
  | badge
  | tally
  | hollow
  deriving DecidableEq, Repr

namespace Kind

/-- The type of the components of a kind. -/
def componentName : Kind → String
  | counter => "Counter"
  | label => "Label"
  | title => "Title"
  | greeter => "Greeter"
  | badge => "Badge"
  | tally => "Tally"
  | hollow => "Hollow"

/-- The type of the containers of a kind. -/
def containerName : Kind → String
  | tally => "TallyState"
  | k => k.componentName ++ "StateContainer"

end Kind

/-- The concrete type that something was expected to be. -/
inductive Expected where
  | container (kind : Kind)
  | component (kind : Kind)
  | named (name : String)
  deriving DecidableEq, Repr

/-- The full name of the type; `home` is the path of the place that declares a kind. -/
def Expected.fullName (home : Kind → String) : Expected → String
  | container k => home k ++ "::" ++ k.containerName
  | component k => home k ++ "::" ++ k.componentName
  | named s => s

/-- Why state cannot be updated or transferred. -/
inductive StateError where
  /-- The container belongs to another kind of component. -/
  | containerMismatch (expected : Expected)
  /-- The component is of another kind. -/
  | componentMismatch (expected : Expected)
  /-- The component exposes no container. -/
  | missingContainer
  deriving DecidableEq, Repr

/-- The wording of an error. -/
def StateError.message (home : Kind → String) : StateError → String
  | containerMismatch e => "state container is not a `" ++ e.fullName home ++ "`"
  | componentMismatch e => "component is not a `" ++ e.fullName home ++ "`"
  | missingContainer => "component has no state container"

end Carryover.State
