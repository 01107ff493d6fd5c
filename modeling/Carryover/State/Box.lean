/-
# Boxes

A box holds one value or none.  A method gets its slots as boxes: each is filled from the old
state, the method leaves in it what it likes, and `Box.store` says what becomes of the new
state: a value in the box replaces it, an empty box leaves it alone.
-/
import Carryover.Text.Quoted

namespace Carryover.State

/-- A place for one value. -/
structure Box (α : Type) where
  value : Option α
  deriving DecidableEq, Repr

namespace Box

variable {α : Type}

/-- The box without a value. -/
def empty : Box α :=
  ⟨none⟩

/-- The box that holds a value. -/
def of (a : α) : Box α :=
  ⟨some a⟩

/-- The box after a value is put in, in the place of the one before. -/
def put (_ : Box α) (a : α) : Box α :=
  of a

/-- The value with the box that remains once it is removed. -/
def take (b : Box α) : Option α × Box α :=
  (b.value, empty)

/-- The box with its value changed, if it has one. -/
def modify (b : Box α) (f : α → α) : Box α :=
  ⟨b.value.map f⟩

/-- Whether the box holds a value. -/
def isSet (b : Box α) : Bool :=
  b.value.isSome

/-- What a place with the value `own` holds once the box is stored into it. -/
def store (b : Box α) (own : α) : α :=
  b.value.getD own

/-- A box in words, its value written by `write`. -/
def describe (write : α → String) (b : Box α) : String :=
  "StateValue \x7b value: " ++
    (match b.value with
      | none => "None"
      | some a => "Some(" ++ write a ++ ")") ++ " \x7d"

/-- A filled box replaces. -/
@[simp] theorem store_of (a own : α) : (of a).store own = a := rfl

/-- An empty box leaves alone. -/
@[simp] theorem store_empty (own : α) : (empty : Box α).store own = own := rfl

end Box

end Carryover.State
