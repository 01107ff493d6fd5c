/-
# Updates and their queues

An update waits in a queue until it is applied to a component.  The queues are kept per
address: a handler with a component's key.  What an update is does not matter to a queue, so
the queues are written for updates of any type.

`Update` is the type of the updates that are known here.  One of them is a command or one of a
few other changes; among them it may put further updates into queues, and have a queue applied
while it is applied itself.

`Queues.get_set_self` and `Queues.get_set_of_ne` say all about setting one queue; a queue that
nothing was put into is empty.  What can be asked of a queue from outside (`count`, `modes`,
`needsRender`) is a question about `Queues.get`.
-/
import Carryover.Keyed
import Carryover.State.Command

namespace Carryover.State

/-! ## 1. Updates -/

/-- How an update was handed in: to be applied at once, on a later turn, or as an overwrite
that asks for no new rendering by itself. -/
inductive Mode where
  | sync
  | async
  | lazy
  deriving DecidableEq, Repr

/-- The word for a mode. -/
def Mode.word : Mode → String
  | sync => "sync"
  | async => "async"
  | lazy => "lazy"

/-- The place of a queue: a handler, and the key of a component. -/
structure Address where
  handler : Nat
  key : String
  deriving DecidableEq, Repr

/-- A change that waits to be applied to a component. -/
inductive Update where
  | command (c : Command)
  /-- Adds to the total in the container and stores the sum in the component. -/
  | addTotal (amount : Int64)
  /-- Overwrites the component's total. -/
  | setTotal (total : Int64)
  /-- Refuses. -/
  | fail (e : StateError)
  /-- Does nothing. -/
  | nothing
  /-- Both, the second only if the first went through. -/
  | andThen (first second : Update)
  /-- Puts an update into a queue. -/
  | enqueue (address : Address) (mode : Mode) (update : Update)
  /-- Has a queue applied to the same component. -/
  | drain (address : Address)
  /-- Aborts. -/
  | abort
  deriving DecidableEq, Repr

/-- The updates one after the other. -/
def Update.sequence (us : List Update) : Update :=
  us.foldr .andThen .nothing

/-- How many drains an update holds. -/
def Update.drains : Update → Nat
  | andThen u v => u.drains + v.drains
  | enqueue _ _ u => u.drains
  | drain _ => 1
  | _ => 0

/-! ## 2. Queues -/

/-- An update in a queue. -/
structure Pending (υ : Type) where
  mode : Mode
  update : υ
  deriving DecidableEq, Repr

/-- The queues of all addresses. -/
structure Queues (υ : Type) where
  entries : Keyed Address (List (Pending υ))
  deriving Repr

namespace Queues

variable {υ : Type}

/-- Nothing waits anywhere. -/
def empty : Queues υ :=
  ⟨[]⟩

/-- The queue of an address. -/
def get (q : Queues υ) (a : Address) : List (Pending υ) :=
  (q.entries.get? a).getD []

/-- The queues with another queue at an address. -/
def set (q : Queues υ) (a : Address) (waiting : List (Pending υ)) : Queues υ :=
  ⟨q.entries.put a waiting⟩

/-- The queues once an update is put in at the end of one. -/
def push (q : Queues υ) (a : Address) (p : Pending υ) : Queues υ :=
  q.set a (q.get a ++ [p])

/-- The queues once updates are put back, before those that came meanwhile. -/
def putBack (q : Queues υ) (a : Address) (rest : List (Pending υ)) : Queues υ :=
  q.set a (rest ++ q.get a)

/-- How many updates wait in a queue. -/
def count (q : Queues υ) (a : Address) : Nat :=
  ((q.entries.get? a).map List.length).getD 0

/-- The modes of the updates that wait in a queue, in order. -/
def modes (q : Queues υ) (a : Address) : List Mode :=
  ((q.entries.get? a).map fun waiting => waiting.map (·.mode)).getD []

/-- Whether an update of the queue asks for a new rendering; an overwrite does not. -/
def needsRender (q : Queues υ) (a : Address) : Bool :=
  (q.entries.get? a).any fun waiting => waiting.any (·.mode ≠ .lazy)

/-- How many drains wait in a queue. -/
def drainsOf (waiting : List (Pending Update)) : Nat :=
  waiting.foldr (fun p n => p.update.drains + n) 0

/-- How many drains wait in all queues. -/
def drains (q : Queues Update) : Nat :=
  q.entries.foldr (fun e n => drainsOf e.2 + n) 0

/-- The empty queues are empty everywhere. -/
@[simp] theorem get_empty (a : Address) : (empty : Queues υ).get a = [] := rfl

/-- What was set is there. -/
@[simp] theorem get_set_self (q : Queues υ) (a : Address) (l : List (Pending υ)) :
    (q.set a l).get a = l := by
  simp [set, get]

/-- **Setting one queue leaves every other as it was.** -/
@[simp] theorem get_set_of_ne (q : Queues υ) {a b : Address} (h : b ≠ a)
    (l : List (Pending υ)) : (q.set a l).get b = q.get b := by
  simp [set, get, h]

/-- The count is that of the queue; a queue that was never used counts as empty. -/
theorem count_eq (q : Queues υ) (a : Address) : q.count a = (q.get a).length := by
  unfold count get
  cases q.entries.get? a <;> rfl

/-- The modes are those of the queue. -/
theorem modes_eq (q : Queues υ) (a : Address) : q.modes a = (q.get a).map (·.mode) := by
  unfold modes get
  cases q.entries.get? a <;> rfl

/-- A rendering is asked for by an update that is no overwrite. -/
theorem needsRender_iff (q : Queues υ) (a : Address) :
    q.needsRender a = true ↔ ∃ p ∈ q.get a, p.mode ≠ .lazy := by
  unfold needsRender get
  cases q.entries.get? a <;> simp

end Queues

end Carryover.State
