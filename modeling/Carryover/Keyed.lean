/-
# Entries by key

A list of pairs, each a key with a value, in which the first pair of a key counts.  `put` is
the one way to change it, and `get?_put_self` and `get?_put_of_ne` say all about it: the key
that was put has the new value, and every other key what it had.
-/
namespace Carryover

/-- Values by key. -/
abbrev Keyed (κ α : Type) :=
  List (κ × α)

namespace Keyed

variable {κ α : Type} [DecidableEq κ]

/-- The value of a key. -/
def get? (es : Keyed κ α) (k : κ) : Option α :=
  (es.find? (·.1 = k)).map (·.2)

/-- The entries with a value for a key, in the place of the one before. -/
def put (es : Keyed κ α) (k : κ) (a : α) : Keyed κ α :=
  (k, a) :: es.filter (·.1 ≠ k)

/-- A key that was put has the value. -/
@[simp] theorem get?_put_self (es : Keyed κ α) (k : κ) (a : α) :
    (es.put k a).get? k = some a := by
  simp [put, get?]

/-- **Putting one key changes no other.** -/
@[simp] theorem get?_put_of_ne (es : Keyed κ α) {j k : κ} (h : j ≠ k) (a : α) :
    (es.put k a).get? j = es.get? j := by
  have hk : ¬ k = j := fun e => h e.symm
  simp only [put, get?, List.find?_cons, hk, decide_false, List.find?_filter]
  congr 2
  funext e
  by_cases he : e.1 = j <;> simp [he, h]

end Keyed

end Carryover
